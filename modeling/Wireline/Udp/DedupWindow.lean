import Wireline.Library.Execution
import Wireline.Library.Recency
import Wireline.Udp.Server

namespace Wireline

open Recency

/-!
# What the window remembers

The window is a bounded memory of the numbers it was told.  A repeated number
moves to the end with its new reply, and the numbers that were told longest
ago leave first.  What the window holds after any calls is therefore a
function of the history of `put`, and of nothing else.
-/

/-! ## The eviction loop -/

/-- One round of `while len(entries) > size: popitem(last=False)`, and `none`
where the loop ends. -/
def evictRound (size : Nat) (entries : List (Int × Bytes)) (_ : Unit) :
    Option (List (Int × Bytes)) :=
  if size < entries.length then some entries.tail else none

/-- The loop ends after as many rounds as there are entries too many. -/
theorem evict_terminates (size : Nat) (entries : List (Int × Bytes)) :
    Execution.run (evictRound size) entries (List.replicate (entries.length - size) ()) =
        some (evict size entries) ∧
      evictRound size (evict size entries) () = none := by
  induction entries with
  | nil => exact ⟨by simp [Execution.run, evict], by simp [evictRound, evict]⟩
  | cons entry entries ih =>
      rw [evict]
      by_cases beyond : size < (entry :: entries).length
      · have more : (entry :: entries).length - size = entries.length - size + 1 := by
          rw [List.length_cons] at beyond ⊢
          omega
        have popped : evictRound size (entry :: entries) () = some entries := if_pos beyond
        rw [if_pos beyond, more, List.replicate_succ]
        exact ⟨Execution.run_of_step _ popped ih.1, ih.2⟩
      · rw [if_neg beyond, Nat.sub_eq_zero_of_le (Nat.le_of_not_lt beyond)]
        exact ⟨rfl, if_neg beyond⟩

/-! ## Calls -/

inductive WindowCall
  | put (seq : Int) (reply : Bytes)
  | get (seq : Int)
deriving DecidableEq, Repr

/-- What a call stores. -/
def WindowCall.stored : WindowCall -> Option (Int × Bytes)
  | .put seq reply => some (seq, reply)
  | .get _ => none

namespace DedupWindow

/-- `seq in window` -/
def contains (window : DedupWindow) (seq : Int) : Bool :=
  (window.entries.map Prod.fst).contains seq

/-- `len(window)` -/
def len (window : DedupWindow) : Nat := window.entries.length

/-- The window after a call, and what the call returns. -/
def call (window : DedupWindow) : WindowCall -> DedupWindow × Option Bytes
  | .put seq reply => (window.put seq reply, none)
  | .get seq => (window, window.get seq)

def run (window : DedupWindow) (calls : List WindowCall) : DedupWindow :=
  calls.foldl (fun window event => (window.call event).1) window

theorem entries_put_remember (window : DedupWindow) (seq : Int) (reply : Bytes) :
    (window.put seq reply).entries = remember window.size window.entries (seq, reply) :=
  entries_put_eq ..

/-- Calls of `get` leave no trace. -/
theorem run_filter (window : DedupWindow) (calls : List WindowCall) :
    window.run (calls.filter fun event => event.stored.isSome) = window.run calls := by
  induction calls generalizing window with
  | nil => rfl
  | cons event calls ih =>
      cases event with
      | put seq reply => exact ih (window.put seq reply)
      | get seq => exact ih window

/-- The window is the bounded memory of what was stored. -/
theorem entries_run (window : DedupWindow) (calls : List WindowCall) :
    (window.run calls).entries =
      (calls.filterMap WindowCall.stored).foldl (remember window.size) window.entries := by
  induction calls generalizing window with
  | nil => rfl
  | cons event calls ih =>
      cases event with
      | put seq reply =>
          have rest := ih (window.put seq reply)
          rw [entries_put_remember] at rest
          exact rest
      | get seq => exact ih window

theorem contains_iff (window : DedupWindow) (seq : Int) :
    window.contains seq = true <-> seq ∈ window.entries.map Prod.fst :=
  List.contains_iff_mem

/-- The window holds the last numbers that were told, in the order in which
they were told last, each with its last reply. -/
theorem run_keeps (size : Nat) (calls : List WindowCall) :
    let window := (empty size).run calls
    let puts := calls.filterMap WindowCall.stored
    let seqs := puts.map Prod.fst
    let kept := seqs.dedup.rtake size  -- `dedup` leaves the last of equal numbers
    window.entries.map Prod.fst = kept ∧ window.len = min size seqs.toFinset.card ∧
      (forall seq, window.contains seq = true <-> seq ∈ kept) ∧
      (forall seq, seq ∈ kept <-> ∃ before after, seqs = before ++ seq :: after ∧ seq ∉ after ∧
        after.toFinset.card < size) ∧
      (forall seq, window.get seq = if seq ∈ kept then lastFor puts seq else none) ∧
      window = (empty size).run (calls.filter fun event => event.stored.isSome) ∧
      forall entries, ∃ rounds,
        Execution.run (evictRound size) entries (List.replicate rounds ()) =
            some (evict size entries) ∧
          evictRound size (evict size entries) () = none := by
  intro window puts seqs kept
  have entries : window.entries = (latest puts).rtake size :=
    (entries_run (empty size) calls).trans (foldl_remember size puts)
  have numbers : window.entries.map Prod.fst = kept := by
    rw [entries, Sequences.map_rtake, map_fst_latest]
  refine ⟨numbers, ?_, ?_, ?_, ?_, (run_filter (empty size) calls).symm, ?_⟩
  · rw [List.card_toFinset, ← Sequences.length_rtake, len, ← List.length_map Prod.fst, numbers]
  · intro seq
    rw [contains_iff, numbers]
  · intro seq
    simp only [List.card_toFinset]
    exact mem_rtake_dedup_iff
  · intro seq
    rw [get, entries, lookup_rtake (nodup_latest puts), map_fst_latest, lookup_latest]
  · intro entries
    exact ⟨_, evict_terminates size entries⟩

end DedupWindow
end Wireline
