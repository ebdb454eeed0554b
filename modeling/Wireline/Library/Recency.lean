import Mathlib
import Wireline.Library.Sequences

namespace Recency

open Sequences

/-!
# The most recent keys

A bounded memory is told values under keys.  It moves the key it is told to
the end and forgets from the front.  Whatever it was told, it holds for the
keys that it was told last, in the order of these moments, what it was told
last about each.

`latest` is the memory without a bound.  The bound may be applied at the end or
after each value, because a key that has left the memory is not missed when it
is told again.
-/

universe u v

variable {κ : Type u} {α : Type v} [DecidableEq κ]

/-- The last entry for each key, in the order of these entries. -/
def latest : List (κ × α) -> List (κ × α)
  | [] => []
  | entry :: entries =>
      if entry.1 ∈ entries.map Prod.fst then latest entries else entry :: latest entries

/-- The value of the last entry for a key. -/
def lastFor (entries : List (κ × α)) (key : κ) : Option α := entries.reverse.lookup key

/-- Put an entry at the end, in place of any other for its key. -/
def renew (entries : List (κ × α)) (entry : κ × α) : List (κ × α) :=
  entries.filter (fun other => other.1 ≠ entry.1) ++ [entry]

theorem map_fst_latest (entries : List (κ × α)) :
    (latest entries).map Prod.fst = (entries.map Prod.fst).dedup := by
  induction entries with
  | nil => rfl
  | cons entry entries ih =>
      rw [latest, List.map_cons]
      by_cases again : entry.1 ∈ entries.map Prod.fst
      · rw [if_pos again, List.dedup_cons_of_mem again, ih]
      · rw [if_neg again, List.dedup_cons_of_notMem again, List.map_cons, ih]

theorem nodup_latest (entries : List (κ × α)) : ((latest entries).map Prod.fst).Nodup := by
  rw [map_fst_latest]
  exact List.nodup_dedup _

/-- A new entry renews its key. -/
theorem latest_concat (entries : List (κ × α)) (entry : κ × α) :
    latest (entries ++ [entry]) = renew (latest entries) entry := by
  induction entries with
  | nil => simp [latest, renew]
  | cons first entries ih =>
      rw [List.cons_append, latest, latest, List.map_append, List.map_singleton, ih]
      by_cases again : first.1 ∈ entries.map Prod.fst
      · rw [if_pos again, if_pos (List.mem_append_left _ again)]
      · rw [if_neg again]
        by_cases same : first.1 = entry.1
        · rw [if_pos (List.mem_append_right _ (List.mem_singleton.mpr same)), renew, renew,
            List.filter_cons_of_neg (by simpa using same)]
        · have absent : first.1 ∉ entries.map Prod.fst ++ [entry.1] := by
            simp only [List.mem_append, List.mem_singleton, not_or]
            exact ⟨again, same⟩
          rw [if_neg absent, renew, renew, List.filter_cons_of_pos (by simpa using same),
            List.cons_append]

/-! ## A bound -/

omit [DecidableEq κ] in
theorem rtake_append_of_le_length (front : List α) {back : List α} {size : Nat}
    (enough : size ≤ back.length) : (front ++ back).rtake size = back.rtake size := by
  rw [List.rtake, List.rtake, List.length_append, List.drop_append,
    List.drop_of_length_le (by omega), List.nil_append]
  congr 1
  omega

/-- At most one entry gives way to a new one. -/
theorem length_le_length_filter {entries : List (κ × α)} (unique : (entries.map Prod.fst).Nodup)
    (key : κ) : entries.length ≤ (entries.filter (fun other => other.1 ≠ key)).length + 1 := by
  induction entries with
  | nil => exact Nat.zero_le _
  | cons first entries ih =>
      rw [List.map_cons, List.nodup_cons] at unique
      by_cases same : first.1 = key
      · have others : entries.filter (fun other => other.1 ≠ key) = entries := by
          rw [List.filter_eq_self]
          intro other member
          apply decide_eq_true
          rintro rfl
          exact unique.1 (List.mem_map.mpr ⟨other, member, same.symm⟩)
        rw [List.filter_cons_of_neg (by simpa using same), others, List.length_cons]
      · have shorter := ih unique.2
        rw [List.filter_cons_of_pos (by simpa using same), List.length_cons, List.length_cons]
        omega

/-- An entry that the bound has dropped is not missed when its key is
renewed. -/
theorem rtake_renew {entries : List (κ × α)} (unique : (entries.map Prod.fst).Nodup)
    (entry : κ × α) (size : Nat) :
    (renew (entries.rtake size) entry).rtake size = (renew entries entry).rtake size := by
  cases size with
  | zero => simp
  | succ size =>
      rw [renew, renew, List.rtake_concat_succ, List.rtake_concat_succ]
      congr 1
      by_cases fits : entries.length ≤ size + 1
      · have whole : entries.rtake (size + 1) = entries := by
          rw [List.rtake, Nat.sub_eq_zero_of_le fits, List.drop_zero]
        rw [whole]
      · let front := entries.take (entries.length - (size + 1))
        have split : entries = front ++ entries.rtake (size + 1) :=
          (List.take_append_drop _ entries).symm
        have length : (entries.rtake (size + 1)).length = size + 1 := by
          rw [length_rtake]
          omega
        have kept : ((entries.rtake (size + 1)).map Prod.fst).Nodup :=
          unique.sublist ((List.drop_sublist _ _).map Prod.fst)
        have enough := length_le_length_filter kept entry.1
        conv_rhs => rw [split, List.filter_append]
        rw [rtake_append_of_le_length _ (by omega)]

/-- What a memory of a bounded size holds after one more entry. -/
def remember (size : Nat) (held : List (κ × α)) (entry : κ × α) : List (κ × α) :=
  (renew held entry).rtake size

/-- A bounded memory holds the most recent part of an unbounded one. -/
theorem foldl_remember (size : Nat) (entries : List (κ × α)) :
    entries.foldl (remember size) [] = (latest entries).rtake size := by
  induction entries using List.reverseRecOn with
  | nil => rw [latest, List.rtake_nil, List.foldl_nil]
  | append_singleton entries entry ih =>
      rw [List.foldl_append, List.foldl_cons, List.foldl_nil, ih, remember,
        rtake_renew (nodup_latest entries), latest_concat]

omit [DecidableEq κ] in
theorem mem_rtake_iff {front back : List κ} {key : κ} (unique : (front ++ key :: back).Nodup)
    (size : Nat) : key ∈ (front ++ key :: back).rtake size <-> back.length < size := by
  have absent : key ∉ back := by
    have suffix := unique.sublist (List.sublist_append_right front (key :: back))
    exact (List.nodup_cons.mp suffix).1
  constructor
  · intro member
    by_contra! beyond
    have dropped : (front ++ key :: back).rtake size = back.rtake size := by
      rw [← List.singleton_append, ← List.append_assoc]
      exact rtake_append_of_le_length _ beyond
    rw [dropped] at member
    exact absent (List.mem_of_mem_drop member)
  · intro fewer
    have within : (front ++ key :: back).length - size ≤ front.length := by
      rw [List.length_append, List.length_cons]
      omega
    rw [List.rtake, List.drop_append_of_le_length within]
    exact List.mem_append_right _ List.mem_cons_self

/-- A key is held exactly if fewer other keys than the bound were told since it
was told last. -/
theorem mem_rtake_dedup_iff {keys : List κ} {key : κ} {size : Nat} :
    key ∈ keys.dedup.rtake size <->
      ∃ before after, keys = before ++ key :: after ∧ key ∉ after ∧
        after.dedup.length < size := by
  have held (before after : List κ) (last : key ∉ after) :
      key ∈ (before ++ key :: after).dedup.rtake size <-> after.dedup.length < size := by
    have unique := List.nodup_dedup (before ++ key :: after)
    rw [List.dedup_append, List.dedup_cons_of_notMem last] at unique ⊢
    rcases List.suffix_union_right before (key :: after.dedup) with ⟨front, split⟩
    rw [← split] at unique ⊢
    exact mem_rtake_iff unique size
  constructor
  · intro member
    have told : key ∈ keys.reverse :=
      List.mem_reverse.mpr (List.mem_dedup.mp (List.mem_of_mem_drop member))
    rcases List.eq_append_cons_of_mem told with ⟨after, before, split, last⟩
    have order : keys = before.reverse ++ key :: after.reverse := by
      rw [← List.reverse_reverse keys, split]
      simp
    have absent : key ∉ after.reverse := fun other => last (List.mem_reverse.mp other)
    rw [order] at member
    exact ⟨before.reverse, after.reverse, order, absent, (held _ _ absent).mp member⟩
  · rintro ⟨before, after, rfl, last, fewer⟩
    exact (held before after last).mpr fewer

/-! ## Values -/

theorem lastFor_concat (entries : List (κ × α)) (entry : κ × α) (key : κ) :
    lastFor (entries ++ [entry]) key =
      if key = entry.1 then some entry.2 else lastFor entries key := by
  rw [lastFor, List.reverse_append, List.reverse_singleton, List.singleton_append]
  rcases entry with ⟨told, value⟩
  by_cases same : key = told
  · rw [if_pos same, same, List.lookup_cons_self]
  · have differs : (key == told) = false := beq_eq_false_iff_ne.mpr same
    rw [if_neg same, List.lookup, differs, lastFor]

theorem lookup_filter_ne (entries : List (κ × α)) (told key : κ) :
    (entries.filter (fun other => other.1 ≠ told)).lookup key =
      if key = told then none else entries.lookup key := by
  induction entries with
  | nil => simp
  | cons first entries ih =>
      rcases first with ⟨other, value⟩
      by_cases same : other = told
      · rw [List.filter_cons_of_neg (by simpa using same), ih, List.lookup_cons]
        by_cases asked : key = told
        · rw [if_pos asked, if_pos asked]
        · have differs : (key == other) = false := by
            rw [same]
            exact beq_eq_false_iff_ne.mpr asked
          rw [if_neg asked, if_neg asked, differs]
      · rw [List.filter_cons_of_pos (by simpa using same), List.lookup_cons, List.lookup_cons, ih]
        by_cases asked : key = told
        · have differs : (key == other) = false := by
            rw [asked]
            exact beq_eq_false_iff_ne.mpr (Ne.symm same)
          rw [if_pos asked, if_pos asked, differs]
        · rw [if_neg asked, if_neg asked]

theorem lookup_renew (entries : List (κ × α)) (entry : κ × α) (key : κ) :
    (renew entries entry).lookup key =
      if key = entry.1 then some entry.2 else entries.lookup key := by
  rcases entry with ⟨told, value⟩
  rw [renew, List.lookup_append, lookup_filter_ne, List.lookup_cons, List.lookup_nil]
  by_cases same : key = told
  · simp [same]
  · have differs : (key == told) = false := beq_eq_false_iff_ne.mpr same
    simp [same, differs]

theorem lookup_latest (entries : List (κ × α)) (key : κ) :
    (latest entries).lookup key = lastFor entries key := by
  induction entries using List.reverseRecOn with
  | nil => rfl
  | append_singleton entries entry ih =>
      rw [latest_concat, lookup_renew, lastFor_concat, ih]

theorem lookup_rtake {entries : List (κ × α)} (unique : (entries.map Prod.fst).Nodup)
    (size : Nat) (key : κ) :
    (entries.rtake size).lookup key =
      if key ∈ (entries.map Prod.fst).rtake size then entries.lookup key else none := by
  let front := entries.take (entries.length - size)
  have split : entries = front ++ entries.rtake size := (List.take_append_drop _ entries).symm
  rw [← map_rtake]
  by_cases held : key ∈ (entries.rtake size).map Prod.fst
  · have absent : front.lookup key = none := by
      rw [List.lookup_eq_none_iff]
      intro entry member
      apply bne_iff_ne.mpr
      rintro rfl
      rw [split, List.map_append] at unique
      exact (List.nodup_append.mp unique).2.2 _ (List.mem_map_of_mem member) _ held rfl
    rw [if_pos held]
    conv_rhs => rw [split, List.lookup_append, absent, Option.none_or]
  · rw [if_neg held, List.lookup_eq_none_iff]
    intro entry member
    apply bne_iff_ne.mpr
    rintro rfl
    exact held (List.mem_map_of_mem member)

end Recency
