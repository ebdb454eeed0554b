import Mathlib
import Wireline.Library.Incremental

namespace Incremental

/-!
# Starting over after an error

A receiver that follows a stream may forget what it holds when it meets an
error, and go on with the next chunk.  It then finds what a scan of the whole
stream finds exactly if nothing can be found behind an error.

The same buffer may be fed with datagrams, each of which is to be read on its
own, between the segments of a stream.  The second part says when that makes
no difference.
-/

universe u v w

namespace Scanner

variable {β : Type u} {ε : Type v} {α : Type w} (scanner : Scanner β ε α)

/-- What is held after a chunk. -/
def heldAfter (held chunk : List β) : List β :=
  if (scanner.scan (held ++ chunk)).stop.isSome then [] else (scanner.scan (held ++ chunk)).rest

/-- What is held after several chunks. -/
def heldBy (held : List β) (chunks : List (List β)) : List β := chunks.foldl scanner.heldAfter held

/-- The items of all chunks. -/
def restarting (held : List β) : List (List β) -> List (α × List β)
  | [] => []
  | chunk :: chunks =>
      (scanner.scan (held ++ chunk)).items ++ restarting (scanner.heldAfter held chunk) chunks

theorem heldAfter_failed {held chunk : List β} {error : ε}
    (stopped : (scanner.scan (held ++ chunk)).stop = some error) :
    scanner.heldAfter held chunk = [] := by
  simp [heldAfter, stopped]

theorem heldAfter_waiting {held chunk : List β}
    (stopped : (scanner.scan (held ++ chunk)).stop = none) :
    scanner.heldAfter held chunk = (scanner.scan (held ++ chunk)).rest := by
  simp [heldAfter, stopped]

theorem heldAfter_more {held chunk : List β} (shown : scanner.next (held ++ chunk) = .more) :
    scanner.heldAfter held chunk = held ++ chunk := by
  simp [heldAfter, scanner.scan_more shown]

theorem heldAfter_fail {held chunk : List β} {error : ε}
    (shown : scanner.next (held ++ chunk) = .fail error) : scanner.heldAfter held chunk = [] := by
  simp [heldAfter, scanner.scan_fail shown]

/-! ## Behind an error -/

/-- Nothing is found in the chunks, although the search starts over with the
next chunk after each error. -/
def Barren (held : List β) : List (List β) -> Prop
  | [] => True
  | chunk :: chunks =>
      match scanner.next (held ++ chunk) with
      | .more => Barren (held ++ chunk) chunks
      | .fail _ => Barren [] chunks
      | .item _ _ => False

theorem restarting_eq_nil_iff (held : List β) (chunks : List (List β)) :
    scanner.restarting held chunks = [] <-> scanner.Barren held chunks := by
  induction chunks generalizing held with
  | nil => simp [restarting, Barren]
  | cons chunk chunks ih =>
      unfold restarting Barren
      cases shown : scanner.next (held ++ chunk) with
      | more => simp [scanner.heldAfter_more shown, scanner.scan_more shown, ih]
      | fail error => simp [scanner.heldAfter_fail shown, scanner.scan_fail shown, ih]
      | item value size => simp [scanner.scan_item shown]

/-- Behind the chunk in which the stream fails nothing is found. -/
def Unresumed (held : List β) (chunks : List (List β)) : Prop :=
  forall before chunk behind error, chunks = before ++ chunk :: behind ->
    (scanner.scan (held ++ before.flatten)).stop = none ->
    (scanner.scan (held ++ (before ++ [chunk]).flatten)).stop = some error ->
      scanner.Barren [] behind

/-- If the first chunk fails, what matters is what comes behind it. -/
theorem unresumed_failed {held chunk : List β} {error : ε} (waiting : scanner.next held = .more)
    (stopped : (scanner.scan (held ++ chunk)).stop = some error) (chunks : List (List β)) :
    scanner.Unresumed held (chunk :: chunks) <-> scanner.Barren [] chunks := by
  constructor
  · intro unresumed
    apply unresumed [] chunk chunks error rfl
    · simp [scanner.scan_more waiting]
    · simpa using stopped
  · intro barren before first behind later same sound failed
    cases before with
    | nil =>
        cases same
        exact barren
    | cons opening before =>
        cases same
        have persists := (scanner.scan_append_of_stop stopped before.flatten).2
        rw [List.append_assoc] at persists
        rw [List.flatten_cons, persists] at sound
        cases sound

/-- If the first chunk does not fail, the others arrive behind what it leaves. -/
theorem unresumed_waiting {held chunk : List β}
    (stopped : (scanner.scan (held ++ chunk)).stop = none) (chunks : List (List β)) :
    scanner.Unresumed held (chunk :: chunks) <->
      scanner.Unresumed (scanner.scan (held ++ chunk)).rest chunks := by
  have moved (later : List β) : (scanner.scan (held ++ (chunk ++ later))).stop =
      (scanner.scan ((scanner.scan (held ++ chunk)).rest ++ later)).stop := by
    rw [← List.append_assoc, scan_append, Scan.after_stop]
  constructor
  · intro unresumed before first behind error same sound failed
    apply unresumed (chunk :: before) first behind error
    · rw [same, List.cons_append]
    · rw [List.flatten_cons, moved, sound]
    · rw [List.cons_append, List.flatten_cons, moved, failed]
  · intro unresumed before first behind error same sound failed
    cases before with
    | nil =>
        cases same
        simp [stopped] at failed
    | cons opening before =>
        cases same
        rw [List.flatten_cons, moved] at sound
        rw [List.cons_append, List.flatten_cons, moved] at failed
        exact unresumed before first behind error rfl sound failed

/-- Starting over makes no difference exactly if nothing is found behind an
error. -/
theorem restarting_eq_scan_iff {held : List β} (waiting : scanner.next held = .more)
    (chunks : List (List β)) :
    (scanner.restarting held chunks).map Prod.fst =
        (scanner.scan (held ++ chunks.flatten)).items.map Prod.fst <->
      scanner.Unresumed held chunks := by
  induction chunks generalizing held with
  | nil => simp [restarting, Unresumed, scanner.scan_more waiting]
  | cons chunk chunks ih =>
      rw [List.flatten_cons, ← List.append_assoc, restarting, List.map_append]
      cases stopped : (scanner.scan (held ++ chunk)).stop with
      | some error =>
          rw [(scanner.scan_append_of_stop stopped _).1, scanner.heldAfter_failed stopped,
            List.append_right_eq_self, List.map_eq_nil_iff, restarting_eq_nil_iff,
            scanner.unresumed_failed waiting stopped]
      | none =>
          have front := scanner.next_rest (held ++ chunk)
          rw [stopped] at front
          rw [scanner.scan_append (held ++ chunk), scanner.heldAfter_waiting stopped,
            Scan.after_items, List.map_append, List.append_cancel_left_eq, ih front,
            scanner.unresumed_waiting stopped]

/-- A stream without an error is followed to its end. -/
theorem unresumed_of_sound {held : List β} {chunks : List (List β)}
    (sound : (scanner.scan (held ++ chunks.flatten)).stop = none) :
    scanner.Unresumed held chunks := by
  rintro before chunk behind error rfl _ failed
  have persists := (scanner.scan_append_of_stop failed behind.flatten).2
  rw [List.append_assoc, ← List.flatten_append, List.append_assoc, List.singleton_append, sound]
    at persists
  cases persists

/-! ## Datagrams in between -/

/-- The items of a datagram on its own, which has to consist of them. -/
def whole (datagram : List β) : List (α × List β) :=
  if (scanner.scan datagram).stop.isNone ∧ (scanner.scan datagram).rest.isEmpty then
    (scanner.scan datagram).items
  else []

end Scanner

/-- What one buffer is fed with. -/
inductive Piece (β : Type u)
  | segment (symbols : List β)
  | datagram (symbols : List β)

namespace Piece

variable {β : Type u}

def symbols : Piece β -> List β
  | .segment symbols => symbols
  | .datagram symbols => symbols

def isDatagram : Piece β -> Bool
  | .segment _ => false
  | .datagram _ => true

end Piece

namespace Scanner

variable {β : Type u} {ε : Type v} {α : Type w} (scanner : Scanner β ε α)

/-- What the datagrams are read as, each on its own. -/
def wholes (pieces : List (Piece β)) : List (α × List β) :=
  pieces.flatMap fun piece =>
    match piece with
    | .segment _ => []
    | .datagram symbols => scanner.whole symbols

@[simp] theorem wholes_segment (symbols : List β) (pieces : List (Piece β)) :
    scanner.wholes (.segment symbols :: pieces) = scanner.wholes pieces := by
  simp [wholes]

@[simp] theorem wholes_datagram (symbols : List β) (pieces : List (Piece β)) :
    scanner.wholes (.datagram symbols :: pieces) = scanner.whole symbols ++ scanner.wholes pieces := by
  simp [wholes]

/-- Where a datagram stands on either side, the buffer is empty. -/
def Unjoined (held : List β) : List (Piece β) -> Prop
  | [] => True
  | piece :: pieces =>
      (piece.isDatagram -> held = []) ∧
        (piece.isDatagram -> pieces ≠ [] -> scanner.heldAfter held piece.symbols = []) ∧
        Unjoined (scanner.heldAfter held piece.symbols) pieces

/-- A condition on the pieces, of which segments have left `held`: no item is
complete in the segments or in front of what spoils a datagram, and nothing
waits for a symbol where a datagram stands on either side. -/
def Apart (held : List β) : List (Piece β) -> Prop
  | [] => True
  | .datagram symbols :: pieces =>
      held = [] ∧
        (((scanner.scan symbols).stop = none ∧ (scanner.scan symbols).rest = [] ∧ Apart [] pieces) ∨
          (∃ error, scanner.next symbols = .fail error ∧ Apart [] pieces) ∨
          (scanner.next symbols = .more ∧ pieces = []))
  | .segment symbols :: pieces =>
      match scanner.next (held ++ symbols) with
      | .more => Apart (held ++ symbols) pieces
      | .fail _ => Apart [] pieces
      | .item _ _ => False

variable {scanner} in
theorem Unjoined.opens {held : List β} {pieces : List (Piece β)}
    (unjoined : scanner.Unjoined held pieces) {piece : Piece β} (first : piece ∈ pieces.head?)
    (datagram : piece.isDatagram) : held = [] := by
  cases pieces with
  | nil => cases first
  | cons other pieces =>
      cases first
      exact unjoined.1 datagram

/-- The same about every place between two pieces. -/
theorem unjoined_iff {held : List β} {pieces : List (Piece β)}
    (opening : forall piece, piece ∈ pieces.head? -> piece.isDatagram -> held = []) :
    scanner.Unjoined held pieces <->
      forall before first second behind, pieces = before ++ first :: second :: behind ->
        first.isDatagram ∨ second.isDatagram ->
          scanner.heldBy held ((before ++ [first]).map Piece.symbols) = [] := by
  induction pieces generalizing held with
  | nil => simp [Unjoined]
  | cons piece pieces ih =>
      constructor
      · intro unjoined before first second behind same either
        rcases unjoined with ⟨_, leaves, later⟩
        cases before with
        | nil =>
            cases same
            rcases either with datagram | datagram
            · exact leaves datagram (by simp)
            · exact later.1 datagram
        | cons earlier before =>
            rcases List.cons.inj same with ⟨rfl, rest⟩
            exact (ih fun _ => later.opens).mp later before first second behind rest either
      · intro everywhere
        refine ⟨opening piece rfl, ?_, ?_⟩
        · intro datagram more
          rcases List.exists_cons_of_ne_nil more with ⟨second, others, rfl⟩
          exact everywhere [] piece second others rfl (Or.inl datagram)
        · apply (ih ?_).mpr
          · intro before first second behind same either
            exact everywhere (piece :: before) first second behind (by rw [same]; rfl) either
          · intro coming first datagram
            cases pieces with
            | nil => cases first
            | cons second others =>
                cases first
                exact everywhere [] piece coming others rfl (Or.inr datagram)

/-- Apart from segments, a buffer without joins finds at least what the
datagrams hold. -/
theorem length_wholes_le {held : List β} {pieces : List (Piece β)}
    (unjoined : scanner.Unjoined held pieces) :
    (scanner.wholes pieces).length ≤ (scanner.restarting held (pieces.map Piece.symbols)).length := by
  induction pieces generalizing held with
  | nil => simp [wholes]
  | cons piece pieces ih =>
      rcases unjoined with ⟨opens, _, later⟩
      have rest := ih later
      cases piece with
      | segment symbols =>
          simp only [Piece.symbols, wholes_segment, List.map_cons, restarting,
            List.length_append] at rest ⊢
          omega
      | datagram symbols =>
          have own : (scanner.whole symbols).length ≤ (scanner.scan symbols).items.length := by
            unfold whole
            split <;> simp
          have empty : held = [] := opens rfl
          simp only [Piece.symbols, empty, wholes_datagram, List.map_cons, restarting,
            List.length_append, List.nil_append] at rest ⊢
          omega

/-- An item of a piece that is not read as a datagram is one too many. -/
theorem restarting_ne_wholes {held symbols : List β} {value : α} {size : Nat}
    (shown : scanner.next (held ++ symbols) = .item value size) {pieces : List (Piece β)}
    (unjoined : scanner.Unjoined (scanner.heldAfter held symbols) pieces) :
    ((scanner.scan (held ++ symbols)).items ++
        scanner.restarting (scanner.heldAfter held symbols) (pieces.map Piece.symbols)).map
          Prod.fst ≠ (scanner.wholes pieces).map Prod.fst := by
  intro same
  have short := congrArg List.length same
  have enough := scanner.length_wholes_le unjoined
  simp [scanner.scan_item shown] at short
  omega

theorem unjoined_segment (held symbols : List β) (pieces : List (Piece β)) :
    scanner.Unjoined held (.segment symbols :: pieces) <->
      scanner.Unjoined (scanner.heldAfter held symbols) pieces := by
  simp [Unjoined, Piece.isDatagram, Piece.symbols]

theorem unjoined_datagram (held symbols : List β) (pieces : List (Piece β)) :
    scanner.Unjoined held (.datagram symbols :: pieces) <->
      held = [] ∧ (pieces ≠ [] -> scanner.heldAfter held symbols = []) ∧
        scanner.Unjoined (scanner.heldAfter held symbols) pieces := by
  simp [Unjoined, Piece.isDatagram, Piece.symbols]

/-- The buffer reads each datagram on its own, joins it with nothing and finds
nothing else exactly if the pieces are apart. -/
theorem restarting_eq_wholes_iff (held : List β) (pieces : List (Piece β)) :
    ((scanner.restarting held (pieces.map Piece.symbols)).map Prod.fst =
        (scanner.wholes pieces).map Prod.fst ∧ scanner.Unjoined held pieces) <->
      scanner.Apart held pieces := by
  induction pieces generalizing held with
  | nil => simp [restarting, wholes, Unjoined, Apart]
  | cons piece pieces ih =>
      cases piece with
      | segment symbols =>
          rw [unjoined_segment, wholes_segment, List.map_cons, Piece.symbols, restarting]
          unfold Apart
          cases shown : scanner.next (held ++ symbols) with
          | more =>
              simp only [scanner.heldAfter_more shown, scanner.scan_more shown, List.nil_append, ih]
          | fail error =>
              simp only [scanner.heldAfter_fail shown, scanner.scan_fail shown, List.nil_append, ih]
          | item value size =>
              simp only [iff_false, not_and]
              intro same unjoined
              exact scanner.restarting_ne_wholes shown unjoined same
      | datagram symbols =>
          rw [unjoined_datagram, wholes_datagram, List.map_cons, Piece.symbols, restarting]
          unfold Apart
          by_cases empty : held = []
          · subst empty
            simp only [List.nil_append, true_and]
            cases shown : scanner.next symbols with
            | more =>
                have kept : scanner.heldAfter [] symbols = symbols := scanner.heldAfter_more shown
                have none : scanner.whole symbols = [] := by
                  simp [whole, scanner.scan_more shown]
                have further := ih symbols
                simp only [kept, none, scanner.scan_more shown, List.nil_append, true_and]
                by_cases last : pieces = []
                · simp [last, restarting, wholes, Unjoined]
                · by_cases drained : symbols = []
                  · subst drained
                    simpa [last] using further
                  · simp [last, drained]
            | fail error =>
                have lost : scanner.heldAfter [] symbols = [] := scanner.heldAfter_fail shown
                have spoiled : scanner.whole symbols = [] := by
                  simp [whole, scanner.scan_fail shown]
                simp [lost, spoiled, scanner.scan_fail shown, ih]
            | item value size =>
                by_cases sound : (scanner.scan symbols).stop = none ∧
                    (scanner.scan symbols).rest = []
                · have lost : scanner.heldAfter [] symbols = [] := by
                    simp [heldAfter, sound.1, sound.2]
                  have read : scanner.whole symbols = (scanner.scan symbols).items := by
                    simp [whole, sound.1, sound.2]
                  simp [lost, read, sound.1, sound.2, ih]
                · have none : scanner.whole symbols = [] := by
                    unfold whole
                    rw [if_neg]
                    simpa using sound
                  simp only [none, List.nil_append]
                  constructor
                  · rintro ⟨same, _, unjoined⟩
                    have present : scanner.next ([] ++ symbols) = .item value size := shown
                    exact absurd same (scanner.restarting_ne_wholes present unjoined)
                  · intro apart
                    rcases apart with ⟨stop, rest, _⟩ | ⟨error, failed, _⟩ | ⟨waits, _⟩
                    · exact absurd ⟨stop, rest⟩ sound
                    · cases failed
                    · cases waits
          · simp [empty]

end Scanner
end Incremental
