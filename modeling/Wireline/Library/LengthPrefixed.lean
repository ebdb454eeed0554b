import Mathlib
import Wireline.Library.Incremental

namespace Incremental

/-!
# Formats with a length in the header

An item of such a format is a header of a fixed size and a body whose size the
header announces.  The size of an item is therefore known before its body has
arrived, and the body is judged as a whole.  Every format of this kind is a
`Scanner`.

Two parsers of one format may judge a body differently.  `Stricter` relates a
scanner to one that accepts more: what the first finds is a beginning of what
the second finds, and they differ only behind a *veto*, an error that the
second one never raises.
-/

universe u v w x y

/-! ## Stricter scanners -/

section

variable {β : Type u} {ε : Type v} {α : Type w} {γ : Type x}

/-- The strict scanner reports the items of the lax one under `view`, and
fails at some of them with a veto. -/
structure Stricter (strict : Scanner β ε α) (lax : Scanner β ε γ) (view : α -> γ)
    (veto : ε -> Prop) : Prop where
  more : forall {buffer}, strict.next buffer = .more -> lax.next buffer = .more
  item : forall {buffer value size}, strict.next buffer = .item value size ->
    lax.next buffer = .item (view value) size
  fail : forall {buffer error}, strict.next buffer = .fail error -> ¬ veto error ->
    lax.next buffer = .fail error
  vetoed : forall {buffer error}, strict.next buffer = .fail error -> veto error ->
    ∃ value size, lax.next buffer = .item value size

namespace Stricter

variable {strict : Scanner β ε α} {lax : Scanner β ε γ} {view : α -> γ} {veto : ε -> Prop}
  (stricter : Stricter strict lax view veto)
include stricter

/-- The lax scanner goes on where the strict one stops. -/
theorem scan_lax (buffer : List β) :
    lax.scan buffer = (lax.scan (strict.scan buffer).rest).after
      ((strict.scan buffer).items.map (Prod.map view id)) := by
  induction buffer using strict.scan_induction with
  | more buffer shown => rw [strict.scan_more shown, List.map_nil, Scan.after_nil]
  | fail buffer error shown => rw [strict.scan_fail shown, List.map_nil, Scan.after_nil]
  | item buffer value size shown ih =>
      rw [strict.scan_item shown, lax.scan_item (stricter.item shown), ih, Scan.after_after]
      simp

/-- What the strict scanner finds is a beginning of what the lax one finds. -/
theorem items_prefix (buffer : List β) :
    ((strict.scan buffer).items.map Prod.fst).map view <+:
      (lax.scan buffer).items.map Prod.fst := by
  rw [stricter.scan_lax]
  simp [Function.comp_def]

/-- Without a veto both find the same and stop in the same way. -/
theorem scan_eq {buffer : List β}
    (unvetoed : forall error, (strict.scan buffer).stop = some error -> ¬ veto error) :
    lax.scan buffer = ⟨(strict.scan buffer).items.map (Prod.map view id),
      (strict.scan buffer).stop, (strict.scan buffer).rest⟩ := by
  have front := strict.next_rest buffer
  rw [stricter.scan_lax]
  cases stopped : (strict.scan buffer).stop with
  | none =>
      rw [stopped] at front
      simp [lax.scan_more (stricter.more front), Scan.after]
  | some error =>
      rw [stopped] at front
      simp [lax.scan_fail (stricter.fail front (unvetoed error stopped)), Scan.after]

/-- They find the same items exactly if there is no veto. -/
theorem items_eq_iff (buffer : List β) :
    (lax.scan buffer).items.map Prod.fst = ((strict.scan buffer).items.map Prod.fst).map view <->
      forall error, (strict.scan buffer).stop = some error -> ¬ veto error := by
  constructor
  · intro same error stopped vetoes
    have front := strict.next_rest buffer
    rw [stopped] at front
    rcases stricter.vetoed front vetoes with ⟨value, size, shown⟩
    rw [stricter.scan_lax, lax.scan_item shown] at same
    simp [Function.comp_def] at same
  · intro unvetoed
    rw [stricter.scan_eq unvetoed]
    simp [Function.comp_def]

/-- The same for arrival in chunks. -/
theorem feed_eq {held : List β} {chunks : List (List β)}
    (unvetoed : forall error, (strict.feed held chunks).stop = some error -> ¬ veto error) :
    lax.feed held chunks = ⟨(strict.feed held chunks).outputs.map (List.map (Prod.map view id)),
      (strict.feed held chunks).stop, (strict.feed held chunks).rest⟩ := by
  induction chunks generalizing held with
  | nil => rfl
  | cons chunk chunks ih =>
      cases stopped : (strict.scan (held ++ chunk)).stop with
      | some error =>
          simp only [Scanner.feed, stopped] at unvetoed
          have same : lax.scan (held ++ chunk) = _ :=
            stricter.scan_eq (by simpa [stopped] using unvetoed)
          simp [Scanner.feed, same, stopped]
      | none =>
          simp only [Scanner.feed, stopped] at unvetoed
          have same : lax.scan (held ++ chunk) = _ := stricter.scan_eq (by simp [stopped])
          simp [Scanner.feed, same, stopped, ih unvetoed]

end Stricter
end

/-! ## Formats -/

/-- A header of `headerSize` symbols, and a body of the size it announces. -/
structure Layout (β : Type u) (ε : Type v) (η : Type y) where
  headerSize : Nat
  positive : 0 < headerSize
  header : List β -> Except ε η
  bodySize : η -> Nat

namespace Layout

variable {β : Type u} {ε : Type v} {η : Type y} {α : Type w} (layout : Layout β ε η)
  (judge : η -> List β -> List β -> Except ε α)

/-- What the front of a buffer shows. -/
def next (buffer : List β) : Progress ε α :=
  if buffer.length < layout.headerSize then .more
  else
    match layout.header (buffer.take layout.headerSize) with
    | .error error => .fail error
    | .ok header =>
        if buffer.length < layout.headerSize + layout.bodySize header then .more
        else
          match judge header (buffer.take layout.headerSize)
            ((buffer.drop layout.headerSize).take (layout.bodySize header)) with
          | .error error => .fail error
          | .ok value => .item value (layout.headerSize + layout.bodySize header)

/-- What the front can show, case by case. -/
inductive Front (buffer : List β) : Progress ε α -> Prop
  | short (few : buffer.length < layout.headerSize) : Front buffer .more
  | refused {error : ε} (enough : layout.headerSize ≤ buffer.length)
      (parsed : layout.header (buffer.take layout.headerSize) = .error error) :
      Front buffer (.fail error)
  | waiting {header : η} (enough : layout.headerSize ≤ buffer.length)
      (parsed : layout.header (buffer.take layout.headerSize) = .ok header)
      (few : buffer.length < layout.headerSize + layout.bodySize header) : Front buffer .more
  | rejected {header : η} {error : ε}
      (parsed : layout.header (buffer.take layout.headerSize) = .ok header)
      (whole : layout.headerSize + layout.bodySize header ≤ buffer.length)
      (judged : judge header (buffer.take layout.headerSize)
        ((buffer.drop layout.headerSize).take (layout.bodySize header)) = .error error) :
      Front buffer (.fail error)
  | accepted {header : η} {value : α}
      (parsed : layout.header (buffer.take layout.headerSize) = .ok header)
      (whole : layout.headerSize + layout.bodySize header ≤ buffer.length)
      (judged : judge header (buffer.take layout.headerSize)
        ((buffer.drop layout.headerSize).take (layout.bodySize header)) = .ok value) :
      Front buffer (.item value (layout.headerSize + layout.bodySize header))

theorem front (buffer : List β) : layout.Front judge buffer (layout.next judge buffer) := by
  unfold next
  by_cases few : buffer.length < layout.headerSize
  · rw [if_pos few]
    exact .short few
  · rw [if_neg few]
    cases parsed : layout.header (buffer.take layout.headerSize) with
    | error error => exact .refused (Nat.le_of_not_lt few) parsed
    | ok header =>
        dsimp only
        by_cases partly : buffer.length < layout.headerSize + layout.bodySize header
        · rw [if_pos partly]
          exact .waiting (Nat.le_of_not_lt few) parsed partly
        · rw [if_neg partly]
          cases judged : judge header (buffer.take layout.headerSize)
              ((buffer.drop layout.headerSize).take (layout.bodySize header)) with
          | error error => exact .rejected parsed (Nat.le_of_not_lt partly) judged
          | ok value => exact .accepted parsed (Nat.le_of_not_lt partly) judged

variable {layout judge}

/-- An item is shown with its last symbol, and not before. -/
theorem next_item_iff {buffer : List β} {value : α} {size : Nat} :
    layout.next judge buffer = .item value size <->
      ∃ header, layout.header (buffer.take layout.headerSize) = .ok header ∧
        size = layout.headerSize + layout.bodySize header ∧ size ≤ buffer.length ∧
        judge header (buffer.take layout.headerSize)
          ((buffer.drop layout.headerSize).take (layout.bodySize header)) = .ok value := by
  constructor
  · intro shown
    have front := layout.front judge buffer
    rw [shown] at front
    cases front with
    | accepted parsed whole judged => exact ⟨_, parsed, rfl, whole, judged⟩
  · rintro ⟨header, parsed, rfl, whole, judged⟩
    simp [next, parsed, judged, Nat.not_lt_of_ge whole,
      Nat.not_lt_of_ge (Nat.le_trans (Nat.le_add_right _ _) whole)]

theorem next_rejected {buffer : List β} {header : η} {error : ε}
    (parsed : layout.header (buffer.take layout.headerSize) = .ok header)
    (whole : layout.headerSize + layout.bodySize header ≤ buffer.length)
    (judged : judge header (buffer.take layout.headerSize)
      ((buffer.drop layout.headerSize).take (layout.bodySize header)) = .error error) :
    layout.next judge buffer = .fail error := by
  rw [next, if_neg (by omega), parsed]
  dsimp only
  rw [if_neg (by omega), judged]

theorem next_nil : layout.next judge [] = .more := by
  simp [next, layout.positive]

theorem next_size_pos {buffer : List β} {value : α} {size : Nat}
    (shown : layout.next judge buffer = .item value size) : 0 < size := by
  have positive := layout.positive
  rcases next_item_iff.mp shown with ⟨header, _, sized, _⟩
  omega

theorem next_size_le {buffer : List β} {value : α} {size : Nat}
    (shown : layout.next judge buffer = .item value size) : size ≤ buffer.length := by
  rcases next_item_iff.mp shown with ⟨header, _, _, whole, _⟩
  exact whole

/-- What lies within the buffer is the same after more symbols arrived. -/
private theorem slice_append {buffer : List β} (later : List β) {offset width : Nat}
    (present : offset + width ≤ buffer.length) :
    ((buffer ++ later).drop offset).take width = (buffer.drop offset).take width := by
  rw [List.drop_append_of_le_length (by omega), List.take_append_of_le_length]
  simp
  omega

theorem next_item_append {buffer : List β} {value : α} {size : Nat}
    (shown : layout.next judge buffer = .item value size) (later : List β) :
    layout.next judge (buffer ++ later) = .item value size := by
  rcases next_item_iff.mp shown with ⟨header, parsed, sized, whole, judged⟩
  apply next_item_iff.mpr
  refine ⟨header, ?_, sized, by simp; omega, ?_⟩
  · rwa [List.take_append_of_le_length (by omega)]
  · rwa [List.take_append_of_le_length (by omega), slice_append later (by omega)]

theorem next_item_of_append {buffer later : List β} {value : α} {size : Nat}
    (shown : layout.next judge (buffer ++ later) = .item value size) (present : size ≤ buffer.length) :
    layout.next judge buffer = .item value size := by
  rcases next_item_iff.mp shown with ⟨header, parsed, sized, _, judged⟩
  apply next_item_iff.mpr
  refine ⟨header, ?_, sized, present, ?_⟩
  · rwa [List.take_append_of_le_length (by omega)] at parsed
  · rwa [List.take_append_of_le_length (by omega), slice_append later (by omega)] at judged

theorem next_fail_append {buffer : List β} {error : ε} (failed : layout.next judge buffer = .fail error)
    (later : List β) : layout.next judge (buffer ++ later) = .fail error := by
  have front := layout.front judge buffer
  rw [failed] at front
  cases front with
  | refused enough parsed =>
      rw [next, List.take_append_of_le_length enough, parsed, if_neg (by simp; omega)]
  | rejected parsed whole judged =>
      rw [← slice_append later whole] at judged
      rw [← List.take_append_of_le_length (by omega)] at parsed judged
      exact next_rejected parsed (by simp; omega) judged

variable (layout judge)

/-- A format as an incremental scanner. -/
def scanner : Scanner β ε α where
  next := layout.next judge
  next_nil := next_nil
  size_pos := next_size_pos
  size_le := next_size_le
  item_append := next_item_append
  item_of_append := next_item_of_append
  fail_append := next_fail_append

@[simp] theorem scanner_next (buffer : List β) : (layout.scanner judge).next buffer = layout.next judge buffer :=
  rfl

/-! ## One layout, two judgements -/

variable {judge} {γ : Type x} {other : η -> List β -> List β -> Except ε γ} {view : α -> γ}
  {veto : ε -> Prop}

/-- A judgement that rejects more bodies, each of these with a veto, makes a
stricter scanner. -/
theorem stricter
    (unvetoed : forall {raw error}, layout.header raw = .error error -> ¬ veto error)
    (accepted : forall {raw header body value}, layout.header raw = .ok header ->
      body.length = layout.bodySize header -> judge header raw body = .ok value ->
      other header raw body = .ok (view value))
    (rejected : forall {raw header body error}, layout.header raw = .ok header ->
      body.length = layout.bodySize header -> judge header raw body = .error error ->
      (¬ veto error -> other header raw body = .error error) ∧
        (veto error -> ∃ value, other header raw body = .ok value)) :
    Stricter (layout.scanner judge) (layout.scanner other) view veto := by
  have sized {buffer : List β} {header : η}
      (whole : layout.headerSize + layout.bodySize header ≤ buffer.length) :
      ((buffer.drop layout.headerSize).take (layout.bodySize header)).length =
        layout.bodySize header := by
    simp
    omega
  constructor
  · intro buffer shown
    have front := layout.front judge buffer
    rw [scanner_next] at shown ⊢
    rw [shown] at front
    cases front with
    | short few => simp [next, few]
    | waiting enough parsed few => simp [next, parsed, few]
  · intro buffer value size shown
    rcases next_item_iff.mp shown with ⟨header, parsed, rfl, whole, judged⟩
    exact next_item_iff.mpr
      ⟨header, parsed, rfl, whole, accepted parsed (sized whole) judged⟩
  · intro buffer error shown unvetoes
    have front := layout.front judge buffer
    rw [scanner_next] at shown ⊢
    rw [shown] at front
    cases front with
    | refused enough parsed => simp [next, parsed, Nat.not_lt_of_ge enough]
    | rejected parsed whole judged =>
        exact next_rejected parsed whole ((rejected parsed (sized whole) judged).1 unvetoes)
  · intro buffer error shown vetoes
    have front := layout.front judge buffer
    rw [scanner_next] at shown
    rw [shown] at front
    cases front with
    | refused enough parsed => exact absurd vetoes (unvetoed parsed)
    | rejected parsed whole judged =>
        rcases (rejected parsed (sized whole) judged).2 vetoes with ⟨value, accepted⟩
        exact ⟨value, _, next_item_iff.mpr ⟨_, parsed, rfl, whole, accepted⟩⟩

end Layout
end Incremental
