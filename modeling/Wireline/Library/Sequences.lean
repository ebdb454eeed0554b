import Mathlib

/-!
# Lists that increase, insertions and correspondence

A list with strictly increasing keys is determined by its members: if they are
all members of another such list, it is a subsequence of it.  A receiver that
accepts only greater keys therefore keeps the order of the sender, whatever
happened on the way.  A search through a list notices an insertion exactly if
it stops there first.
-/

namespace Sequences

universe u v

variable {α : Type u} {κ : Type v} [LinearOrder κ]

def IncreasingBy (key : α -> κ) (items : List α) : Prop :=
  items.Pairwise fun earlier later => key earlier < key later

variable {key : α -> κ}

theorem increasingBy_nil : IncreasingBy key [] := List.Pairwise.nil

theorem IncreasingBy.append {items : List α} (increasing : IncreasingBy key items) {item : α}
    (greater : forall earlier, earlier ∈ items -> key earlier < key item) :
    IncreasingBy key (items ++ [item]) := by
  apply List.pairwise_append.mpr
  refine ⟨increasing, List.pairwise_singleton _ _, ?_⟩
  intro earlier member later same
  rw [List.mem_singleton.mp same]
  exact greater earlier member

theorem IncreasingBy.nodup {items : List α} (increasing : IncreasingBy key items) :
    items.Nodup := by
  apply List.Pairwise.imp _ increasing
  rintro earlier later less rfl
  exact lt_irrefl _ less

/-- No key is greater than the last. -/
theorem IncreasingBy.le_getLastD {items : List α} (increasing : IncreasingBy key items) (base : κ)
    {item : α} (member : item ∈ items) : key item ≤ (items.map key).getLastD base := by
  induction items using List.reverseRecOn with
  | nil => cases member
  | append_singleton earlier newest _ =>
      rw [List.map_append, List.map_singleton, List.getLastD_concat]
      rcases List.mem_append.mp member with before | now
      · exact le_of_lt ((List.pairwise_append.mp increasing).2.2 item before newest
          (List.mem_singleton_self newest))
      · rw [List.mem_singleton.mp now]

/-- Among lists that increase by the same key, membership gives the order. -/
theorem IncreasingBy.sublist {items others : List α} (increasing : IncreasingBy key items)
    (ordered : IncreasingBy key others) (subset : items ⊆ others) : items.Sublist others := by
  have asymmetric : Std.Antisymm fun first second : α => key first < key second :=
    ⟨fun _ _ less greater => absurd less (not_lt_of_gt greater)⟩
  exact List.sublist_of_subperm_of_pairwise (increasing.nodup.subperm subset) increasing ordered

/-! ## The most recent items -/

/-- To keep the most recent items it is enough to remember them. -/
theorem rtake_concat (items : List α) (item : α) (size : Nat) :
    (items.rtake size ++ [item]).rtake size = (items ++ [item]).rtake size := by
  cases size with
  | zero => simp
  | succ size =>
      have fewer : (items.rtake (size + 1)).rtake size = items.rtake size := by
        simp only [List.rtake, List.length_drop, List.drop_drop]
        congr 1
        omega
      rw [List.rtake_concat_succ, List.rtake_concat_succ, fewer]

theorem map_rtake {β : Type v} (items : List α) (size : Nat) (convert : α -> β) :
    (items.rtake size).map convert = (items.map convert).rtake size := by
  simp only [List.rtake, List.map_drop, List.length_map]

theorem length_rtake (items : List α) (size : Nat) :
    (items.rtake size).length = min size items.length := by
  rw [List.rtake, List.length_drop]
  omega

/-! ## Insertions -/

/-- An item of a list, or one that was inserted into it. -/
inductive Item (α : Type u)
  | kept (item : α)
  | inserted (item : α)

namespace Item

def value : Item α -> α
  | .kept item => item
  | .inserted item => item

def own : Item α -> Option α
  | .kept item => some item
  | .inserted _ => none

end Item

/-- Every inserted item at which a search stops has an item of the list in
front at which it stops as well. -/
def Covered (stops : α -> Prop) (merged : List (Item α)) : Prop :=
  forall before item after, merged = before ++ .inserted item :: after -> stops item ->
    ∃ other, .kept other ∈ before ∧ stops other

section

variable {stops : α -> Prop} {merged : List (Item α)}

theorem covered_nil : Covered stops [] := by
  intro before item after empty
  cases List.append_ne_nil_of_right_ne_nil _ (List.cons_ne_nil _ _) empty.symm

theorem covered_kept {item : α} (decides : stops item) : Covered stops (.kept item :: merged) := by
  intro before other after split _
  cases before with
  | nil => cases split
  | cons first before =>
      cases split
      exact ⟨item, List.mem_cons_self, decides⟩

theorem not_covered_inserted {item : α} (decides : stops item) :
    ¬ Covered stops (.inserted item :: merged) := by
  intro covered
  rcases covered [] item merged rfl decides with ⟨other, member, _⟩
  cases member

/-- What the search passes by covers nothing and needs no cover. -/
theorem covered_cons {head : Item α} (passes : ¬ stops head.value) :
    Covered stops (head :: merged) <-> Covered stops merged := by
  constructor
  · intro covered before item after split decides
    rcases covered (head :: before) item after (by rw [split]; rfl) decides with
      ⟨other, member, also⟩
    rcases List.mem_cons.mp member with rfl | inside
    · exact absurd also passes
    · exact ⟨other, inside, also⟩
  · intro covered before item after split decides
    cases before with
    | nil =>
        cases split
        exact absurd decides passes
    | cons first before =>
        cases split
        rcases covered before item after rfl decides with ⟨other, member, also⟩
        exact ⟨other, List.mem_cons_of_mem _ member, also⟩

end

/-- Insertions that a search stops at with one and the same result disturb it
exactly if one of them comes before every item at which the search would have
stopped, and it would not have had that result anyway. -/
theorem findSome_own_iff {β : Type v} {verdict : α -> Option β} {foreign : β}
    {merged : List (Item α)} (noise : forall item, .inserted item ∈ merged ->
      verdict item = none ∨ verdict item = some foreign) :
    (merged.map Item.value).findSome? verdict = (merged.filterMap Item.own).findSome? verdict <->
      (merged.filterMap Item.own).findSome? verdict = some foreign ∨
        Covered (fun item => verdict item ≠ none) merged := by
  induction merged with
  | nil => exact iff_of_true rfl (.inr covered_nil)
  | cons head merged ih =>
      have tail := ih fun item member => noise item (List.mem_cons_of_mem head member)
      cases head with
      | kept item =>
          rw [List.map_cons, List.filterMap_cons_some (show Item.own (.kept item) = some item from rfl),
            List.findSome?_cons, List.findSome?_cons, Item.value]
          cases decided : verdict item with
          | some result =>
              exact iff_of_true rfl (.inr (covered_kept (by rw [decided]; exact Option.some_ne_none _)))
          | none =>
              have passes : ¬ verdict (Item.kept item).value ≠ none := not_not.mpr decided
              rw [covered_cons passes, ← tail]
      | inserted item =>
          rw [List.map_cons, List.filterMap_cons_none (show Item.own (.inserted item) = none from rfl),
            List.findSome?_cons, Item.value]
          rcases noise item List.mem_cons_self with passed | stopped
          · have passes : ¬ verdict (Item.inserted item).value ≠ none := not_not.mpr passed
            rw [covered_cons passes, ← tail, passed]
          · have bare : ¬ Covered (fun item => verdict item ≠ none) (.inserted item :: merged) :=
              not_covered_inserted (by rw [stopped]; exact Option.some_ne_none _)
            rw [stopped, or_iff_left bare]
            exact eq_comm

/-! ## Lists that correspond -/

section Correspondence

variable {β : Type v} {related : α -> β -> Prop}

theorem exists_forall₂_iff {items : List α} :
    (∃ others, List.Forall₂ related items others) <->
      forall item, item ∈ items -> ∃ other, related item other := by
  induction items with
  | nil => exact iff_of_true ⟨[], .nil⟩ nofun
  | cons item items ih =>
      rw [List.forall_mem_cons, ← ih]
      constructor
      · rintro ⟨_, matched⟩
        rcases List.forall₂_cons_left_iff.mp matched with ⟨other, others, here, rest, rfl⟩
        exact ⟨⟨other, here⟩, others, rest⟩
      · rintro ⟨⟨other, here⟩, others, rest⟩
        exact ⟨other :: others, .cons here rest⟩

theorem exists_mem_of_forall₂ {items : List α} {others : List β}
    (matched : List.Forall₂ related items others) {other : β} (member : other ∈ others) :
    ∃ item, item ∈ items ∧ related item other := by
  induction matched with
  | nil => cases member
  | cons here _ ih =>
      rcases List.mem_cons.mp member with rfl | later
      · exact ⟨_, List.mem_cons_self, here⟩
      · rcases ih later with ⟨item, inside, own⟩
        exact ⟨item, List.mem_cons_of_mem _ inside, own⟩

/-- What holds of related items holds of all the items or of none. -/
theorem forall_mem_congr {items : List α} {others : List β} {left : α -> Prop}
    {right : β -> Prop} (matched : List.Forall₂ related items others)
    (same : forall item other, item ∈ items -> related item other -> (left item <-> right other)) :
    (forall item, item ∈ items -> left item) <-> forall other, other ∈ others -> right other := by
  induction matched with
  | nil => exact iff_of_true nofun nofun
  | cons here rest ih =>
      rw [List.forall_mem_cons, List.forall_mem_cons, same _ _ List.mem_cons_self here,
        ih fun item other member => same item other (List.mem_cons_of_mem _ member)]

/-- What holds of one of the related items holds of one of the others. -/
theorem exists_mem_congr {items : List α} {others : List β} {left : α -> Prop} {right : β -> Prop}
    (matched : List.Forall₂ related items others)
    (same : forall item other, related item other -> (left item <-> right other)) :
    (∃ item, item ∈ items ∧ left item) <-> ∃ other, other ∈ others ∧ right other := by
  induction matched with
  | nil => simp
  | cons here _ ih => simp only [List.mem_cons, exists_eq_or_imp, same _ _ here, ih]

end Correspondence

theorem nodup_eraseDups {β : Type v} [BEq β] [LawfulBEq β] (items : List β) :
    items.eraseDups.Nodup := by
  induction size : items.length using Nat.strong_induction_on generalizing items with
  | h size ih =>
      cases items with
      | nil => exact List.nodup_nil
      | cons item items =>
          have fewer := List.length_filter_le (fun other => !other == item) items
          rw [List.length_cons] at size
          rw [List.eraseDups_cons]
          refine List.nodup_cons.mpr ⟨?_, ih _ (by omega) _ rfl⟩
          rw [List.mem_eraseDups]
          simp

end Sequences
