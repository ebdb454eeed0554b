import Mathlib

/-!
# Printable text

Text that a terminal shows as it stands: letters, digits, punctuation and
blanks of ASCII, and no control character.  What is put together from printable
pieces is printable, and so is a number.
-/

/-- The characters from the blank to the tilde. -/
def Char.Printable (letter : Char) : Prop := 32 ≤ letter.toNat ∧ letter.toNat < 127

instance (letter : Char) : Decidable letter.Printable := inferInstanceAs (Decidable (_ ∧ _))

/-- A digit in any base. -/
theorem Nat.digitChar_printable (digit : Nat) : digit.digitChar.Printable := by
  by_cases small : digit < 16
  · interval_cases digit <;> decide
  · have star : digit.digitChar = '*' := by
      simp only [Nat.digitChar]
      repeat rw [if_neg (by omega)]
    rw [star]
    decide

namespace String

def Printable (text : String) : Prop := forall letter, letter ∈ text.toList -> letter.Printable

instance (text : String) : Decidable text.Printable :=
  List.decidableBAll Char.Printable text.toList

theorem Printable.append {first second : String} (one : first.Printable)
    (other : second.Printable) : (first ++ second).Printable := by
  intro letter member
  rw [String.toList_append, List.mem_append] at member
  exact member.elim (one letter) (other letter)

theorem Printable.intercalate {separator : String} (own : separator.Printable) {parts : List String}
    (each : forall part, part ∈ parts -> part.Printable) :
    (String.intercalate separator parts).Printable := by
  induction parts with
  | nil =>
      rw [String.intercalate_nil]
      decide
  | cons part parts ih =>
      rw [List.forall_mem_cons] at each
      cases parts with
      | nil =>
          rw [String.intercalate_singleton]
          exact each.1
      | cons other parts =>
          rw [String.intercalate_cons_cons]
          exact (each.1.append own).append (ih each.2)

theorem printable_toDigits (base value : Nat) : (ofList (Nat.toDigits base value)).Printable := by
  have core (fuel : Nat) : forall (value : Nat) (digits : List Char),
      (forall letter, letter ∈ digits -> letter.Printable) ->
        forall letter, letter ∈ Nat.toDigitsCore base fuel value digits -> letter.Printable := by
    induction fuel with
    | zero => exact fun _ _ printable => printable
    | succ fuel ih =>
        intro value digits printable
        have more : forall letter, letter ∈ (value % base).digitChar :: digits -> letter.Printable :=
          List.forall_mem_cons.mpr ⟨Nat.digitChar_printable _, printable⟩
        rw [Nat.toDigitsCore]
        split
        · exact more
        · exact ih _ _ more
  intro letter member
  rw [String.toList_ofList] at member
  exact core _ _ _ (List.forall_mem_nil _) letter member

theorem printable_nat (value : Nat) : (toString value).Printable := by
  have digits : toString value = ofList (Nat.toDigits 10 value) := by
    apply String.toList_injective
    rw [String.toList_ofList]
    change value.repr.toList = _
    exact Nat.toList_repr
  rw [digits]
  exact printable_toDigits 10 value

theorem printable_int (value : Int) : (toString value).Printable := by
  cases value with
  | ofNat value => exact printable_nat value
  | negSucc value =>
      have sign : "-".Printable := by decide
      exact sign.append (printable_nat (value + 1))

theorem Printable.pushn {text : String} (printable : text.Printable) {letter : Char}
    (own : letter.Printable) (count : Nat) : (text.pushn letter count).Printable := by
  rw [String.pushn_eq_repeat_push]
  induction count with
  | zero => exact printable
  | succ count ih =>
      intro other member
      rw [Nat.repeat, String.toList_push, List.mem_append, List.mem_singleton] at member
      rcases member with inside | rfl
      · exact ih other inside
      · exact own

end String
