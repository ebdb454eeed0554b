import Mathlib

/-!
# Rounding to integers

A number is stored as a whole part and a multiple of a smaller unit.  The
whole part is truncated towards zero.  The rest is rounded to the nearest
integer, and between two integers to the even one.
-/

namespace Rounding

universe u

variable {K : Type u} [Field K] [LinearOrder K]

/-- What rounding to the nearest integer has to find. -/
def Nearest (x : K) (n : ℤ) : Prop := |x - n| < 1 / 2 ∨ (|x - n| = 1 / 2 ∧ Even n)

/-- A tie is decided by parity. -/
theorem Nearest.even {x : K} {n : ℤ} (nearest : Nearest x n) (tie : |x - n| = 1 / 2) : Even n := by
  rcases nearest with strict | ⟨_, even⟩
  · exact absurd tie (ne_of_lt strict)
  · exact even

variable [IsStrictOrderedRing K]

theorem Nearest.bounds {x : K} {n : ℤ} (nearest : Nearest x n) :
    (n : K) - 1 / 2 ≤ x ∧ x ≤ n + 1 / 2 := by
  have close : |x - n| ≤ 1 / 2 := by
    rcases nearest with strict | ⟨tie, _⟩
    · exact le_of_lt strict
    · exact le_of_eq tie
  rcases abs_le.mp close with ⟨low, high⟩
  exact ⟨by linarith, by linarith⟩

/-- The greater of two nearest integers would be odd. -/
theorem Nearest.le {x : K} {n m : ℤ} (nearest : Nearest x n) (other : Nearest x m) : m ≤ n := by
  by_contra! less
  have apart : (n : K) + 1 ≤ m := by exact_mod_cast less
  have low := nearest.bounds.2
  have high := other.bounds.1
  have adjacent : m = n + 1 := by
    have touching : (m : K) = (n + 1 : ℤ) := by
      push_cast
      linarith
    exact_mod_cast touching
  have lower : Even n := by
    apply nearest.even
    rw [abs_of_nonneg] <;> linarith
  have upper : Even m := by
    apply other.even
    rw [abs_of_nonpos] <;> linarith
  rw [adjacent] at upper
  exact Int.even_add_one.mp upper lower

variable [FloorRing K]

/-- The integer part. -/
def truncate (x : K) : ℤ := if x < 0 then ⌈x⌉ else ⌊x⌋

/-- The nearest integer, and of two nearest ones the even one. -/
def halfEven (x : K) : ℤ :=
  if Int.fract x < 1 / 2 then ⌊x⌋
  else if 1 / 2 < Int.fract x then ⌊x⌋ + 1
  else if Even ⌊x⌋ then ⌊x⌋ else ⌊x⌋ + 1

omit [IsStrictOrderedRing K] in
theorem truncate_of_nonneg {x : K} (nonneg : 0 ≤ x) : truncate x = ⌊x⌋ :=
  if_neg (not_lt_of_ge nonneg)

theorem nearest_halfEven (x : K) : Nearest x (halfEven x) := by
  have whole := Int.floor_add_fract x
  have nonneg := Int.fract_nonneg x
  have small := Int.fract_lt_one x
  have down : x - ⌊x⌋ = Int.fract x := by linarith
  have up : x - (⌊x⌋ + 1 : ℤ) = -(1 - Int.fract x) := by
    push_cast
    linarith
  unfold halfEven
  split_ifs with below above even
  · left
    rw [down, abs_of_nonneg nonneg]
    exact below
  · left
    rw [up, abs_neg, abs_of_pos (by linarith)]
    linarith
  · right
    rw [down, abs_of_nonneg nonneg]
    exact ⟨by linarith, even⟩
  · right
    rw [up, abs_neg, abs_of_pos (by linarith)]
    exact ⟨by linarith, Int.even_add_one.mpr even⟩

/-- Rounding finds the nearest integer, and there is only one. -/
theorem halfEven_eq_iff {x : K} {n : ℤ} : halfEven x = n <-> Nearest x n := by
  constructor
  · rintro rfl
    exact nearest_halfEven x
  · intro nearest
    exact le_antisymm (nearest.le (nearest_halfEven x)) ((nearest_halfEven x).le nearest)

theorem halfEven_intCast (n : ℤ) : halfEven (n : K) = n := by
  rw [halfEven_eq_iff]
  left
  simp

theorem abs_sub_halfEven_le (x : K) : |x - halfEven x| ≤ 1 / 2 := by
  rcases (nearest_halfEven x).bounds with ⟨low, high⟩
  rw [abs_le]
  exact ⟨by linarith, by linarith⟩

/-- A number is rounded beyond `n` from the halfway point on. -/
theorem halfEven_le_iff {x : K} {n : ℤ} :
    halfEven x ≤ n <-> x < n + 1 / 2 ∨ (x = n + 1 / 2 ∧ Even n) := by
  have nearest := nearest_halfEven x
  rcases nearest.bounds with ⟨low, high⟩
  constructor
  · intro within
    have least : (halfEven x : K) ≤ n := by exact_mod_cast within
    rcases lt_or_eq_of_le (show x ≤ n + 1 / 2 by linarith) with below | tie
    · exact Or.inl below
    · have same : halfEven x = n := by
        have touching : (halfEven x : K) = n := by linarith
        exact_mod_cast touching
      refine Or.inr ⟨tie, ?_⟩
      rw [← same]
      apply nearest.even
      rw [same, tie, abs_of_nonneg] <;> linarith
  · rintro (below | ⟨tie, even⟩)
    · by_contra! beyond
      have above : (n : K) + 1 ≤ halfEven x := by exact_mod_cast beyond
      linarith
    · apply le_of_eq
      rw [halfEven_eq_iff]
      right
      rw [tie, add_sub_cancel_left]
      exact ⟨abs_of_pos (by norm_num), even⟩

theorem halfEven_nonneg {x : K} (nonneg : 0 ≤ x) : 0 ≤ halfEven x := by
  have high := (nearest_halfEven x).bounds.2
  by_contra! negative
  have below : (halfEven x : K) ≤ -1 := by exact_mod_cast Int.le_sub_one_of_lt negative
  linarith

/-! ## Whole parts and units -/

/-- The units that are left beside the whole part. -/
def units (scale x : K) : ℤ := halfEven ((x - truncate x) * scale)

theorem units_nonneg {scale x : K} (positive : 0 < scale) (nonneg : 0 ≤ x) :
    0 ≤ units scale x := by
  rw [units, truncate_of_nonneg nonneg]
  apply halfEven_nonneg
  exact mul_nonneg (Int.fract_nonneg x) (le_of_lt positive)

theorem units_le {scale : ℤ} {x : K} (positive : 0 < scale) (nonneg : 0 ≤ x) :
    units (scale : K) x ≤ scale := by
  have small : (x - ⌊x⌋) * scale ≤ scale := by
    have cast : (0 : K) ≤ scale := by exact_mod_cast le_of_lt positive
    exact mul_le_of_le_one_left cast (le_of_lt (Int.fract_lt_one x))
  rw [units, truncate_of_nonneg nonneg, halfEven_le_iff]
  left
  linarith

/-- The units carry into the whole part from the last halfway point on, which
is rounded up if the scale is even. -/
theorem units_lt_iff {scale : ℤ} (even : Even scale) (x : K) :
    units (scale : K) x < scale <-> (x - truncate x) * scale < scale - 1 / 2 := by
  have odd : ¬ Even (scale - 1) := by
    rw [Int.even_sub_one]
    exact not_not_intro even
  have halfway : ((scale - 1 : ℤ) : K) + 1 / 2 = scale - 1 / 2 := by
    push_cast
    ring
  rw [← Int.le_sub_one_iff, units, halfEven_le_iff, halfway]
  exact or_iff_left fun tie => odd tie.2

/-- Whole part and units are within half a unit of the number. -/
theorem abs_truncate_add_units_sub_le {scale : K} (positive : 0 < scale) (x : K) :
    |truncate x + units scale x / scale - x| ≤ 1 / (2 * scale) := by
  have rounded := abs_sub_halfEven_le ((x - truncate x) * scale)
  have error : (truncate x : K) + units scale x / scale - x =
      -(((x - truncate x) * scale - units scale x) / scale) := by
    field_simp
    ring
  rw [error, abs_neg, abs_div, abs_of_pos positive, div_le_iff₀ positive]
  calc |(x - truncate x) * scale - units scale x| ≤ 1 / 2 := rounded
    _ = 1 / (2 * scale) * scale := by field_simp

/-- What is stored without a carry is found again. -/
theorem truncate_units_of_lt {whole part scale : ℤ} (nonneg : 0 ≤ whole) (positive : 0 ≤ part)
    (carryless : part < scale) :
    truncate ((whole : K) + part / scale) = whole ∧
      units (scale : K) ((whole : K) + part / scale) = part := by
  have scalePositive : (0 : K) < scale := by exact_mod_cast lt_of_le_of_lt positive carryless
  have partNonneg : (0 : K) ≤ part / scale := by
    have cast : (0 : K) ≤ part := by exact_mod_cast positive
    exact div_nonneg cast (le_of_lt scalePositive)
  have partSmall : (part : K) / scale < 1 := by
    rw [div_lt_one scalePositive]
    exact_mod_cast carryless
  have wholeNonneg : (0 : K) ≤ whole := by exact_mod_cast nonneg
  have truncated : truncate ((whole : K) + part / scale) = whole := by
    rw [truncate_of_nonneg (by linarith), Int.floor_eq_iff]
    exact ⟨by linarith, by linarith⟩
  refine ⟨truncated, ?_⟩
  have exact : ((whole : K) + part / scale - whole) * scale = part := by
    field_simp
    ring
  rw [units, truncated, exact, halfEven_intCast]

end Rounding
