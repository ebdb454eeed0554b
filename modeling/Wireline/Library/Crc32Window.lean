import Mathlib
import Wireline.Library.Crc32

namespace Crc32

/-!
# What a CRC-32 sees

Shifting a bit out of the register is linear and can be undone.  So four octets
in a row, whatever stands around them, take the register to each of its states
in exactly one way: a change within four octets is always seen, and any four
octets can be chosen to meet a given sum.
-/

/-! ## One bit -/

def polynomial : BitVec 32 := 0xEDB88320

/-- `shift` on bit vectors. -/
def step (register : BitVec 32) : BitVec 32 :=
  if register.getLsbD 0 then (register >>> 1) ^^^ polynomial else register >>> 1

theorem low_bit (register : UInt32) :
    register &&& 1 = 1 <-> register.toBitVec.getLsbD 0 = true := by
  have bit : (register &&& 1).toBitVec =
      BitVec.setWidth 32 (BitVec.ofBool (register.toBitVec.getLsbD 0)) := by
    rw [UInt32.toBitVec_and]
    exact BitVec.and_one_eq_setWidth_ofBool_getLsbD
  rw [← UInt32.toBitVec_inj, bit]
  cases register.toBitVec.getLsbD 0 <;> decide

theorem toBitVec_shift (register : UInt32) : (shift register).toBitVec = step register.toBitVec := by
  unfold shift step
  by_cases low : register.toBitVec.getLsbD 0 = true
  · rw [if_pos ((low_bit register).mpr low), if_pos low]
    simp [polynomial]
  · rw [if_neg (low ∘ (low_bit register).mp), if_neg low]
    simp

/-- A bit vector whose lowest bit is clear goes through a step alone. -/
theorem step_xor {register other : BitVec 32} (clear : other.getLsbD 0 = false) :
    step (register ^^^ other) = step register ^^^ (other >>> 1) := by
  unfold step
  rw [BitVec.getLsbD_xor, clear, Bool.xor_false, BitVec.ushiftRight_xor_distrib]
  split
  · ac_rfl
  · rfl

/-- The highest bit tells whether a bit was shifted out. -/
def unstep (register : BitVec 32) : BitVec 32 :=
  if register.getLsbD 31 then ((register ^^^ polynomial) <<< 1) ||| 1#32 else register <<< 1

/-- What has been shifted out is put back. -/
theorem shiftLeft_or {register bit : BitVec 32} (low : bit.getLsbD 0 = register.getLsbD 0)
    (others : forall i, 0 < i -> bit.getLsbD i = false) :
    ((register >>> 1) <<< 1) ||| bit = register := by
  apply BitVec.eq_of_getLsbD_eq
  intro i inside
  rw [BitVec.getLsbD_or, BitVec.getLsbD_shiftLeft, BitVec.getLsbD_ushiftRight]
  cases i with
  | zero =>
      rw [low]
      simp only [Nat.lt_one_iff, decide_true, Bool.not_true, Bool.and_false,
        Bool.false_and, Bool.false_or]
  | succ i =>
      have back : 1 + (i + 1 - 1) = i + 1 := by omega
      simp only [others (i + 1) (Nat.succ_pos i), back, inside, decide_true, Bool.or_false,
        Bool.true_and, Nat.not_lt_of_le (Nat.le_add_left 1 i), decide_false, Bool.not_false]

/-- What is put back can be shifted out. -/
theorem or_ushiftRight {register bit : BitVec 32} (highest : register.getLsbD 31 = false)
    (others : forall i, 0 < i -> bit.getLsbD i = false) :
    ((register <<< 1) ||| bit) >>> 1 = register := by
  apply BitVec.eq_of_getLsbD_eq
  intro i inside
  have back : 1 + i - 1 = i := by omega
  rw [BitVec.getLsbD_ushiftRight, BitVec.getLsbD_or, BitVec.getLsbD_shiftLeft, back,
    others _ (by omega), Bool.or_false]
  rcases Nat.lt_or_eq_of_le (Nat.le_of_lt_succ inside) with below | rfl
  · simp only [show 1 + i < 32 by omega, show ¬ 1 + i < 1 by omega, decide_true, decide_false,
      Bool.not_false, Bool.true_and]
  · rw [highest, Bool.and_false]

theorem getLsbD_zero_or (register bit : BitVec 32) :
    ((register <<< 1) ||| bit).getLsbD 0 = bit.getLsbD 0 := by
  simp only [BitVec.getLsbD_or, BitVec.getLsbD_shiftLeft, Nat.lt_one_iff, decide_true, Bool.not_true,
    Bool.and_false, Bool.false_and, Bool.false_or]

theorem one_above (i : Nat) (positive : 0 < i) : (1#32).getLsbD i = false := by
  rw [BitVec.getLsbD_one]
  simp
  omega

theorem unstep_step (register : BitVec 32) : unstep (step register) = register := by
  have highest : polynomial.getLsbD 31 = true := by decide
  have outside : (register >>> 1).getLsbD 31 = false := by simp
  unfold step
  by_cases low : register.getLsbD 0 = true
  · rw [if_pos low, unstep, if_pos (by rw [BitVec.getLsbD_xor, outside, highest]; rfl),
      BitVec.xor_assoc, BitVec.xor_self, BitVec.xor_zero]
    exact shiftLeft_or low.symm one_above
  · have clear : (0#32).getLsbD 0 = register.getLsbD 0 := by
      rw [Bool.not_eq_true] at low
      rw [low]
      rfl
    rw [if_neg low, unstep, if_neg (by rw [outside]; exact Bool.false_ne_true)]
    exact (BitVec.or_zero).symm.trans (shiftLeft_or clear fun i _ => BitVec.getLsbD_zero)

theorem step_unstep (register : BitVec 32) : step (unstep register) = register := by
  have highest : polynomial.getLsbD 31 = true := by decide
  unfold unstep
  by_cases high : register.getLsbD 31 = true
  · have clear : (register ^^^ polynomial).getLsbD 31 = false := by
      rw [BitVec.getLsbD_xor, high, highest]
      rfl
    have low : (((register ^^^ polynomial) <<< 1) ||| 1#32).getLsbD 0 = true :=
      getLsbD_zero_or _ _
    have shifted := or_ushiftRight clear one_above
    rw [if_pos high, step]
    exact (if_pos low).trans (by rw [shifted, BitVec.xor_assoc, BitVec.xor_self, BitVec.xor_zero])
  · have clear : register.getLsbD 31 = false := by rwa [Bool.not_eq_true] at high
    have padded : register <<< 1 ||| 0#32 = register <<< 1 := BitVec.or_zero
    have low : ¬ (register <<< 1).getLsbD 0 = true := by
      rw [← padded, getLsbD_zero_or]
      exact Bool.false_ne_true
    have shifted : (register <<< 1 ||| 0#32) >>> 1 = register :=
      or_ushiftRight clear fun i _ => BitVec.getLsbD_zero
    rw [padded] at shifted
    rw [if_neg high, step, if_neg low, shifted]

theorem step_bijective : Function.Bijective step :=
  Function.bijective_iff_has_inverse.mpr ⟨unstep, unstep_step, step_unstep⟩

/-! ## Octets in a row -/

/-- A bit vector with clear low bits is moved down by as many steps. -/
theorem iterate_step_xor (count : Nat) (register : BitVec 32) {other : BitVec 32}
    (clear : forall i, i < count -> other.getLsbD i = false) :
    step^[count] (register ^^^ other) = step^[count] register ^^^ (other >>> count) := by
  induction count with
  | zero => simp
  | succ count ih =>
      have lowest : (other >>> count).getLsbD 0 = false := by
        rw [BitVec.getLsbD_ushiftRight]
        exact clear count (Nat.lt_succ_self count)
      rw [Function.iterate_succ_apply', ih fun i below => clear i (Nat.lt_succ_of_lt below),
        step_xor lowest, Function.iterate_succ_apply', BitVec.shiftRight_add]

/-- The register after some octets. -/
def absorb (register : UInt32) (octets : List UInt8) : UInt32 := octets.foldl update register

theorem toBitVec_update (register : UInt32) (octet : UInt8) :
    (update register octet).toBitVec =
      step^[8] (register.toBitVec ^^^ octet.toBitVec.setWidth 32) := by
  have shifted (count : Nat) (start : UInt32) :
      (Nat.repeat shift count start).toBitVec = step^[count] start.toBitVec := by
    induction count with
    | zero => rfl
    | succ count ih => rw [Nat.repeat, toBitVec_shift, ih, Function.iterate_succ_apply']
  rw [update, shifted]
  simp

/-- Up to four octets as one word, the first one lowest. -/
def word : List UInt8 -> BitVec 32
  | [] => 0
  | octet :: octets => octet.toBitVec.setWidth 32 ^^^ (word octets <<< 8)

theorem word_high (octets : List UInt8) :
    forall i, 8 * octets.length ≤ i -> (word octets).getLsbD i = false := by
  induction octets with
  | nil =>
      intro i _
      exact BitVec.getLsbD_zero
  | cons octet octets ih =>
      intro i high
      rw [List.length_cons] at high
      rw [word, BitVec.getLsbD_xor, BitVec.getLsbD_setWidth, BitVec.getLsbD_shiftLeft,
        ih (i - 8) (by omega), BitVec.getLsbD_of_ge octet.toBitVec i (by omega)]
      simp

/-- The octets behind the first one. -/
theorem word_shift {octets : List UInt8} (few : octets.length < 4) :
    (word octets <<< 8) >>> 8 = word octets := by
  apply BitVec.eq_of_getLsbD_eq
  intro i inside
  rw [BitVec.getLsbD_ushiftRight, BitVec.getLsbD_shiftLeft, Nat.add_sub_cancel_left]
  by_cases below : 8 + i < 32
  · simp only [below, show ¬ 8 + i < 8 by omega, decide_true, decide_false, Bool.not_false,
      Bool.true_and]
  · rw [word_high octets i (by omega), Bool.and_false]

/-- Up to four octets are taken in like one word. -/
theorem toBitVec_absorb (register : UInt32) {octets : List UInt8} (few : octets.length ≤ 4) :
    (absorb register octets).toBitVec =
      step^[8 * octets.length] (register.toBitVec ^^^ word octets) := by
  induction octets generalizing register with
  | nil => simp [absorb, word]
  | cons octet octets ih =>
      rw [List.length_cons] at few
      have clear : forall i, i < 8 -> (word octets <<< 8).getLsbD i = false := by
        intro i below
        rw [BitVec.getLsbD_shiftLeft]
        simp [below]
      have moved := iterate_step_xor 8 (register.toBitVec ^^^ octet.toBitVec.setWidth 32) clear
      rw [word_shift (by omega)] at moved
      rw [absorb, List.foldl_cons]
      change (absorb (update register octet) octets).toBitVec = _
      rw [ih (update register octet) (by omega), toBitVec_update, ← moved, ← Function.iterate_add_apply,
        BitVec.xor_assoc]
      rfl

/-- The octets of a word are found in it. -/
theorem word_cons_shift (octet : UInt8) (octets : List UInt8) (few : octets.length < 4) :
    word (octet :: octets) >>> 8 = word octets := by
  have gone : (octet.toBitVec.setWidth 32) >>> 8 = 0#32 := by
    apply BitVec.eq_of_getLsbD_eq
    intro i _
    rw [BitVec.getLsbD_ushiftRight, BitVec.getLsbD_setWidth,
      BitVec.getLsbD_of_ge octet.toBitVec _ (by omega), Bool.and_false, BitVec.getLsbD_zero]
  rw [word, BitVec.ushiftRight_xor_distrib, gone, word_shift few, BitVec.zero_xor]

theorem word_cons_low (octet : UInt8) (octets : List UInt8) :
    (word (octet :: octets)).setWidth 8 = octet.toBitVec := by
  apply BitVec.eq_of_getLsbD_eq
  intro i inside
  have within : i < 32 := by omega
  rw [BitVec.getLsbD_setWidth, word, BitVec.getLsbD_xor, BitVec.getLsbD_setWidth,
    BitVec.getLsbD_shiftLeft]
  simp only [inside, within, decide_true, Bool.not_true, Bool.and_false, Bool.false_and,
    Bool.xor_false, Bool.true_and]

theorem word_injective {first second : List UInt8} (sized : first.length = second.length)
    (few : first.length ≤ 4) (same : word first = word second) : first = second := by
  induction first generalizing second with
  | nil => exact (List.length_eq_zero_iff.mp sized.symm).symm
  | cons octet first ih =>
      cases second with
      | nil => simp at sized
      | cons other second =>
          rw [List.length_cons, List.length_cons, Nat.succ_inj] at sized
          rw [List.length_cons] at few
          have low := word_cons_low octet first
          rw [same, word_cons_low] at low
          have high := word_cons_shift octet first (by omega)
          rw [same, word_cons_shift other second (by omega)] at high
          rw [UInt8.toBitVec_inj.mp low, ih sized (by omega) high.symm]

/-- Every word consists of octets. -/
theorem exists_word (size : Nat) (few : size ≤ 4) (target : BitVec 32)
    (clear : forall i, 8 * size ≤ i -> target.getLsbD i = false) :
    ∃ octets : List UInt8, octets.length = size ∧ word octets = target := by
  induction size generalizing target with
  | zero =>
      refine ⟨[], rfl, ?_⟩
      apply BitVec.eq_of_getLsbD_eq
      intro i _
      rw [clear i (by omega)]
      exact BitVec.getLsbD_zero
  | succ size ih =>
      rcases ih (by omega) (target >>> 8) (fun i high => by
        rw [BitVec.getLsbD_ushiftRight]
        exact clear _ (by omega)) with ⟨octets, sized, rest⟩
      refine ⟨⟨target.setWidth 8⟩ :: octets, by rw [List.length_cons, sized], ?_⟩
      apply BitVec.eq_of_getLsbD_eq
      intro i inside
      rw [word, rest, BitVec.getLsbD_xor, BitVec.getLsbD_setWidth, BitVec.getLsbD_setWidth,
        BitVec.getLsbD_shiftLeft, BitVec.getLsbD_ushiftRight]
      by_cases low : i < 8
      · simp only [inside, low, decide_true, Bool.not_true, Bool.and_false, Bool.false_and,
          Bool.xor_false, Bool.true_and]
      · have back : 8 + (i - 8) = i := by omega
        simp only [inside, low, back, decide_true, decide_false, Bool.not_false, Bool.false_and,
          Bool.and_false, Bool.false_xor, Bool.true_and]

/-! ## The whole sum -/

theorem toBitVec_injective : Function.Injective UInt32.toBitVec := fun _ _ => UInt32.toBitVec_inj.mp

/-- What comes later does not bring two registers together. -/
theorem absorb_injective (octets : List UInt8) :
    Function.Injective fun register => absorb register octets := by
  induction octets with
  | nil => exact fun _ _ same => same
  | cons octet octets ih =>
      intro first second same
      have earlier : update first octet = update second octet := ih same
      have bits := congrArg UInt32.toBitVec earlier
      rw [toBitVec_update, toBitVec_update] at bits
      have unshifted := step_bijective.injective.iterate 8 bits
      exact toBitVec_injective ((BitVec.xor_left_inj _).mp unshifted)

theorem absorb_surjective (octets : List UInt8) :
    Function.Surjective fun register => absorb register octets := by
  induction octets with
  | nil => exact fun register => ⟨register, rfl⟩
  | cons octet octets ih =>
      intro target
      rcases ih target with ⟨middle, reached⟩
      rcases step_bijective.surjective.iterate 8 middle.toBitVec with ⟨shifted, same⟩
      refine ⟨⟨shifted ^^^ octet.toBitVec.setWidth 32⟩, ?_⟩
      have earlier : update ⟨shifted ^^^ octet.toBitVec.setWidth 32⟩ octet = middle := by
        apply toBitVec_injective
        rw [toBitVec_update, BitVec.xor_assoc, BitVec.xor_self, BitVec.xor_zero, same]
      exact (congrArg (fun register => absorb register octets) earlier).trans reached

theorem crc32_append (front octets back : List UInt8) :
    crc32 (front ++ octets ++ back) =
      absorb (absorb (absorb 0xFFFFFFFF front) octets) back ^^^ 0xFFFFFFFF := by
  simp [crc32, absorb]

/-- Two strings that differ within four octets in a row have different sums. -/
theorem crc32_window_inj (front back : List UInt8) {first second : List UInt8}
    (sized : first.length = second.length) (few : first.length ≤ 4) :
    crc32 (front ++ first ++ back) = crc32 (front ++ second ++ back) <-> first = second := by
  refine ⟨?_, fun same => by rw [same]⟩
  intro sums
  rw [crc32_append, crc32_append, UInt32.xor_left_inj] at sums
  have also : second.length ≤ 4 := by omega
  have bits := congrArg UInt32.toBitVec (absorb_injective back sums)
  rw [toBitVec_absorb (absorb 0xFFFFFFFF front) few,
    toBitVec_absorb (absorb 0xFFFFFFFF front) also, ← sized] at bits
  have words := step_bijective.injective.iterate _ bits
  exact word_injective sized few ((BitVec.xor_right_inj _).mp words)

/-- Four octets in a row meet every sum, in exactly one way. -/
theorem crc32_window (front back : List UInt8) (sum : UInt32) :
    ∃! patch : List UInt8, patch.length = 4 ∧ crc32 (front ++ patch ++ back) = sum := by
  rcases absorb_surjective back (sum ^^^ 0xFFFFFFFF) with ⟨behind, reached⟩
  rcases step_bijective.surjective.iterate 32 behind.toBitVec with ⟨shifted, same⟩
  let register := absorb 0xFFFFFFFF front
  rcases exists_word 4 (Nat.le_refl 4) (register.toBitVec ^^^ shifted)
    (fun i high => BitVec.getLsbD_of_ge _ i high) with ⟨patch, sized, spelled⟩
  have met : crc32 (front ++ patch ++ back) = sum := by
    have middle : absorb register patch = behind := by
      apply toBitVec_injective
      rw [toBitVec_absorb _ (Nat.le_of_eq sized), sized, spelled, ← BitVec.xor_assoc,
        BitVec.xor_self, BitVec.zero_xor]
      exact same
    have last : absorb behind back = sum ^^^ 0xFFFFFFFF := reached
    rw [crc32_append]
    change absorb (absorb register patch) back ^^^ 0xFFFFFFFF = sum
    rw [middle, last, UInt32.xor_assoc, UInt32.xor_self, UInt32.xor_zero]
  refine ⟨patch, ⟨sized, met⟩, ?_⟩
  rintro other ⟨four, also⟩
  exact (crc32_window_inj front back (four.trans sized.symm) (Nat.le_of_eq four)).mp
    (also.trans met.symm)

end Crc32
