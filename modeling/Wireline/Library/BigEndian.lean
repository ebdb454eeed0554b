import Mathlib

namespace BigEndian

/-!
# Fixed-width big-endian integers

A binary format writes an unsigned integer as a known number of octets, most
significant first.  Writing at a fixed width and reading back are inverse on
exactly the values that fit the width.  Both directions are stated for every
width, so a format with several field sizes needs one pair of laws.
-/

/-- Write `value` on `width` octets.  A value that does not fit loses its
high octets, as truncation to a machine word does. -/
def encode : Nat -> Nat -> List UInt8
  | 0, _ => []
  | width + 1, value => encode width (value / 256) ++ [UInt8.ofNat value]

/-- Read octets as one number, most significant octet first. -/
def decode (octets : List UInt8) : Nat :=
  octets.foldl (fun value octet => value * 256 + octet.toNat) 0

@[simp] theorem length_encode (width value : Nat) : (encode width value).length = width := by
  induction width generalizing value with
  | zero => rfl
  | succ width ih => rw [encode, List.length_append, ih, List.length_singleton]

@[simp] theorem decode_nil : decode [] = 0 := rfl

theorem decode_concat (octets : List UInt8) (last : UInt8) :
    decode (octets ++ [last]) = decode octets * 256 + last.toNat := by
  simp only [decode, List.foldl_append, List.foldl_cons, List.foldl_nil]

theorem decode_lt (octets : List UInt8) : decode octets < 256 ^ octets.length := by
  induction octets using List.reverseRecOn with
  | nil => decide
  | append_singleton octets last ih =>
      have octetBound := last.toNat_lt
      rw [decode_concat, List.length_append, List.length_singleton, Nat.pow_succ]
      omega

/-- Reading back returns every value that fits the width. -/
theorem decode_encode (width value : Nat) (fits : value < 256 ^ width) :
    decode (encode width value) = value := by
  induction width generalizing value with
  | zero =>
      have zero : value = 0 := by simpa using fits
      rw [zero, encode, decode_nil]
  | succ width ih =>
      have quotientFits : value / 256 < 256 ^ width := by
        rw [Nat.pow_succ] at fits
        exact Nat.div_lt_of_lt_mul (by rw [Nat.mul_comm]; exact fits)
      rw [encode, decode_concat, ih (value / 256) quotientFits, UInt8.toNat_ofNat']
      omega

/-- Writing back returns the octets that were read, at their own width. -/
theorem encode_decode (octets : List UInt8) : encode octets.length (decode octets) = octets := by
  induction octets using List.reverseRecOn with
  | nil => rfl
  | append_singleton octets last ih =>
      have octetBound := last.toNat_lt
      have quotient : (decode octets * 256 + last.toNat) / 256 = decode octets := by omega
      have remainder : UInt8.ofNat (decode octets * 256 + last.toNat) = last := by
        apply UInt8.toNat_inj.mp
        rw [UInt8.toNat_ofNat']
        omega
      rw [List.length_append, List.length_singleton, encode, decode_concat, quotient, ih,
        remainder]

end BigEndian
