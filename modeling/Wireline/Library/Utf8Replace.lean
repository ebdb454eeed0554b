import Wireline.Library.JsonReader

namespace Json

/-!
# Replacing what is not UTF-8

A decoder that goes on behind octets that start no character.  It takes the
longest beginning of a character that they are, at least one octet, and puts
U+FFFD in its place.  Where the strict decoder succeeds, both return the same.
-/

/-- The second octets that may follow this first one. -/
def mayFollow (first second : UInt8) : Bool :=
  if first = 0xE0 then 0xA0 ≤ second && second ≤ 0xBF
  else if first = 0xED then 0x80 ≤ second && second ≤ 0x9F
  else if first = 0xF0 then 0x90 ≤ second && second ≤ 0xBF
  else if first = 0xF4 then 0x80 ≤ second && second ≤ 0x8F
  else 0xC2 ≤ first && first ≤ 0xF4 && 0x80 ≤ second && second ≤ 0xBF

/-- The size of the beginning of a character, for octets that start no whole
one. -/
def beginning : List UInt8 -> Nat
  | first :: second :: third :: _ =>
      if mayFollow first second then
        if 0xF0 ≤ first ∧ 0x80 ≤ third ∧ third ≤ 0xBF then 3 else 2
      else 1
  | [first, second] => if mayFollow first second then 2 else 1
  | _ => 1

/-- `bytes.decode("utf-8", errors="replace")`, given as many steps as there are
octets. -/
def decodeReplace : Nat -> List UInt8 -> List Char
  | _, [] => []
  | 0, _ => []
  | fuel + 1, octets =>
      match octets.toByteArray.utf8DecodeChar? 0 with
      | none => Char.ofNat 0xFFFD :: decodeReplace fuel (octets.drop (beginning octets))
      | some char => char :: decodeReplace fuel (octets.drop char.utf8Size)

theorem decodeReplace_of_decodeUtf8 {fuel : Nat} {octets : List UInt8} {chars : List Char}
    (decoded : decodeUtf8 fuel octets = .ok chars) : decodeReplace fuel octets = chars := by
  induction fuel generalizing octets chars with
  | zero =>
      cases octets with
      | nil =>
          cases decoded
          rfl
      | cons first octets => cases decoded
  | succ fuel ih =>
      cases octets with
      | nil =>
          cases decoded
          rfl
      | cons first octets =>
          rw [decodeUtf8] at decoded
          · rw [decodeReplace]
            · cases found : (first :: octets).toByteArray.utf8DecodeChar? 0 with
              | none =>
                  rw [found] at decoded
                  cases decoded
              | some char =>
                  rw [found] at decoded
                  dsimp only at decoded ⊢
                  cases rest : decodeUtf8 fuel ((first :: octets).drop char.utf8Size) with
                  | error left =>
                      rw [rest] at decoded
                      cases decoded
                  | ok more =>
                      rw [rest] at decoded
                      cases decoded
                      rw [ih rest]
            · exact List.cons_ne_nil first octets
          · exact List.cons_ne_nil first octets

end Json
