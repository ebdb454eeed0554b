namespace Wireline

/-!
# Text forms used by error messages

The decoder's messages quote foreign bytes and bit fields.  The forms below
follow the `repr` of `bytes` and the `#x` and `#010x` format specifications,
because an error text becomes the payload of an ERROR frame.
-/

abbrev Bytes := List UInt8

def hexDigits (value : Nat) : String := String.ofList (Nat.toDigits 16 value)

/-- `f"{value:#x}"`.  A negative integer keeps its sign in front of `0x`. -/
def hexInt (value : Int) : String :=
  (if value < 0 then "-0x" else "0x") ++ hexDigits value.natAbs

/-- `f"{value:#010x}"`: at least eight digits after `0x`. -/
def hexWord (value : Nat) : String :=
  let digits := hexDigits value
  "0x" ++ "".pushn '0' (8 - digits.length) ++ digits

private def singleQuote : UInt8 := 39
private def doubleQuote : UInt8 := 34

def reprByte (quote byte : UInt8) : String :=
  if byte = quote ∨ byte = 92 then "\\" ++ String.singleton (Char.ofNat byte.toNat)
  else if byte = 9 then "\\t"
  else if byte = 10 then "\\n"
  else if byte = 13 then "\\r"
  else if byte < 32 ∨ 127 ≤ byte then
    "\\x" ++ "".pushn '0' (2 - (hexDigits byte.toNat).length) ++ hexDigits byte.toNat
  else String.singleton (Char.ofNat byte.toNat)

/-- `f"{value!r}"` for a byte string. -/
def bytesRepr (value : Bytes) : String :=
  let quote := if singleQuote ∈ value ∧ doubleQuote ∉ value then doubleQuote else singleQuote
  let delimiter := String.singleton (Char.ofNat quote.toNat)
  "b" ++ delimiter ++ String.join (value.map (reprByte quote)) ++ delimiter

end Wireline
