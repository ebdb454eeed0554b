import Mathlib

namespace Json

/-!
# JSON values and the compact text of flat objects

`Value` has one constructor for each kind of object that a JSON decoder can
build.  A writer of control messages emits flat objects whose fields are
integers or strings; `dump` is their text with separators `,` and `:` and
without ASCII escaping, encoded as UTF-8.  A `float` keeps its source text,
because nothing that is decided from a message looks inside one.
-/

inductive Value
  | null
  | bool (value : Bool)
  | int (value : Int)
  | float (text : String)
  | str (value : String)
  | list (items : List Value)
  | dict (fields : List (String × Value))

/-- What a flat object may hold. -/
inductive Scalar
  | int (value : Int)
  | str (value : String)
deriving DecidableEq, Repr

namespace Scalar

def toValue : Scalar -> Value
  | int value => .int value
  | str value => .str value

end Scalar

/-- One character inside a JSON string.  Only the quote, the backslash and
the control characters are escaped. -/
def escape (char : Char) : List Char :=
  if char = '"' then ['\\', '"']
  else if char = '\\' then ['\\', '\\']
  else if char = '\n' then ['\\', 'n']
  else if char = '\r' then ['\\', 'r']
  else if char = '\t' then ['\\', 't']
  else if char = Char.ofNat 8 then ['\\', 'b']
  else if char = Char.ofNat 12 then ['\\', 'f']
  else if char.toNat < 32 then
    ['\\', 'u', '0', '0', Nat.digitChar (char.toNat / 16), Nat.digitChar (char.toNat % 16)]
  else [char]

def quote (text : String) : List Char := '"' :: (text.toList.flatMap escape ++ ['"'])

def Scalar.text : Scalar -> List Char
  | int value => (toString value).toList
  | str value => quote value

/-- The members of an object, separated by commas. -/
def members : List (String × Scalar) -> List Char
  | [] => []
  | [(key, value)] => quote key ++ ':' :: value.text
  | (key, value) :: field :: fields =>
      quote key ++ ':' :: (value.text ++ ',' :: members (field :: fields))

def dumps (fields : List (String × Scalar)) : List Char := '{' :: (members fields ++ ['}'])

/-- UTF-8, as a list of octets. -/
def utf8 (chars : List Char) : List UInt8 := chars.flatMap String.utf8EncodeChar

def dump (fields : List (String × Scalar)) : List UInt8 := utf8 (dumps fields)

/-! ## Size of the text -/

theorem length_utf8_le (chars : List Char) : (utf8 chars).length ≤ 4 * chars.length := by
  induction chars with
  | nil => exact Nat.le_refl 0
  | cons char chars ih =>
      have width := char.utf8Size_le_four
      simp only [utf8, List.flatMap_cons, List.length_append, String.length_utf8EncodeChar,
        List.length_cons] at ih ⊢
      omega

theorem length_escape_le (char : Char) : (escape char).length ≤ 6 := by
  unfold escape
  repeat' split
  all_goals simp

theorem length_quote_le (text : String) : (quote text).length ≤ 6 * text.length + 2 := by
  have body : (text.toList.flatMap escape).length ≤ 6 * text.toList.length := by
    induction text.toList with
    | nil => exact Nat.le_refl 0
    | cons char chars ih =>
        have width := length_escape_le char
        simp only [List.flatMap_cons, List.length_append, List.length_cons]
        omega
  rw [String.length_toList] at body
  simp only [quote, List.length_cons, List.length_append, List.length_nil]
  omega

end Json
