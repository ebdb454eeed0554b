import Wireline.Library.Json

namespace Json

/-!
# Reading JSON text

A reader of the full grammar, which decodes UTF-8 first and reports positions
the way the writers of control messages see them: an objection names the
number of characters left, from which the caller computes line and column.
Integers have a digit limit and objects and arrays a depth limit.

The last section is the round trip: a flat object with distinct keys that
`dump` has written is read back as it was.
-/

/-- What a text can fail to be. -/
inductive Objection
  | unterminatedString
  | controlCharacter
  | escape
  | unicodeEscape
  | propertyName
  | colon
  | comma
  | value
  | extraData
  | byteOrderMark
deriving DecidableEq, Repr

def Objection.message : Objection -> String
  | unterminatedString => "Unterminated string starting at"
  | controlCharacter => "Invalid control character at"
  | escape => "Invalid \\escape"
  | unicodeEscape => "Invalid \\uXXXX escape"
  | propertyName => "Expecting property name enclosed in double quotes"
  | colon => "Expecting ':' delimiter"
  | comma => "Expecting ',' delimiter"
  | value => "Expecting value"
  | extraData => "Extra data"
  | byteOrderMark => "Unexpected UTF-8 BOM (decode using utf-8-sig)"

/-- Why a text was not read.  `left` is what is left of it where the reader
objects. -/
inductive ReadError
  | objection (objection : Objection) (left : Nat)
  | tooManyDigits (digits : Nat)
  | tooDeep
deriving DecidableEq, Repr

def reject {α : Type} (objection : Objection) (left : Nat) : Except ReadError α :=
  .error (.objection objection left)

def isSpace (char : Char) : Bool := char = ' ' ∨ char = '\t' ∨ char = '\n' ∨ char = '\r'

def skipSpace (chars : List Char) : List Char := chars.dropWhile isSpace

/-! ## Strings -/

def hexValue (char : Char) : Option Nat :=
  if char.isDigit then some (char.toNat - '0'.toNat)
  else if 'a' ≤ char ∧ char ≤ 'f' then some (char.toNat - 'a'.toNat + 10)
  else if 'A' ≤ char ∧ char ≤ 'F' then some (char.toNat - 'A'.toNat + 10)
  else none

def readHex : List Char -> Option (Nat × List Char)
  | first :: second :: third :: fourth :: rest => do
      let first <- hexValue first
      let second <- hexValue second
      let third <- hexValue third
      let fourth <- hexValue fourth
      some (((first * 16 + second) * 16 + third) * 16 + fourth, rest)
  | _ => none

/-- A code point of an escape.  A surrogate without its pair is no character
here. -/
def codePoint (code : Nat) : Char :=
  if code.isValidChar then Char.ofNat code else Char.ofNat 0xFFFD

/-- The four digits after `\u`, and those of the other half of a pair. -/
def readUnicode (chars : List Char) : Except ReadError (Char × List Char) :=
  match readHex chars with
  | none => reject .unicodeEscape chars.length
  | some (high, rest) =>
      let single := .ok (codePoint high, rest)
      if 0xD800 ≤ high ∧ high < 0xDC00 then
        match rest with
        | '\\' :: 'u' :: more =>
            match readHex more with
            | some (low, rest) =>
                if 0xDC00 ≤ low ∧ low < 0xE000 then
                  .ok (codePoint (0x10000 + (high - 0xD800) * 1024 + (low - 0xDC00)), rest)
                else single
            | none => single
        | _ => single
      else single

/-- The characters that a backslash and a letter stand for. -/
def escapes : List (Char × Char) :=
  [('"', '"'), ('\\', '\\'), ('/', '/'), ('b', Char.ofNat 8), ('f', Char.ofNat 12), ('n', '\n'),
    ('r', '\r'), ('t', '\t')]

def readEscape (start : Nat) : List Char -> Except ReadError (Char × List Char)
  | [] => reject .unterminatedString start
  | char :: rest =>
      if char = 'u' then readUnicode rest
      else
        match escapes.lookup char with
        | some meant => .ok (meant, rest)
        | none => reject .escape (rest.length + 2)

/-- The characters up to the closing quote.  `start` is what was left at the
opening one. -/
def readString (start : Nat) : Nat -> List Char -> Except ReadError (List Char × List Char)
  | 0, _ => reject .unterminatedString start
  | _ + 1, [] => reject .unterminatedString start
  | fuel + 1, char :: rest =>
      if char = '"' then .ok ([], rest)
      else if char = '\\' then do
        let (meant, rest) <- readEscape start rest
        let (chars, rest) <- readString start fuel rest
        .ok (meant :: chars, rest)
      else if char.toNat < 32 then reject .controlCharacter (rest.length + 1)
      else do
        let (chars, rest) <- readString start fuel rest
        .ok (char :: chars, rest)

/-! ## Numbers -/

/-- The digits at the front. -/
def spanDigits (chars : List Char) : List Char × List Char :=
  (chars.takeWhile Char.isDigit, chars.dropWhile Char.isDigit)

/-- `.` and digits, if both are there. -/
def readFraction : List Char -> List Char × List Char
  | '.' :: chars =>
      let (digits, rest) := spanDigits chars
      if digits = [] then ([], '.' :: chars) else ('.' :: digits, rest)
  | chars => ([], chars)

/-- `e`, a sign or none, and digits, if all are there. -/
def readExponent : List Char -> List Char × List Char
  | letter :: chars =>
      let (sign, unsigned) :=
        match chars with
        | '+' :: rest => (['+'], rest)
        | '-' :: rest => (['-'], rest)
        | rest => ([], rest)
      let (digits, rest) := spanDigits unsigned
      if (letter = 'e' ∨ letter = 'E') ∧ digits ≠ [] then (letter :: (sign ++ digits), rest)
      else ([], letter :: chars)
  | [] => ([], [])

/-- The integral digits: a single zero, or digits that start with another. -/
def readIntegral (chars : List Char) : List Char × List Char :=
  match chars with
  | '0' :: rest => (['0'], rest)
  | chars => spanDigits chars

/-- The limit of `int` on decimal digits. -/
def maxDigits : Nat := 4300

def readNumber (chars : List Char) : Except ReadError (Value × List Char) :=
  let (negative, unsigned) :=
    match chars with
    | '-' :: rest => (true, rest)
    | rest => (false, rest)
  let (integral, rest) := readIntegral unsigned
  if integral = [] then reject .value chars.length
  else
    let (fraction, rest) := readFraction rest
    let (exponent, rest) := readExponent rest
    if fraction = [] ∧ exponent = [] then
      if maxDigits < integral.length then .error (.tooManyDigits integral.length)
      else
        let magnitude : Int := Nat.ofDigitChars 10 integral 0
        .ok (.int (if negative then -magnitude else magnitude), rest)
    else
      let sign := if negative then ['-'] else []
      .ok (.float (String.ofList (sign ++ integral ++ fraction ++ exponent)), rest)

/-! ## Values -/

/-- A key that occurs again keeps its place and takes the new value. -/
def insertField (key : String) (value : Value) : List (String × Value) -> List (String × Value)
  | [] => [(key, value)]
  | field :: fields =>
      if field.1 = key then (key, value) :: fields else field :: insertField key value fields

/-- The words that stand for values. -/
def constants : List (List Char × Value) :=
  [(['n', 'u', 'l', 'l'], .null), (['t', 'r', 'u', 'e'], .bool true),
    (['f', 'a', 'l', 's', 'e'], .bool false), (['N', 'a', 'N'], .float "nan"),
    (['I', 'n', 'f', 'i', 'n', 'i', 't', 'y'], .float "inf"),
    (['-', 'I', 'n', 'f', 'i', 'n', 'i', 't', 'y'], .float "-inf")]

/-- A constant, or else a number. -/
def readAtom (chars : List Char) : Except ReadError (Value × List Char) :=
  match constants.find? fun constant => constant.1.isPrefixOf chars with
  | some (word, value) => .ok (value, chars.drop word.length)
  | none => readNumber chars

mutual

def readValue : Nat -> Nat -> List Char -> Except ReadError (Value × List Char)
  | 0, _, chars => reject .value chars.length
  | fuel + 1, depth, chars =>
      match chars with
      | '"' :: rest => do
          let (text, rest) <- readString (rest.length + 1) (rest.length + 1) rest
          .ok (.str (String.ofList text), rest)
      | '{' :: rest =>
          if depth = 0 then .error .tooDeep
          else
            match skipSpace rest with
            | '}' :: rest => .ok (.dict [], rest)
            | rest => readMembers fuel (depth - 1) [] rest
      | '[' :: rest =>
          if depth = 0 then .error .tooDeep
          else
            match skipSpace rest with
            | ']' :: rest => .ok (.list [], rest)
            | rest => readItems fuel (depth - 1) [] rest
      | chars => readAtom chars

def readMembers : Nat -> Nat -> List (String × Value) -> List Char ->
    Except ReadError (Value × List Char)
  | 0, _, _, chars => reject .propertyName chars.length
  | fuel + 1, depth, fields, chars =>
      match chars with
      | '"' :: rest => do
          let (key, rest) <- readString (rest.length + 1) (rest.length + 1) rest
          match skipSpace rest with
          | ':' :: rest => do
              let (value, rest) <- readValue fuel depth (skipSpace rest)
              let fields := insertField (String.ofList key) value fields
              match skipSpace rest with
              | '}' :: rest => .ok (.dict fields, rest)
              | ',' :: rest => readMembers fuel depth fields (skipSpace rest)
              | rest => reject .comma rest.length
          | rest => reject .colon rest.length
      | chars => reject .propertyName chars.length

def readItems : Nat -> Nat -> List Value -> List Char -> Except ReadError (Value × List Char)
  | 0, _, _, chars => reject .value chars.length
  | fuel + 1, depth, items, chars => do
      let (item, rest) <- readValue fuel depth chars
      match skipSpace rest with
      | ']' :: rest => .ok (.list (items ++ [item]), rest)
      | ',' :: rest => readItems fuel depth (items ++ [item]) (skipSpace rest)
      | rest => reject .comma rest.length

end

/-- A whole text. -/
def readText (depth : Nat) (chars : List Char) : Except ReadError Value :=
  match chars with
  | '\uFEFF' :: _ => .error (.objection .byteOrderMark chars.length)
  | chars => do
      let (value, rest) <- readValue (chars.length + 1) depth (skipSpace chars)
      match skipSpace rest with
      | [] => .ok value
      | rest => .error (.objection .extraData rest.length)

/-- Strict UTF-8.  The number is that of the octets left at the first one
that starts no character. -/
def decodeUtf8 : Nat -> List UInt8 -> Except Nat (List Char)
  | _, [] => .ok []
  | 0, octets => .error octets.length
  | fuel + 1, octets =>
      match octets.toByteArray.utf8DecodeChar? 0 with
      | none => .error octets.length
      | some char => (decodeUtf8 fuel (octets.drop char.utf8Size)).map fun chars => char :: chars

/-! ## Reading back what was written -/

theorem hexValue_digitChar : forall digit, digit < 16 ->
    hexValue (Nat.digitChar digit) = some digit := by decide

theorem readString_backslash {start : Nat} {chars rest : List Char} {meant : Char}
    (escaped : readEscape start chars = .ok (meant, rest)) (fuel : Nat) :
    readString start (fuel + 1) ('\\' :: chars) =
      (readString start fuel rest).map fun read => (meant :: read.1, read.2) := by
  rw [readString, if_neg (by decide), if_pos rfl, escaped]
  change (readString start fuel rest).bind _ = _
  cases readString start fuel rest <;> rfl

theorem readEscape_control (start : Nat) {char : Char} (control : char.toNat < 32)
    (rest : List Char) :
    readEscape start ('u' :: '0' :: '0' :: Nat.digitChar (char.toNat / 16) ::
      Nat.digitChar (char.toNat % 16) :: rest) = .ok (char, rest) := by
  have high := hexValue_digitChar (char.toNat / 16) (by omega)
  have low := hexValue_digitChar (char.toNat % 16) (by omega)
  have zero := hexValue_digitChar 0 (by decide)
  have code : ((0 * 16 + 0) * 16 + char.toNat / 16) * 16 + char.toNat % 16 = char.toNat := by omega
  have read : readHex ('0' :: '0' :: Nat.digitChar (char.toNat / 16) ::
      Nat.digitChar (char.toNat % 16) :: rest) = some (char.toNat, rest) := by
    rw [readHex]
    simp only [show hexValue '0' = some 0 from zero, high, low, Option.bind_eq_bind,
      Option.bind_some, code]
  have valid : char.toNat.isValidChar := .inl (by omega)
  have same : codePoint char.toNat = char := by
    rw [codePoint, if_pos valid]
    exact Char.ofNat_toNat char
  rw [readEscape, if_pos rfl, readUnicode, read]
  dsimp only
  rw [if_neg (by omega), same]

/-- A written character takes one step to read. -/
theorem readString_escape (start fuel : Nat) (char : Char) (rest : List Char) :
    readString start (fuel + 1) (escape char ++ rest) =
      (readString start fuel rest).map fun read => (char :: read.1, read.2) := by
  have plain (ordinary : char ≠ '"' ∧ char ≠ '\\' ∧ ¬ char.toNat < 32) :
      readString start (fuel + 1) (char :: rest) =
        (readString start fuel rest).map fun read => (char :: read.1, read.2) := by
    rw [readString, if_neg ordinary.1, if_neg ordinary.2.1, if_neg ordinary.2.2]
    cases readString start fuel rest <;> rfl
  unfold escape
  by_cases quotation : char = '"'
  · subst quotation
    exact readString_backslash rfl fuel
  by_cases backslash : char = '\\'
  · subst backslash
    exact readString_backslash rfl fuel
  rw [if_neg quotation, if_neg backslash]
  split
  · subst char
    exact readString_backslash rfl fuel
  · split
    · subst char
      exact readString_backslash rfl fuel
    · split
      · subst char
        exact readString_backslash rfl fuel
      · split
        · subst char
          exact readString_backslash rfl fuel
        · split
          · subst char
            exact readString_backslash rfl fuel
          · split
            · rename_i control
              exact readString_backslash (readEscape_control start control rest) fuel
            · rename_i ordinary
              exact plain ⟨quotation, backslash, ordinary⟩

theorem readString_quoted (start : Nat) {fuel : Nat} {chars : List Char}
    (enough : chars.length < fuel) (rest : List Char) :
    readString start fuel (chars.flatMap escape ++ '"' :: rest) = .ok (chars, rest) := by
  induction chars generalizing fuel with
  | nil =>
      cases fuel with
      | zero => omega
      | succ fuel => rw [List.flatMap_nil, List.nil_append, readString, if_pos rfl]
  | cons char chars ih =>
      cases fuel with
      | zero => omega
      | succ fuel =>
          rw [List.length_cons] at enough
          rw [List.flatMap_cons, List.append_assoc, readString_escape, ih (by omega)]
          rfl

/-- What follows a value in a flat object. -/
inductive Delimited : List Char -> Prop
  | comma (rest : List Char) : Delimited (',' :: rest)
  | brace (rest : List Char) : Delimited ('}' :: rest)

theorem spanDigits_append {digits rest : List Char} (all : forall char, char ∈ digits -> char.isDigit)
    (delimited : Delimited rest) : spanDigits (digits ++ rest) = (digits, rest) := by
  have stops : rest.takeWhile Char.isDigit = [] ∧ rest.dropWhile Char.isDigit = rest := by
    cases delimited <;> exact ⟨rfl, rfl⟩
  rw [spanDigits, List.takeWhile_append_of_pos all, List.dropWhile_append_of_pos all, stops.1,
    stops.2, List.append_nil]

theorem insertField_new {key : String} {value : Value} {fields : List (String × Value)}
    (absent : key ∉ fields.map Prod.fst) : insertField key value fields = fields ++ [(key, value)] := by
  induction fields with
  | nil => rfl
  | cons field fields ih =>
      rw [List.map_cons, List.mem_cons, not_or] at absent
      rw [insertField, if_neg (fun same => absent.1 same.symm), ih absent.2, List.cons_append]

theorem decodeUtf8_utf8 {fuel : Nat} {chars : List Char} (enough : chars.length ≤ fuel) :
    decodeUtf8 fuel (utf8 chars) = .ok chars := by
  induction chars generalizing fuel with
  | nil =>
      cases fuel <;> rfl
  | cons char chars ih =>
      cases fuel with
      | zero => cases enough
      | succ fuel =>
          rw [List.length_cons] at enough
          have wide : (String.utf8EncodeChar char).length = char.utf8Size :=
            String.length_utf8EncodeChar char
          have decoded : (utf8 (char :: chars)).toByteArray.utf8DecodeChar? 0 = some char := by
            rw [utf8, List.flatMap_cons, List.toByteArray_append]
            exact ByteArray.utf8DecodeChar?_utf8EncodeChar_append
          have left : (utf8 (char :: chars)).drop char.utf8Size = utf8 chars := by
            rw [utf8, List.flatMap_cons, ← wide, List.drop_left]
            rfl
          have later := ih (Nat.le_of_succ_le_succ enough)
          have nonempty : (utf8 (char :: chars)).length ≠ 0 := by
            have positive := char.utf8Size_pos
            rw [utf8, List.flatMap_cons, List.length_append, wide]
            omega
          generalize utf8 (char :: chars) = octets at decoded left nonempty
          cases octets with
          | nil => exact absurd rfl nonempty
          | cons first others =>
              rw [decodeUtf8, decoded]
              · dsimp only
                rw [left, later]
                rfl
              · exact List.cons_ne_nil first others

/-- The digits of a number start with a zero only if it is zero. -/
theorem toDigits_eq_cons (value : Nat) :
    ∃ first rest, Nat.toDigits 10 value = first :: rest ∧ (first = '0' -> value = 0) := by
  induction value using Nat.strongRecOn with
  | ind value ih =>
      by_cases small : value < 10
      · rw [Nat.toDigits_of_lt_base small]
        exact ⟨_, [], rfl, Nat.digitChar_eq_zero.mp⟩
      · have large := Nat.le_of_not_lt small
        rcases ih (value / 10) (by omega) with ⟨first, rest, digits, leading⟩
        rw [Nat.toDigits_of_base_le (by decide) large, digits]
        refine ⟨first, _, rfl, fun zero => ?_⟩
        have quotient := leading zero
        omega

theorem isDigit_toDigits {value : Nat} {char : Char} (member : char ∈ Nat.toDigits 10 value) :
    char.isDigit := Nat.isDigit_of_mem_toDigits (by decide) (by decide) member

theorem readIntegral_toDigits {value : Nat} {rest : List Char} (delimited : Delimited rest) :
    readIntegral (Nat.toDigits 10 value ++ rest) = (Nat.toDigits 10 value, rest) := by
  rcases toDigits_eq_cons value with ⟨first, others, digits, leading⟩
  by_cases zero : first = '0'
  · rw [leading zero]
    rfl
  · have decimal : forall char, char ∈ Nat.toDigits 10 value -> char.isDigit = true :=
      fun _ => isDigit_toDigits
    have spanned := spanDigits_append decimal delimited
    rw [digits, List.cons_append] at spanned ⊢
    rw [readIntegral]
    · exact spanned
    · rintro more same
      exact zero (List.cons.inj same).1

theorem readNumber_toDigits {value : Nat} (few : (Nat.toDigits 10 value).length ≤ maxDigits)
    {rest : List Char} (delimited : Delimited rest) :
    readNumber (Nat.toDigits 10 value ++ rest) = .ok (.int value, rest) := by
  have plain : readFraction rest = ([], rest) ∧ readExponent rest = ([], rest) := by
    cases delimited <;> exact ⟨rfl, rfl⟩
  have unsigned (more : List Char) (negative : Nat.toDigits 10 value ++ rest = '-' :: more) :
      False := by
    rcases toDigits_eq_cons value with ⟨first, others, digits, _⟩
    have numeral : first.isDigit := isDigit_toDigits (digits ▸ List.mem_cons_self)
    rw [digits] at negative
    rw [(List.cons.inj negative).1] at numeral
    cases numeral
  rw [readNumber]
  · rw [readIntegral_toDigits delimited]
    dsimp only
    rw [if_neg Nat.toDigits_ne_nil, plain.1]
    dsimp only
    rw [plain.2]
    dsimp only
    rw [if_pos ⟨rfl, rfl⟩, if_neg (Nat.not_lt_of_ge few), if_neg Bool.false_ne_true,
      Nat.ofDigitChars_ten_toDigits]
  · exact unsigned

/-! ### Flat objects -/

/-- A scalar that a reader accepts: an integer that is not negative and has
few digits, or a string. -/
def Readable : Scalar -> Prop
  | .int value => ∃ magnitude : Nat, value = magnitude ∧
      (Nat.toDigits 10 magnitude).length ≤ maxDigits
  | .str _ => True

theorem quote_append (text : String) (rest : List Char) :
    quote text ++ rest = '"' :: (text.toList.flatMap escape ++ '"' :: rest) := by
  rw [quote, List.cons_append, List.append_assoc, List.singleton_append]

/-- The fuel that a string is read with is enough for what was written. -/
theorem readString_text (text : String) (start : Nat) (rest : List Char) :
    readString start ((text.toList.flatMap escape ++ '"' :: rest).length + 1)
      (text.toList.flatMap escape ++ '"' :: rest) = .ok (text.toList, rest) := by
  have written (chars : List Char) : chars.length ≤ (chars.flatMap escape).length := by
    induction chars with
    | nil => exact Nat.le_refl 0
    | cons char chars ih =>
        have one : 0 < (escape char).length := by
          unfold escape
          repeat' split
          all_goals exact Nat.succ_pos _
        rw [List.flatMap_cons, List.length_append, List.length_cons]
        omega
  apply readString_quoted
  have bound := written text.toList
  rw [List.length_append]
  omega

theorem readAtom_digit {first : Char} (numeral : first.isDigit) (others : List Char) :
    readAtom (first :: others) = readNumber (first :: others) := by
  have differs {letter : Char} (other : letter.isDigit = false) : (letter == first) = false := by
    apply beq_eq_false_iff_ne.mpr
    rintro rfl
    rw [numeral] at other
    cases other
  have missed : (constants.find? fun constant => constant.1.isPrefixOf (first :: others)) = none := by
    simp only [constants, List.find?_cons, List.isPrefixOf, List.find?_nil,
      differs (show 'n'.isDigit = false from rfl), differs (show 't'.isDigit = false from rfl),
      differs (show 'f'.isDigit = false from rfl), differs (show 'N'.isDigit = false from rfl),
      differs (show 'I'.isDigit = false from rfl), differs (show '-'.isDigit = false from rfl),
      Bool.false_and]
  rw [readAtom, missed]

theorem readValue_scalar {scalar : Scalar} (readable : Readable scalar) (fuel depth : Nat)
    {rest : List Char} (delimited : Delimited rest) :
    readValue (fuel + 1) depth (scalar.text ++ rest) = .ok (scalar.toValue, rest) := by
  cases scalar with
  | str text =>
      rw [Scalar.text, quote_append, readValue, readString_text]
      change Except.ok (Value.str (String.ofList text.toList), rest) = _
      rw [String.ofList_toList]
      rfl
  | int value =>
      rcases readable with ⟨magnitude, rfl, few⟩
      have digits : (Scalar.int magnitude).text = Nat.toDigits 10 magnitude := by
        change (Nat.repr magnitude).toList = _
        exact Nat.toList_repr
      have number := readNumber_toDigits few delimited
      rcases toDigits_eq_cons magnitude with ⟨first, others, spelled, _⟩
      have numeral : first.isDigit := isDigit_toDigits (spelled ▸ List.mem_cons_self)
      have different {letter : Char} (other : letter.isDigit = false) (more : List Char)
          (same : first :: (others ++ rest) = letter :: more) : False := by
        rw [(List.cons.inj same).1, other] at numeral
        cases numeral
      rw [digits]
      rw [spelled, List.cons_append] at number ⊢
      rw [readValue]
      · rw [readAtom_digit numeral]
        exact number
      · exact different rfl
      · exact different rfl
      · exact different rfl

theorem skipSpace_scalar {scalar : Scalar} (readable : Readable scalar) (rest : List Char) :
    skipSpace (scalar.text ++ rest) = scalar.text ++ rest := by
  cases scalar with
  | str text =>
      rw [Scalar.text, quote_append]
      rfl
  | int value =>
      rcases readable with ⟨magnitude, rfl, _⟩
      have digits : (Scalar.int magnitude).text = Nat.toDigits 10 magnitude := by
        change (Nat.repr magnitude).toList = _
        exact Nat.toList_repr
      rcases toDigits_eq_cons magnitude with ⟨first, others, spelled, _⟩
      have numeral : first.isDigit := isDigit_toDigits (spelled ▸ List.mem_cons_self)
      have solid : isSpace first = false := by
        apply decide_eq_false
        rintro (rfl | rfl | rfl | rfl) <;> cases numeral
      rw [digits, spelled, List.cons_append, skipSpace, List.dropWhile_cons_of_neg (by rw [solid]; nofun)]

/-- The last member of an object. -/
theorem readMembers_last (key : String) {scalar : Scalar} (readable : Readable scalar)
    (fuel depth : Nat) (read : List (String × Value)) (rest : List Char) :
    readMembers (fuel + 2) depth read (quote key ++ ':' :: (scalar.text ++ '}' :: rest)) =
      .ok (.dict (insertField key scalar.toValue read), rest) := by
  have colon : skipSpace (':' :: (scalar.text ++ '}' :: rest)) = ':' :: (scalar.text ++ '}' :: rest) :=
    rfl
  have brace : skipSpace ('}' :: rest) = '}' :: rest := rfl
  rw [quote_append, readMembers, readString_text]
  simp only [bind, Except.bind, colon, skipSpace_scalar readable,
    readValue_scalar readable fuel depth (.brace rest), brace, String.ofList_toList]

/-- A member before another one. -/
theorem readMembers_more (key : String) {scalar : Scalar} (readable : Readable scalar)
    (fuel depth : Nat) (read : List (String × Value)) (rest : List Char) :
    readMembers (fuel + 2) depth read (quote key ++ ':' :: (scalar.text ++ ',' :: rest)) =
      readMembers (fuel + 1) depth (insertField key scalar.toValue read) (skipSpace rest) := by
  have colon : skipSpace (':' :: (scalar.text ++ ',' :: rest)) = ':' :: (scalar.text ++ ',' :: rest) :=
    rfl
  have comma : skipSpace (',' :: rest) = ',' :: rest := rfl
  rw [quote_append, readMembers, readString_text]
  simp only [bind, Except.bind, colon, skipSpace_scalar readable,
    readValue_scalar readable fuel depth (.comma rest), comma, String.ofList_toList]

theorem skipSpace_members (field : String × Scalar) (fields : List (String × Scalar))
    (rest : List Char) :
    skipSpace (members (field :: fields) ++ rest) = members (field :: fields) ++ rest := by
  cases fields with
  | nil => rfl
  | cons next fields => rfl

theorem readMembers_members {fields : List (String × Scalar)} {field : String × Scalar}
    {fuel : Nat} (enough : fields.length + 2 ≤ fuel) (depth : Nat) {read : List (String × Value)}
    (distinct : (read.map Prod.fst ++ (field :: fields).map Prod.fst).Nodup)
    (readable : forall other, other ∈ field :: fields -> Readable other.2) (rest : List Char) :
    readMembers fuel depth read (members (field :: fields) ++ '}' :: rest) =
      .ok (.dict (read ++ (field :: fields).map fun other => (other.1, other.2.toValue)), rest) := by
  induction fields generalizing field fuel read with
  | nil =>
      rcases field with ⟨key, scalar⟩
      rcases Nat.exists_eq_add_of_le' enough with ⟨spare, rfl⟩
      have absent : key ∉ read.map Prod.fst := by
        intro present
        exact (List.nodup_append.mp distinct).2.2 key present key List.mem_cons_self rfl
      have last := readMembers_last key (readable _ List.mem_cons_self) spare depth read rest
      rw [insertField_new absent] at last
      rw [members, List.append_assoc]
      exact last
  | cons next fields ih =>
      rcases field with ⟨key, scalar⟩
      rcases Nat.exists_eq_add_of_le' enough with ⟨spare, rfl⟩
      have absent : key ∉ read.map Prod.fst := by
        intro present
        exact (List.nodup_append.mp distinct).2.2 key present key List.mem_cons_self rfl
      have more := readMembers_more key (readable _ List.mem_cons_self)
        (spare + (next :: fields).length) depth read (members (next :: fields) ++ '}' :: rest)
      rw [insertField_new absent, skipSpace_members] at more
      rw [members, List.append_assoc, List.cons_append, List.append_assoc, List.cons_append]
      refine more.trans ((ih ?_ ?_ ?_).trans ?_)
      · rw [List.length_cons]
        omega
      · rw [List.map_append, List.append_assoc]
        exact distinct
      · exact fun other member => readable other (List.mem_cons_of_mem _ member)
      · rw [List.append_assoc]
        rfl

theorem length_le_members (fields : List (String × Scalar)) :
    fields.length ≤ (members fields).length := by
  induction fields with
  | nil => exact Nat.le_refl 0
  | cons field fields ih =>
      rcases field with ⟨key, scalar⟩
      cases fields with
      | nil =>
          rw [members, List.length_append, List.length_cons]
          exact Nat.le_add_left_of_le (Nat.succ_le_succ (Nat.zero_le _))
      | cons next fields =>
          simp only [members, List.length_append, List.length_cons] at ih ⊢
          omega

/-- A flat object with distinct keys is read as it was written. -/
theorem readText_dumps {fields : List (String × Scalar)} (distinct : (fields.map Prod.fst).Nodup)
    (readable : forall field, field ∈ fields -> Readable field.2) (depth : Nat) :
    readText (depth + 1) (dumps fields) =
      .ok (.dict (fields.map fun field => (field.1, field.2.toValue))) := by
  have opened : skipSpace (dumps fields) = dumps fields := rfl
  have read : readValue ((dumps fields).length + 1) (depth + 1) (dumps fields) =
      .ok (.dict (fields.map fun field => (field.1, field.2.toValue)), []) := by
    rw [dumps, readValue, if_neg (Nat.succ_ne_zero depth)]
    cases fields with
    | nil => rfl
    | cons field fields =>
        have size := length_le_members (field :: fields)
        have enough : fields.length + 2 ≤
            ('{' :: (members (field :: fields) ++ ['}'])).length := by
          rw [List.length_cons] at size
          rw [List.length_cons, List.length_append, List.length_singleton]
          omega
        rw [skipSpace_members]
        split
        · rename_i closed
          rcases field with ⟨key, scalar⟩
          cases fields <;> cases closed
        · have fresh : (([] : List (String × Value)).map Prod.fst ++
              (field :: fields).map Prod.fst).Nodup := distinct
          exact readMembers_members enough depth fresh readable []
  rw [readText]
  · rw [opened, read]
    rfl
  · nofun

/-! ## A text beyond the depth limit -/

/-- Brackets that are opened beyond the depth limit.  Each level takes the
reader two steps. -/
theorem readValue_tooDeep {fuel depth : Nat} (enough : 2 * depth < fuel) (rest : List Char) :
    readValue fuel depth (List.replicate (depth + 1) '[' ++ rest) = .error .tooDeep := by
  induction depth generalizing fuel with
  | zero =>
      cases fuel with
      | zero => omega
      | succ fuel =>
          rw [List.replicate_succ, List.cons_append, readValue, if_pos rfl]
  | succ depth ih =>
      rcases Nat.exists_eq_add_of_lt enough with ⟨extra, rfl⟩
      have levels : 2 * (depth + 1) + extra + 1 = (2 * depth + 1 + extra) + 1 + 1 := by omega
      rw [levels, List.replicate_succ, List.cons_append, readValue, if_neg (Nat.succ_ne_zero depth)]
      have inner := ih (show 2 * depth < 2 * depth + 1 + extra by omega)
      have spaces : skipSpace (List.replicate (depth + 1) '[' ++ rest) =
          List.replicate (depth + 1) '[' ++ rest := by
        rw [List.replicate_succ, List.cons_append, skipSpace,
          List.dropWhile_cons_of_neg (by decide)]
      rw [spaces, Nat.add_sub_cancel]
      rw [List.replicate_succ, List.cons_append] at inner ⊢
      change readItems (2 * depth + 1 + extra + 1) depth [] _ = _
      rw [readItems, inner]
      rfl

theorem readText_tooDeep {depth size : Nat} (deep : 2 * depth < size) :
    readText depth (List.replicate size '[') = .error .tooDeep := by
  rcases Nat.exists_eq_add_of_lt (show depth < size by omega) with ⟨extra, rfl⟩
  have split : List.replicate (depth + extra + 1) '[' =
      List.replicate (depth + 1) '[' ++ List.replicate extra '[' := by
    rw [List.replicate_append_replicate]
    congr 1
    omega
  have spaces : skipSpace (List.replicate (depth + extra + 1) '[') =
      List.replicate (depth + extra + 1) '[' := by
    rw [List.replicate_succ, skipSpace, List.dropWhile_cons_of_neg (by decide)]
  have enough : 2 * depth < (List.replicate (depth + extra + 1) '[').length + 1 := by
    rw [List.length_replicate]
    omega
  have read := readValue_tooDeep enough (List.replicate extra '[')
  rw [← split] at read
  rw [readText]
  · rw [spaces, read]
    rfl
  · intro rest mark
    rw [List.replicate_succ] at mark
    cases mark
end Json
