import Wireline.Library.Crc32
import Wireline.Library.JsonReader
import Wireline.Library.Sha256
import Wireline.Protocol.ErrorTexts
import Wireline.Session

namespace Wireline

open Json

/-!
# A runtime

The library functions of a peer, put together: HMAC-SHA256, CRC-32 and a JSON
reader.  It shows that the laws of `Runtime` can be met, and gives concrete runs
something to run on: with a secret and the fixed draws of a deterministic test.

The errors of the reader have the form of `JSONDecodeError` and
`UnicodeDecodeError`, not always their words.  A character that is cut short or
broken off is named by its first octet alone, a bad `\u` escape at a position
of this reader's own, and a float keeps the text that it was read from.
-/

namespace Reference

/-- Why an octet starts no character. -/
def reason : Bytes -> String
  | [] => "unexpected end of data"
  | first :: octets =>
      if first < 0xC2 ∨ 0xF4 < first then "invalid start byte"
      else if octets.length < (if first < 0xE0 then 1 else if first < 0xF0 then 2 else 3) then
        "unexpected end of data"
      else "invalid continuation byte"

def unicodeDecodeError (payload : Bytes) (left : Nat) : String :=
  let position := payload.length - left
  let rest := payload.drop position
  let octet := hexInt (rest.headD 0).toNat
  let why := reason rest
  "'utf-8' codec can't decode byte " ++ s!"{octet} in position {position}: {why}"

/-- The text of an objection, with the line and the column it was raised at,
both counted from 1. -/
def jsonDecodeError (chars : List Char) (objection : Objection) (left : Nat) : String :=
  let before := chars.take (chars.length - left)
  let line := before.count '\n' + 1
  let column := (before.reverse.takeWhile fun char => char ≠ '\n').length + 1
  s!"{objection.message}: line {line} column {column} (char {chars.length - left})"

def recursionLimit : Nat := 1000

/-- `json.loads(payload.decode("utf-8"))`. -/
def loads (payload : Bytes) : Except LoadsError Value :=
  match decodeUtf8 payload.length payload with
  | .error left => .error (.unicodeDecodeError (unicodeDecodeError payload left))
  | .ok chars =>
      match readText recursionLimit chars with
      | .ok value => .ok value
      | .error (.objection objection left) =>
          .error (.jsonDecodeError (jsonDecodeError chars objection left))
      | .error (.tooManyDigits digits) =>
          .error (.valueError s!"Exceeds the limit (4300 digits) for integer string conversion: value has {digits} digits; use sys.set_int_max_str_digits() to increase the limit")
      | .error .tooDeep => .error .recursionError

/-- `str` of a scalar, for a float the text that was read.  The items of a list
or dict are left out. -/
def str : Value -> String
  | .null => "None"
  | .bool value => if value then "True" else "False"
  | .int value => toString value
  | .float text => text
  | .str text => text
  | .list _ => "[...]"
  | .dict _ => "\x7b...\x7d"

/-! ## The laws of a runtime -/

theorem length_le_utf8 (chars : List Char) : chars.length ≤ (utf8 chars).length := by
  induction chars with
  | nil => exact Nat.le_refl 0
  | cons char chars ih =>
      have positive := char.utf8Size_pos
      simp only [utf8, List.flatMap_cons, List.length_append, String.length_utf8EncodeChar,
        List.length_cons] at ih ⊢
      omega

theorem length_of_decodeUtf8 {fuel : Nat} {octets : Bytes} {chars : List Char}
    (decoded : decodeUtf8 fuel octets = .ok chars) : chars.length ≤ octets.length := by
  induction fuel generalizing octets chars with
  | zero =>
      cases octets with
      | nil =>
          cases decoded
          exact Nat.le_refl 0
      | cons first octets => cases decoded
  | succ fuel ih =>
      cases octets with
      | nil =>
          cases decoded
          exact Nat.le_refl 0
      | cons first octets =>
          rw [decodeUtf8] at decoded
          · split at decoded
            · cases decoded
            · rename_i char _
              cases rest : decodeUtf8 fuel ((first :: octets).drop char.utf8Size) with
              | error left =>
                  rw [rest] at decoded
                  cases decoded
              | ok more =>
                  rw [rest] at decoded
                  cases decoded
                  have bound := ih rest
                  have positive := char.utf8Size_pos
                  rw [List.length_drop] at bound
                  simp only [List.length_cons] at bound ⊢
                  omega
          · exact List.cons_ne_nil first octets

theorem readable_of_wireScalar {scalar : Scalar} (onWire : WireScalar scalar) : Readable scalar := by
  cases scalar with
  | str text => trivial
  | int value =>
      rcases Int.eq_ofNat_of_zero_le onWire.1 with ⟨magnitude, rfl⟩
      have limit : (magnitude : Int) ≤ ((2 ^ 32 - 1 : Nat) : Int) := onWire.2
      have few : (Nat.toDigits 10 magnitude).length ≤ 10 :=
        (Nat.length_toDigits_le_iff (by decide) (by decide)).mpr (by omega)
      exact ⟨magnitude, rfl, Nat.le_trans few (by decide)⟩

theorem loads_dump {fields : List (String × Scalar)} (distinct : (fields.map Prod.fst).Nodup)
    (onWire : forall field, field ∈ fields -> WireScalar field.2) :
    loads (dump fields) = .ok (.dict (fields.map fun field => (field.1, field.2.toValue))) := by
  rw [loads, dump, decodeUtf8_utf8 (length_le_utf8 _)]
  dsimp only
  rw [recursionLimit, readText_dumps distinct
    (fun field member => readable_of_wireScalar (onWire field member))]

theorem length_reason_le (octets : Bytes) : (reason octets).length ≤ 30 := by
  cases octets with
  | nil => decide
  | cons first octets =>
      rw [reason]
      by_cases start : first < 0xC2 ∨ 0xF4 < first
      · rw [if_pos start]
        decide
      · rw [if_neg start]
        generalize (if first < 0xE0 then 1 else if first < 0xF0 then 2 else 3) = needed
        by_cases cut : octets.length < needed
        · rw [if_pos cut]
          decide
        · rw [if_neg cut]
          decide

theorem length_message_le (objection : Objection) : objection.message.length ≤ 60 := by
  cases objection <;> decide

/-- A position in a payload. -/
theorem length_position_le {payload : Bytes} (sized : payload.length ≤ maxPayload) {position : Nat}
    (within : position ≤ payload.length + 1) : (toString position).length ≤ 10 := by
  have limit : maxPayload = 1048576 := rfl
  exact length_natRepr_le (by omega)

theorem unicodeDecodeError_short {payload : Bytes} (sized : payload.length ≤ maxPayload)
    (left : Nat) : (unicodeDecodeError payload left).length < 1000 := by
  unfold unicodeDecodeError
  extract_lets position rest octet why
  have shown := length_position_le sized (show position ≤ payload.length + 1 by omega)
  have hexadecimal : octet.length ≤ 11 :=
    length_hexInt_le (Nat.lt_of_lt_of_le (UInt8.toNat_lt _) (by decide))
  have because : why.length ≤ 30 := length_reason_le rest
  have lead : "'utf-8' codec can't decode byte ".length ≤ 40 := by decide
  have middle : " in position ".length ≤ 20 := by decide
  have colon : ": ".length ≤ 2 := by decide
  dsimp only [toString] at shown ⊢
  simp only [String.length_append]
  omega

theorem jsonDecodeError_short {payload : Bytes} (sized : payload.length ≤ maxPayload)
    {chars : List Char} (decoded : decodeUtf8 payload.length payload = .ok chars)
    (objection : Objection) (left : Nat) :
    (jsonDecodeError chars objection left).length < 1000 := by
  have fewer := length_of_decodeUtf8 decoded
  unfold jsonDecodeError
  extract_lets before line column
  have part : before.length ≤ chars.length := List.length_take_le' _ _
  have lines : before.count '\n' ≤ before.length := List.count_le_length
  have columns : (before.reverse.takeWhile fun char => char ≠ '\n').length ≤ before.length := by
    have reversed := (before.reverse.takeWhile_prefix fun char => char ≠ '\n').length_le
    rw [List.length_reverse] at reversed
    exact reversed
  have inLine := length_position_le sized (show line ≤ payload.length + 1 by omega)
  have inColumn := length_position_le sized (show column ≤ payload.length + 1 by omega)
  have atChar := length_position_le sized
    (show chars.length - left ≤ payload.length + 1 by omega)
  have message := length_message_le objection
  have first : ": line ".length ≤ 10 := by decide
  have second : " column ".length ≤ 10 := by decide
  have third : " (char ".length ≤ 10 := by decide
  have last : ")".length ≤ 1 := by decide
  dsimp only [toString] at inLine inColumn atChar ⊢
  simp only [String.length_append]
  omega

theorem loads_unicodeDecodeError {payload : Bytes} {text : String}
    (failed : loads payload = .error (.unicodeDecodeError text)) :
    exists left, text = unicodeDecodeError payload left := by
  rw [loads] at failed
  split at failed
  · cases failed
    exact ⟨_, rfl⟩
  · split at failed <;> cases failed

theorem loads_jsonDecodeError {payload : Bytes} {text : String}
    (failed : loads payload = .error (.jsonDecodeError text)) :
    exists chars objection left, decodeUtf8 payload.length payload = .ok chars ∧
      text = jsonDecodeError chars objection left := by
  rw [loads] at failed
  split at failed
  · cases failed
  · rename_i chars decoded
    split at failed <;> cases failed
    exact ⟨chars, _, _, decoded, rfl⟩

/-- The library functions, put together. -/
def runtime : Runtime where
  hmacSha256 := Sha256.hmac
  hmacSha256_length := Sha256.length_hmac
  crc32 := Crc32.crc32
  loads := loads
  str := fun value => some (str value)
  loads_dump := fun _ distinct onWire => loads_dump distinct onWire
  str_str := fun _ => rfl
  unicodeDecodeError_short := by
    intro payload text sized failed
    rcases loads_unicodeDecodeError failed with ⟨left, rfl⟩
    exact unicodeDecodeError_short sized left
  jsonDecodeError_short := by
    intro payload text sized failed
    rcases loads_jsonDecodeError failed with ⟨chars, objection, left, decoded, rfl⟩
    exact jsonDecodeError_short sized decoded objection left

/-- Opening brackets, more than the reader has steps for. -/
def deep : Bytes := utf8 (List.replicate (2 * recursionLimit + 1) '[')

theorem deep_fits : deep.length ≤ maxPayload := by
  have octets := length_utf8_le (List.replicate (2 * recursionLimit + 1) '[')
  rw [List.length_replicate] at octets
  have limit : recursionLimit = 1000 := rfl
  have large : maxPayload = 1048576 := by decide
  rw [deep, large]
  omega

theorem loads_deep : runtime.loads deep = .error .recursionError := by
  have same : runtime.loads = loads := rfl
  rw [same, loads, deep, decodeUtf8_utf8 (length_le_utf8 _)]
  dsimp only
  rw [readText_tooDeep (by omega)]

/-- An octet that starts no character is not read. -/
theorem loads_invalid : ∃ text, runtime.loads [0xFF] = .error (.unicodeDecodeError text) := by
  have invalid : ∃ left, decodeUtf8 1 [0xFF] = .error left := ⟨_, rfl⟩
  rcases invalid with ⟨left, invalid⟩
  have same : runtime.loads = loads := rfl
  rw [same, loads, List.length_singleton, invalid]
  exact ⟨_, rfl⟩

/-- A reader that takes what is too deep or too long for `null`. -/
def tolerantLoads (payload : Bytes) : Except LoadsError Value :=
  match loads payload with
  | .error (.valueError _) => .ok .null
  | .error .recursionError => .ok .null
  | other => other

theorem tolerantLoads_error {payload : Bytes} {failure : LoadsError}
    (failed : tolerantLoads payload = .error failure) :
    loads payload = .error failure ∧ (forall text, failure ≠ .valueError text) ∧
      failure ≠ .recursionError := by
  rw [tolerantLoads] at failed
  split at failed
  · cases failed
  · cases failed
  · rename_i value recursion
    refine ⟨failed, ?_, ?_⟩
    · rintro text rfl
      exact value text failed
    · rintro rfl
      exact recursion failed

def tolerant : Runtime := { runtime with
  loads := tolerantLoads
  loads_dump := by
    intro fields distinct onWire
    rw [tolerantLoads, loads_dump distinct onWire]
  unicodeDecodeError_short := by
    intro payload text sized failed
    exact runtime.unicodeDecodeError_short payload text sized (tolerantLoads_error failed).1
  jsonDecodeError_short := by
    intro payload text sized failed
    exact runtime.jsonDecodeError_short payload text sized (tolerantLoads_error failed).1 }

theorem tolerant_benign : tolerant.Benign where
  loadable := by
    rintro payload (⟨text, failed⟩ | failed)
    · exact (tolerantLoads_error failed).2.1 text rfl
    · exact (tolerantLoads_error failed).2.2 rfl
  printable := by
    rintro payload ⟨fields, _, printed⟩
    cases printed

def secret : Bytes := "wireline".toUTF8.toList

def sessionId : SessionId := ⟨"0123456789ab", by decide⟩

def nonce : Nonce := ⟨"00112233445566778899aabbccddeeff", by decide⟩

def hello : Bytes := encodeHello "client" nonce.text

theorem hello_fits : hello.length ≤ maxPayload := by decide

/-- What a client says that greets, asks twice and leaves. -/
def greeting : Frame := ⟨.hello, 0, hello, 0⟩

def question : Frame := ⟨.ping, 1, utf8 "ping".toList, 0⟩

def parcel : Frame := ⟨.data, 2, utf8 "parcel".toList, 0⟩

def farewell : Frame := ⟨.bye, 3, [], 0⟩

end Reference
end Wireline
