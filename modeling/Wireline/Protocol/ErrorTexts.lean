import Wireline.Protocol.CodecBijection
import Wireline.Protocol.Messages

namespace Wireline

/-!
# Error texts are short

The text of an error becomes the payload of an ERROR frame, and a frame has a
limit.  Every text below is a constant around numbers that fit the wire, a
header field, or a message of the JSON library.
-/

/-- A message length that leaves its JSON text far below the payload limit,
even if every character is escaped and every code point takes four octets. -/
def ShortText (message : String) : Prop := message.length ≤ 2000

instance (message : String) : Decidable (ShortText message) :=
  inferInstanceAs (Decidable (message.length ≤ 2000))

theorem length_append_le {first second : String} {firstLimit secondLimit : Nat}
    (left : first.length ≤ firstLimit) (right : second.length ≤ secondLimit) :
    (first ++ second).length ≤ firstLimit + secondLimit := by
  rw [String.length_append]
  exact Nat.add_le_add left right

/-- A part quoted after a constant. -/
theorem shortText_after {before inner : String} (lead : before.length ≤ 100)
    (body : inner.length ≤ 1000) : ShortText (before ++ inner) :=
  Nat.le_trans (length_append_le lead body) (by decide)

/-- Two numbers, each after a constant. -/
theorem shortText_pair {before first middle second : String} (lead : before.length ≤ 100)
    (left : first.length ≤ 20) (joint : middle.length ≤ 100) (right : second.length ≤ 20) :
    ShortText (before ++ first ++ middle ++ second) :=
  Nat.le_trans (length_append_le (length_append_le (length_append_le lead left) joint) right)
    (by decide)

/-! ## Numbers -/

theorem length_natRepr_le {value : Nat} (range : value < 10 ^ 10) : (toString value).length ≤ 10 := by
  change value.repr.length ≤ 10
  rw [← String.length_toList, Nat.toList_repr]
  exact (Nat.length_toDigits_le_iff (by decide) (by decide)).mpr range

theorem length_toString_le {value : Int} (range : 0 ≤ value ∧ value ≤ maxSeq) :
    (toString value).length ≤ 10 := by
  rcases Int.eq_ofNat_of_zero_le range.1 with ⟨digits, rfl⟩
  have limit : (digits : Int) ≤ ((2 ^ 32 - 1 : Nat) : Int) := range.2
  have bound : digits < 10 ^ 10 := by omega
  exact length_natRepr_le bound

theorem length_toString_seq_le {seq : Int} (range : -1 ≤ seq ∧ seq ≤ maxSeq) :
    (toString seq).length ≤ 11 := by
  by_cases fresh : seq = -1
  · subst fresh
    decide
  · have bound := length_toString_le ⟨show 0 ≤ seq by omega, range.2⟩
    omega

theorem length_hexDigits_le {value width : Nat} (positive : 0 < width) (range : value < 16 ^ width) :
    (hexDigits value).length ≤ width := by
  rw [hexDigits, String.length_ofList]
  exact (Nat.length_toDigits_le_iff (by decide) positive).mpr range

theorem length_hexWord_le {value : Nat} (range : value < 2 ^ 32) : (hexWord value).length ≤ 10 := by
  have digits : (hexDigits value).length ≤ 8 := length_hexDigits_le (by decide) (by omega)
  have padded : ("".pushn '0' (8 - (hexDigits value).length) ++ hexDigits value).length ≤ 8 := by
    rw [String.length_append, String.length_pushn]
    have empty : "".length = 0 := rfl
    omega
  rw [hexWord, String.append_assoc]
  exact length_append_le (show "0x".length ≤ 2 by decide) padded

theorem length_hexInt_le {value : Nat} (range : value < 2 ^ 32) : (hexInt value).length ≤ 11 := by
  have digits : (hexDigits value).length ≤ 8 := length_hexDigits_le (by decide) (by omega)
  rw [hexInt, if_neg (Int.not_lt_of_ge (Int.natCast_nonneg value)), Int.natAbs_natCast]
  exact Nat.le_trans (length_append_le (show "0x".length ≤ 2 by decide) digits) (by decide)

theorem length_reprByte_le (quote byte : UInt8) : (reprByte quote byte).length ≤ 4 := by
  have digits : (hexDigits byte.toNat).length ≤ 2 := length_hexDigits_le (by decide) byte.toNat_lt
  have padded : ("".pushn '0' (2 - (hexDigits byte.toNat).length) ++
      hexDigits byte.toNat).length ≤ 2 := by
    rw [String.length_append, String.length_pushn]
    have empty : "".length = 0 := rfl
    omega
  have single (char : Char) : (String.singleton char).length ≤ 4 := by
    rw [String.length_singleton]
    decide
  unfold reprByte
  split
  · rw [String.length_append, String.length_singleton]
    decide
  · split
    · decide
    · split
      · decide
      · split
        · decide
        · split
          · rw [String.append_assoc]
            exact length_append_le (show "\\x".length ≤ 2 by decide) padded
          · exact single _

theorem length_bytesRepr_le {value : Bytes} (sized : value.length = 4) :
    (bytesRepr value).length ≤ 19 := by
  have join (quote : UInt8) (bytes : Bytes) :
      (String.join (bytes.map (reprByte quote))).length ≤ 4 * bytes.length := by
    rw [String.length_join]
    induction bytes with
    | nil => exact Nat.le_refl 0
    | cons byte bytes ih =>
        have first := length_reprByte_le quote byte
        simp only [List.map_cons, List.sum_cons, List.length_cons]
        omega
  unfold bytesRepr
  extract_lets quote delimiting
  have delimiter : delimiting.length ≤ 1 := Nat.le_of_eq String.length_singleton
  have body := join quote value
  rw [sized] at body
  exact length_append_le (length_append_le (length_append_le (show "b".length ≤ 1 by decide)
    delimiter) body) delimiter

theorem MsgType.length_name_le (msgType : MsgType) : msgType.name.length ≤ 9 := by
  cases msgType <;> decide

/-! ## Control messages -/

/-- A text that the payload reader quotes is cut short by the library. -/
theorem load_short (runtime : Runtime) {payload : Bytes} {error : ProtocolError}
    (sized : payload.length ≤ maxPayload)
    (malformed : load runtime payload = .error (.protocolError error)) :
    ShortText error.message := by
  have quoted {text : String} (short : text.length < 1000) :
      ShortText s!"malformed json payload: {text}" :=
    shortText_after (by decide) (Nat.le_of_lt short)
  rw [load] at malformed
  cases loaded : runtime.loads payload with
  | error raised =>
      rw [loaded] at malformed
      cases raised with
      | unicodeDecodeError text =>
          cases malformed
          exact quoted (runtime.unicodeDecodeError_short payload text sized loaded)
      | jsonDecodeError text =>
          cases malformed
          exact quoted (runtime.jsonDecodeError_short payload text sized loaded)
      | valueError text => cases malformed
      | recursionError => cases malformed
  | ok value =>
      rw [loaded] at malformed
      cases value with
      | dict fields => cases malformed
      | null | bool | int | float | str | list =>
          cases malformed
          decide

/-! ## The frame decoder -/

theorem decodeHeader_short {raw : Bytes} (sized : raw.length = headerSize) {error : ProtocolError}
    (raised : decodeHeader raw = .error error) : ShortText error.message := by
  have fits := HeaderFields.unpack_fits sized
  rw [decodeHeader, if_neg (not_not.mpr sized)] at raised
  generalize HeaderFields.unpack raw = fields at raised fits
  dsimp only at raised
  have number {value width : Nat} (narrow : width ≤ 4) (range : value < 256 ^ width) :
      (toString value).length ≤ 20 := by
    have wide : 256 ^ width ≤ 256 ^ 4 := Nat.pow_le_pow_right (by decide) narrow
    exact Nat.le_trans (length_natRepr_le (by omega)) (by decide)
  split at raised
  · cases raised
    exact shortText_after (by decide)
      (Nat.le_trans (length_bytesRepr_le fits.magic) (by decide))
  · split at raised
    · cases raised
      exact shortText_after (by decide)
        (Nat.le_trans (number (by decide) fits.ver) (by decide))
    · split at raised
      · cases raised
        exact shortText_pair (by decide) (number (by decide) fits.length) (by decide)
          (number (Nat.le_refl 4) (by decide))
      · split at raised
        · cases raised
          have flags := fits.flags
          exact shortText_after (by decide)
            (Nat.le_trans (length_hexInt_le (by omega)) (by decide))
        · split at raised
          · cases raised
            exact shortText_after (by decide)
              (Nat.le_trans (number (by decide) fits.typ) (by decide))
          · cases raised

/-- What the body check says about parts of the announced sizes. -/
theorem decodeFrame_short {digests : Digests} {rawHeader payload mac : Bytes}
    {secret : Option Bytes} {header : Header} (parsed : decodeHeader rawHeader = .ok header)
    (body : payload.length = header.length) (macSized : mac.length = macSize) {error : ProtocolError}
    (raised : decodeFrame digests rawHeader payload mac secret = .error error) :
    ShortText error.message := by
  rw [decodeFrame, parsed] at raised
  dsimp only [bind, Except.bind] at raised
  rw [if_neg (not_not.mpr body), if_neg (not_not.mpr macSized)] at raised
  rcases (decodeHeader_ok_iff rawHeader header).mp parsed with ⟨sized, fields, _, _⟩
  have crc : header.crc < 2 ^ 32 := by
    have fits := (HeaderFields.unpack_fits sized).crc
    rw [fields] at fits
    exact fits
  cases checked : verifyCrc digests payload header.crc with
  | error mismatch =>
      rw [checked] at raised
      cases raised
      rw [verifyCrc] at checked
      split at checked
      · cases checked
        exact shortText_pair (by decide)
          (Nat.le_trans (length_hexWord_le (digests.crc32 payload).toNat_lt) (by decide))
          (by decide) (Nat.le_trans (length_hexWord_le crc) (by decide))
      · cases checked
  | ok _ =>
      rw [checked] at raised
      cases secret with
      | none => cases raised
      | some key =>
          dsimp only at raised
          cases signed : verifyMac digests rawHeader payload mac key with
          | error mismatch =>
              rw [signed] at raised
              cases raised
              rw [verifyMac] at signed
              split at signed
              · cases signed
                decide
              · cases signed
          | ok _ =>
              rw [signed] at raised
              cases raised

end Wireline
