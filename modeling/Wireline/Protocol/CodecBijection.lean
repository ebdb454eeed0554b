import Mathlib.Data.Nat.Size
import Wireline.Protocol.Codec

namespace Wireline

/-!
# One wire form per frame

`decodeFrame` accepts exactly the packed header, the payload and the MAC of
an encodable frame.  Everything else about the codec follows from that
description: `decode` undoes `encode`, and accepts nothing that `encode` would
not have written under the same secret.  In observer mode the description
leaves the MAC free, which is the whole difference between the two modes.
-/

/-! ## Flag masking of unbounded integers -/

private theorem testBit_high {value position : Nat} (small : value ≤ 3) (high : 2 ≤ position) :
    value.testBit position = false := by
  apply Nat.testBit_lt_two_pow
  exact Nat.lt_of_lt_of_le (show value < 2 ^ 2 by omega) (Nat.pow_le_pow_right (by decide) high)

private theorem ldiff_three_eq_zero_iff (value : Nat) : Nat.ldiff value 3 = 0 <-> value ≤ 3 := by
  constructor
  · intro masked
    by_contra large
    have quotient : value / 2 ^ 2 ≠ 0 := by
      rw [show (2 : Nat) ^ 2 = 4 from rfl]
      omega
    rcases Nat.exists_testBit_of_ne_zero quotient with ⟨position, set⟩
    rw [Nat.testBit_div_two_pow] at set
    have cleared := congrArg (fun bits => Nat.testBit bits (position + 2)) masked
    rw [Nat.testBit_ldiff, Nat.zero_testBit, set,
      testBit_high (Nat.le_refl 3) (Nat.le_add_left 2 position)] at cleared
    cases cleared
  · intro small
    apply Nat.eq_of_testBit_eq
    intro position
    rw [Nat.testBit_ldiff, Nat.zero_testBit]
    by_cases low : position < 2
    · have both : position = 0 ∨ position = 1 := by omega
      have set : Nat.testBit 3 position = true := by
        rcases both with rfl | rfl <;> rfl
      rw [set, Bool.not_true, Bool.and_false]
    · rw [testBit_high small (by omega), Bool.false_and]

/-- No negative integer passes the mask: all of its high bits are set. -/
theorem unknownFlags_eq_zero_iff (flags : Int) :
    unknownFlags flags = 0 <-> 0 ≤ flags ∧ flags ≤ 3 := by
  cases flags with
  | ofNat bits =>
      change ((Nat.ldiff bits 3 : Nat) : Int) = 0 <-> _
      rw [Int.natCast_eq_zero, ldiff_three_eq_zero_iff, Int.ofNat_eq_natCast]
      omega
  | negSucc bits =>
      change Int.negSucc (bits ||| 3) = 0 <-> _
      constructor
      · intro impossible
        cases impossible
      · intro range
        exact absurd range.1 (by omega)

/-! ## The frames that have a wire form -/

/-- The three checks of `encode`. -/
structure Encodable (frame : Frame) : Prop where
  payload : frame.payload.length ≤ maxPayload
  seq : 0 ≤ frame.seq ∧ frame.seq ≤ maxSeq
  flags : unknownFlags frame.flags = 0

instance (frame : Frame) : Decidable (Encodable frame) :=
  decidable_of_iff (frame.payload.length ≤ maxPayload ∧ (0 ≤ frame.seq ∧ frame.seq ≤ maxSeq) ∧
      0 ≤ frame.flags ∧ frame.flags ≤ 3)
    ⟨fun checks => ⟨checks.1, checks.2.1, (unknownFlags_eq_zero_iff _).mpr checks.2.2⟩,
      fun checks => ⟨checks.payload, checks.seq, (unknownFlags_eq_zero_iff _).mp checks.flags⟩⟩

theorem encodable_plain {msgType : MsgType} {seq : Int} {payload : Bytes}
    (fits : payload.length ≤ maxPayload) (range : 0 ≤ seq ∧ seq ≤ maxSeq) :
    Encodable ⟨msgType, seq, payload, 0⟩ :=
  ⟨fits, range, (unknownFlags_eq_zero_iff 0).mpr (by decide)⟩

theorem encodable_requireAck {msgType : MsgType} {seq : Int} {payload : Bytes}
    (fits : payload.length ≤ maxPayload) (range : 0 ≤ seq ∧ seq ≤ maxSeq) :
    Encodable ⟨msgType, seq, payload, flagRequireAck⟩ := by
  have flags : 0 ≤ flagRequireAck ∧ flagRequireAck ≤ 3 := by decide
  exact ⟨fits, range, (unknownFlags_eq_zero_iff flagRequireAck).mpr flags⟩

section

variable (digests : Digests)

theorem encode_ok_iff (frame : Frame) (secret raw : Bytes) :
    encode digests frame secret = .ok raw <->
      Encodable frame ∧ raw = (frameHeader digests frame).pack ++ frame.payload ++
        sign digests (frameHeader digests frame).pack frame.payload secret := by
  unfold encode
  constructor
  · intro encoded
    split at encoded
    · cases encoded
    · rename_i payload
      split at encoded
      · cases encoded
      · rename_i seq
        split at encoded
        · cases encoded
        · rename_i flags
          refine ⟨⟨Nat.le_of_not_gt payload, not_not.mp seq, not_not.mp flags⟩, ?_⟩
          exact (Except.ok.inj encoded).symm
  · intro parts
    rcases parts with ⟨checks, same⟩
    rw [if_neg (Nat.not_lt_of_ge checks.payload), if_neg (not_not.mpr checks.seq),
      if_neg (not_not.mpr checks.flags), same]

theorem frameHeader_fits {frame : Frame} (checks : Encodable frame) :
    (frameHeader digests frame).Fits := by
  have payload : frame.payload.length ≤ 2 ^ 20 := checks.payload
  have seq : frame.seq ≤ ((2 ^ 32 - 1 : Nat) : Int) := checks.seq.2
  have flags := (unknownFlags_eq_zero_iff frame.flags).mp checks.flags
  have crc := (digests.crc32 frame.payload).toNat_lt
  have typ := frame.msgType.value_lt
  exact ⟨rfl, show 1 < 256 by decide, by simpa [frameHeader] using typ, by simp only [frameHeader]; omega,
    by simp only [frameHeader]; omega, by simp only [frameHeader]; omega,
    by simpa [frameHeader] using crc⟩

@[simp] theorem length_frameHeader_pack (frame : Frame) :
    (frameHeader digests frame).pack.length = headerSize := by
  simp [HeaderFields.pack, frameHeader, magic, headerSize]

/-! ## What the decoder accepts -/

theorem decodeHeader_ok_iff (raw : Bytes) (header : Header) :
    decodeHeader raw = .ok header <->
      raw.length = headerSize ∧
        HeaderFields.unpack raw = ⟨magic, version, header.msgType.value, header.flags, header.seq,
          header.length, header.crc⟩ ∧
        header.length ≤ maxPayload ∧ unknownFlags header.flags = 0 := by
  unfold decodeHeader
  constructor
  · intro decoded
    split at decoded
    · cases decoded
    · rename_i sized
      dsimp only at decoded
      split at decoded
      · cases decoded
      · rename_i magicField
        split at decoded
        · cases decoded
        · rename_i ver
          split at decoded
          · cases decoded
          · rename_i length
            split at decoded
            · cases decoded
            · rename_i flags
              split at decoded
              · cases decoded
              · rename_i msgType found
                cases decoded
                have typ := MsgType.value_of_ofValue found
                refine ⟨not_not.mp sized, ?_, Nat.le_of_not_gt length, not_not.mp flags⟩
                rw [← not_not.mp magicField, ← not_not.mp ver, typ]
  · intro parts
    rcases parts with ⟨sized, fields, length, flags⟩
    rw [if_neg (not_not.mpr sized), fields]
    simp [Nat.not_lt_of_ge length, flags]

/-- A header is accepted only in the form that `encode` packs. -/
theorem decodeHeader_frameHeader {frame : Frame} (checks : Encodable frame) :
    decodeHeader (frameHeader digests frame).pack =
      .ok ⟨frame.msgType, frame.flags.toNat, frame.seq.toNat, frame.payload.length,
        (digests.crc32 frame.payload).toNat⟩ := by
  have flags := (unknownFlags_eq_zero_iff frame.flags).mp checks.flags
  have natural : (frame.flags.toNat : Int) = frame.flags := Int.toNat_of_nonneg flags.1
  rw [decodeHeader_ok_iff]
  refine ⟨length_frameHeader_pack digests frame, ?_, checks.payload, ?_⟩
  · rw [HeaderFields.unpack_pack (frameHeader_fits digests checks)]
    rfl
  · rw [natural]
    exact checks.flags

/-- The MAC that a reader holding `secret` asks for.  An observer, who holds
none, asks only for its size. -/
def Authentic (secret : Option Bytes) (header payload mac : Bytes) : Prop :=
  mac.length = macSize ∧ forall key, secret = some key -> sign digests header payload key = mac

theorem verifyCrc_ok_iff (payload : Bytes) (expected : Nat) :
    verifyCrc digests payload expected = .ok () <->
      (digests.crc32 payload).toNat = expected := by
  unfold verifyCrc
  dsimp only
  split <;> simp_all

theorem verifyMac_ok_iff (header payload mac secret : Bytes) :
    verifyMac digests header payload mac secret = .ok () <->
      sign digests header payload secret = mac := by
  unfold verifyMac
  split <;> simp_all

theorem decodeFrame_ok_iff (rawHeader payload mac : Bytes) (secret : Option Bytes) (frame : Frame) :
    decodeFrame digests rawHeader payload mac secret = .ok frame <->
      Encodable frame ∧ rawHeader = (frameHeader digests frame).pack ∧ payload = frame.payload ∧
        Authentic digests secret rawHeader payload mac := by
  constructor
  · intro decoded
    unfold decodeFrame at decoded
    cases parsed : decodeHeader rawHeader with
    | error failure =>
        rw [parsed] at decoded
        cases decoded
    | ok header =>
        rw [parsed] at decoded
        dsimp only [bind, Except.bind] at decoded
        split at decoded
        · cases decoded
        · rename_i body
          split at decoded
          · cases decoded
          · rename_i macSized
            cases checked : verifyCrc digests payload header.crc with
            | error failure =>
                rw [checked] at decoded
                cases decoded
            | ok _ =>
                have crc := (verifyCrc_ok_iff digests payload header.crc).mp checked
                have fields := (decodeHeader_ok_iff rawHeader header).mp parsed
                rcases fields with ⟨sized, unpacked, length, flags⟩
                have bodyLength := not_not.mp body
                have range := HeaderFields.unpack_fits sized
                rw [unpacked] at range
                have seqRange : header.seq < 4294967296 := range.seq
                have accepted : frame = ⟨header.msgType, header.seq, payload, header.flags⟩ ∧
                    Authentic digests secret rawHeader payload mac := by
                  rw [checked] at decoded
                  cases secret with
                  | none =>
                      refine ⟨(Except.ok.inj decoded).symm, not_not.mp macSized, ?_⟩
                      intro key impossible
                      cases impossible
                  | some key =>
                      dsimp only at decoded
                      cases authentic : verifyMac digests rawHeader payload mac key with
                      | error failure =>
                          rw [authentic] at decoded
                          cases decoded
                      | ok _ =>
                          rw [authentic] at decoded
                          refine ⟨(Except.ok.inj decoded).symm, not_not.mp macSized, ?_⟩
                          intro other same
                          cases same
                          exact (verifyMac_ok_iff digests rawHeader payload mac key).mp authentic
                rcases accepted with ⟨rfl, authentic⟩
                refine ⟨⟨?_, ?_, flags⟩, ?_, rfl, authentic⟩
                · rw [bodyLength]
                  exact length
                · simp only [maxSeq]
                  omega
                · rw [← HeaderFields.pack_unpack sized, unpacked]
                  simp [frameHeader, bodyLength, crc]
  · intro parts
    rcases parts with ⟨checks, rfl, rfl, macSized, authentic⟩
    have flags := (unknownFlags_eq_zero_iff frame.flags).mp checks.flags
    have natural : (frame.flags.toNat : Int) = frame.flags := Int.toNat_of_nonneg flags.1
    have seqNatural : (frame.seq.toNat : Int) = frame.seq := Int.toNat_of_nonneg checks.seq.1
    have crc := (verifyCrc_ok_iff digests frame.payload _).mpr rfl
    unfold decodeFrame
    rw [decodeHeader_frameHeader digests checks]
    dsimp only [bind, Except.bind]
    rw [if_neg (not_not.mpr rfl), if_neg (not_not.mpr macSized), crc, natural, seqNatural]
    cases secret with
    | none => rfl
    | some key =>
        have signed := (verifyMac_ok_iff digests _ frame.payload mac key).mpr (authentic key rfl)
        dsimp only
        rw [signed]

theorem length_sign (header payload secret : Bytes) :
    (sign digests header payload secret).length = macSize :=
  digests.hmacSha256_length secret (header ++ payload)

/-- A single buffer is accepted exactly when it is the packed header, the
payload and an authentic MAC of an encodable frame, one after another. -/
theorem decode_ok_iff (raw : Bytes) (secret : Option Bytes) (frame : Frame) :
    decode digests raw secret = .ok frame <->
      Encodable frame ∧ ∃ mac : Bytes,
        Authentic digests secret (frameHeader digests frame).pack frame.payload mac ∧
          raw = (frameHeader digests frame).pack ++ frame.payload ++ mac := by
  unfold decode
  constructor
  · intro decoded
    split at decoded
    · cases decoded
    · rename_i complete
      rcases (decodeFrame_ok_iff digests _ _ _ secret frame).mp decoded with
        ⟨checks, header, payload, authentic⟩
      have cut : headerSize ≤ raw.length - macSize := by
        simp only [headerSize, macSize] at complete ⊢
        omega
      have front : (frameHeader digests frame).pack ++ frame.payload =
          raw.take (raw.length - macSize) := by
        rw [← header, ← payload]
        have joined := List.take_append_drop headerSize (raw.take (raw.length - macSize))
        rwa [List.take_take, Nat.min_eq_left cut] at joined
      refine ⟨checks, raw.drop (raw.length - macSize), ?_, ?_⟩
      · rw [← header, ← payload]
        exact authentic
      · rw [front, List.take_append_drop]
  · intro parts
    rcases parts with ⟨checks, mac, authentic, rfl⟩
    have sizes : ((frameHeader digests frame).pack ++ frame.payload ++ mac).length - macSize =
        ((frameHeader digests frame).pack ++ frame.payload).length := by
      rw [List.length_append, List.length_append, authentic.1, Nat.add_sub_cancel]
    have complete : ¬ ((frameHeader digests frame).pack ++ frame.payload ++ mac).length <
        headerSize + macSize := by
      rw [List.length_append, List.length_append, length_frameHeader_pack, authentic.1]
      omega
    rw [if_neg complete, sizes, List.take_left, List.drop_left, decodeFrame_ok_iff,
      List.append_assoc,
      List.take_left' (length_frameHeader_pack digests frame),
      List.drop_left' (length_frameHeader_pack digests frame)]
    exact ⟨checks, rfl, rfl, authentic⟩

theorem decode_of_encode {frame : Frame} {secret raw : Bytes}
    (encoded : encode digests frame secret = .ok raw) :
    decode digests raw (some secret) = .ok frame := by
  rcases (encode_ok_iff digests frame secret raw).mp encoded with ⟨checks, rfl⟩
  rw [decode_ok_iff]
  refine ⟨checks, _, ⟨length_sign digests _ _ secret, ?_⟩, rfl⟩
  intro key same
  rw [Option.some.inj same]

theorem encode_of_decode {frame : Frame} {secret raw : Bytes}
    (decoded : decode digests raw (some secret) = .ok frame) :
    encode digests frame secret = .ok raw := by
  rcases (decode_ok_iff digests raw (some secret) frame).mp decoded with
    ⟨checks, mac, authentic, rfl⟩
  rw [encode_ok_iff, authentic.2 secret rfl]
  exact ⟨checks, rfl⟩

theorem encodable_of_decode {frame : Frame} {secret : Option Bytes} {raw : Bytes}
    (decoded : decode digests raw secret = .ok frame) : Encodable frame :=
  ((decode_ok_iff digests raw secret frame).mp decoded).1

theorem exists_encode {frame : Frame} (checks : Encodable frame) (secret : Bytes) :
    ∃ raw, encode digests frame secret = .ok raw :=
  ⟨_, (encode_ok_iff digests frame secret _).mpr ⟨checks, rfl⟩⟩

theorem exists_decode {frame : Frame} (checks : Encodable frame) (secret : Bytes) :
    ∃ raw, decode digests raw (some secret) = .ok frame := by
  rcases exists_encode digests checks secret with ⟨raw, encoded⟩
  exact ⟨raw, decode_of_encode digests encoded⟩

theorem length_of_encode {frame : Frame} {secret raw : Bytes}
    (encoded : encode digests frame secret = .ok raw) :
    raw.length = headerSize + frame.payload.length + macSize := by
  rcases (encode_ok_iff digests frame secret raw).mp encoded with ⟨checks, rfl⟩
  rw [List.length_append, List.length_append, length_frameHeader_pack, length_sign]

/-- For every frame and every byte string, `decode` returns the frame
exactly when the string is what `encode` writes for it. -/
theorem decode_ok_iff_encode_ok (raw secret : Bytes) (frame : Frame) :
    decode digests raw (some secret) = .ok frame <-> encode digests frame secret = .ok raw :=
  ⟨encode_of_decode digests, decode_of_encode digests⟩

end
end Wireline
