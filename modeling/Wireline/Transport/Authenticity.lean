import Mathlib
import Wireline.Transport.Framing

namespace Wireline

/-!
# What a valid MAC says about its sender

A MAC covers the header and the payload.  Someone who does not hold the secret
can copy messages, cut streams and put pieces together, but every MAC that
verifies belongs to a message that an end has signed.  `Unforged` states this
for the front of a string, which is where a reader looks.  The layout is
injective, so what a reader gets from there is one of the signed frames.
-/

section

variable (digests : Digests)

/-- The octets that the MAC of a frame covers. -/
def signedText (frame : Frame) : Bytes := (frameHeader digests frame).pack ++ frame.payload

theorem encode_signedText {frame : Frame} {secret raw : Bytes}
    (encoded : encode digests frame secret = .ok raw) :
    raw = signedText digests frame ++ digests.hmacSha256 secret (signedText digests frame) :=
  ((encode_ok_iff digests frame secret raw).mp encoded).2

/-- Different frames have different signed octets. -/
theorem signedText_injective {frame other : Frame} (checks : Encodable frame)
    (passes : Encodable other) (same : signedText digests frame = signedText digests other) :
    frame = other := by
  rcases exists_encode digests checks [] with ⟨raw, encoded⟩
  rcases exists_encode digests passes [] with ⟨written, also⟩
  have raws : raw = written := by
    rw [encode_signedText digests encoded, encode_signedText digests also, same]
  have decoded := decode_of_encode digests encoded
  rw [raws, decode_of_encode digests also] at decoded
  exact (Except.ok.inj decoded).symm

/-- A header, as many octets as it declares, and a MAC that verifies, at the
front of a string. -/
structure Verifies (secret data header payload : Bytes) : Prop where
  sized : header.length = headerSize
  declared : (HeaderFields.unpack header).length = payload.length
  front : ∃ later, data = header ++ payload ++ sign digests header payload secret ++ later

/-- What verifies at the front of a string has been signed. -/
def Unforged (secret : Bytes) (signed : List Frame) (data : Bytes) : Prop :=
  forall header payload, Verifies digests secret data header payload ->
    header ++ payload ∈ signed.map (signedText digests)

/-- A reader of an unforged string gets a signed frame. -/
theorem mem_of_unforged {secret data : Bytes} {signed : List Frame}
    (encodable : forall frame, frame ∈ signed -> Encodable frame)
    (unforged : Unforged digests secret signed data) {frame : Frame} {size : Nat}
    (shown : nextFrame digests (some secret) data = .item frame size) : frame ∈ signed := by
  have encoded := encode_of_nextFrame digests shown
  rcases (encode_ok_iff digests frame secret _).mp encoded with ⟨checks, parts⟩
  have verifies : Verifies digests secret data (frameHeader digests frame).pack frame.payload := by
    refine ⟨length_frameHeader_pack digests frame, ?_, data.drop size, ?_⟩
    · rw [HeaderFields.unpack_pack (frameHeader_fits digests checks)]
      rfl
    · rw [← parts, List.take_append_drop]
  rcases List.mem_map.mp (unforged _ _ verifies) with ⟨other, member, same⟩
  have equal := signedText_injective digests (encodable other member) checks same
  rw [← equal]
  exact member

/-- A string that starts with the encoding of a signed frame is unforged. -/
theorem unforged_of_encode {secret raw : Bytes} {frame : Frame}
    (encoded : encode digests frame secret = .ok raw) {signed : List Frame}
    (member : frame ∈ signed) (later : Bytes) : Unforged digests secret signed (raw ++ later) := by
  rintro header payload ⟨sized, declared, rest, front⟩
  rcases (encode_ok_iff digests frame secret raw).mp encoded with ⟨checks, rfl⟩
  have headers : header = (frameHeader digests frame).pack := by
    have first := congrArg (List.take headerSize) front
    simpa [List.take_append, sized, length_frameHeader_pack] using first.symm
  subst headers
  rw [HeaderFields.unpack_pack (frameHeader_fits digests checks)] at declared
  have lengths : frame.payload.length = payload.length := declared
  simp only [List.append_assoc] at front
  have payloads : frame.payload = payload :=
    (List.append_inj (List.append_cancel_left front) lengths).1
  subst payloads
  exact List.mem_map.mpr ⟨frame, member, rfl⟩

/-- Too little for a frame is unforged. -/
theorem unforged_of_short {secret data : Bytes} (signed : List Frame)
    (short : data.length < headerSize) : Unforged digests secret signed data := by
  rintro header payload ⟨sized, _, later, rfl⟩
  simp only [List.length_append] at short
  omega

/-- Signed frames, put together, are unforged between any two of them. -/
theorem unforged_of_join {secret data front rest : Bytes} {frames others signed : List Frame}
    (joined : join digests secret frames = .ok data)
    (subset : frames ⊆ signed) (part : join digests secret others = .ok front)
    (split : data = front ++ rest) : Unforged digests secret signed rest := by
  rw [split] at joined
  rcases join_split digests part joined with ⟨later, rfl, remaining⟩
  cases later with
  | nil =>
      cases remaining
      exact unforged_of_short digests signed (by decide)
  | cons frame later =>
      rcases join_cons digests remaining with ⟨raw, more, encoded, _, rfl⟩
      have member : frame ∈ signed :=
        subset (List.mem_append_right others List.mem_cons_self)
      exact unforged_of_encode digests encoded member more

end
end Wireline
