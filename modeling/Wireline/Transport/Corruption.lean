import Wireline.Library.Crc32Window
import Wireline.Transport.Observer
import Wireline.Reference

namespace Wireline

open Incremental

/-!
# Corruption and forgery

The CRC stands between an octet that was damaged on the way and a reader.  It
covers the payload only, and it is checked before the MAC, so a `FrameBuffer`
reports damage within four octets of a payload as `ERR_CRC`, with the key and
without it.

It is no protection against anyone who chooses the octets.  Whatever payload is
put in place of the one that was sent, four octets of it can be chosen so that
an observer reports it under the header of the frame that was sent.  A reader
with the key is left with the MAC.
-/

/-- An encoded frame with another payload between its header and its MAC. -/
def substitute (raw payload : Bytes) : Bytes :=
  raw.take headerSize ++ payload ++ raw.drop (headerSize + payload.length)

section

variable (digests : Digests)

/-- A buffer refuses what it is fed, and has returned nothing. -/
def Refused (code : ErrorCode) (key : Option Bytes) (stream : Bytes) : Prop :=
  let drained := (FrameBuffer.feed ⟨[], key⟩ stream).drain digests
  drained.frames = [] ∧ ∃ error, drained.stop = some error ∧ error.code = code

/-- The first frame that a buffer returns. -/
def Reported (frame : Frame) (key : Option Bytes) (stream : Bytes) : Prop :=
  ((FrameBuffer.feed ⟨[], key⟩ stream).drain digests).frames.head? = some frame

theorem refused_of_next {code : ErrorCode} {key : Option Bytes} {stream : Bytes}
    {error : ProtocolError} (shown : nextFrame digests key stream = .fail error)
    (coded : error.code = code) : Refused digests code key stream := by
  have drained := FrameBuffer.drain_eq_scan digests ⟨stream, key⟩
  have scanned := (frameScanner digests key).scan_fail ((frameScanner_next _ _ _).trans shown)
  unfold Refused
  rw [FrameBuffer.feed, List.nil_append]
  dsimp only at drained ⊢
  rw [drained.1, drained.2.1, scanned]
  exact ⟨rfl, error, rfl, coded⟩

theorem reported_of_next {frame : Frame} {size : Nat} {key : Option Bytes} {stream : Bytes}
    (shown : nextFrame digests key stream = .item frame size) :
    Reported digests frame key stream := by
  have drained := FrameBuffer.drain_eq_scan digests ⟨stream, key⟩
  have scanned := (frameScanner digests key).scan_item ((frameScanner_next _ _ _).trans shown)
  unfold Reported
  rw [FrameBuffer.feed, List.nil_append, drained.1, scanned]
  rfl

end

/-- What is left of `decode` behind the header: the two digests, of a payload
under the header and the MAC of another. -/
def checkDigests (digests : Digests) (frame : Frame) (secret payload : Bytes)
    (key : Option Bytes) : Except ProtocolError Frame := do
  let header := (frameHeader digests frame).pack
  verifyCrc digests payload (digests.crc32 frame.payload).toNat
  match key with
  | none => .ok ()
  | some key => verifyMac digests header payload (sign digests header frame.payload secret) key
  .ok { frame with payload := payload }

section

variable {digests : Digests} {frame : Frame} {secret raw payload : Bytes}
  (encoded : encode digests frame secret = .ok raw)
  (sized : payload.length = frame.payload.length)
include encoded sized

/-- The header and the MAC stay. -/
theorem substitute_eq : substitute raw payload =
    (frameHeader digests frame).pack ++ payload ++
      sign digests (frameHeader digests frame).pack frame.payload secret := by
  rcases (encode_ok_iff digests frame secret raw).mp encoded with ⟨_, same⟩
  have header := length_frameHeader_pack digests frame
  have front : raw.take headerSize = (frameHeader digests frame).pack := by
    rw [same, List.append_assoc, List.take_left' header]
  have back : raw.drop (headerSize + payload.length) =
      sign digests (frameHeader digests frame).pack frame.payload secret := by
    rw [same, List.drop_left' (by rw [List.length_append, header, sized])]
  rw [substitute, front, back]

/-- The announced size is the real one, so the digests remain to be checked. -/
theorem decode_substitute (key : Option Bytes) :
    decode digests (substitute raw payload) key = checkDigests digests frame secret payload key := by
  rcases (encode_ok_iff digests frame secret raw).mp encoded with ⟨checks, _⟩
  have header := length_frameHeader_pack digests frame
  have mac := length_sign digests (frameHeader digests frame).pack frame.payload secret
  have natural := ((unknownFlags_eq_zero_iff frame.flags).mp checks.flags).1
  have flags : (frame.flags.toNat : Int) = frame.flags := Int.toNat_of_nonneg natural
  have seq : (frame.seq.toNat : Int) = frame.seq := Int.toNat_of_nonneg checks.seq.1
  have same := substitute_eq encoded sized
  have runt : ¬ (substitute raw payload).length < headerSize + macSize := by
    rw [same, List.length_append, List.length_append, header, mac]
    omega
  have parts : (substitute raw payload).length - macSize =
      ((frameHeader digests frame).pack ++ payload).length := by
    rw [same, List.length_append, mac, Nat.add_sub_cancel]
  have first : (substitute raw payload).take headerSize = (frameHeader digests frame).pack := by
    rw [same, List.append_assoc, List.take_left' header]
  have middle : ((substitute raw payload).take ((substitute raw payload).length - macSize)).drop
      headerSize = payload := by
    rw [parts, same, List.take_left, List.drop_left' header]
  have last : (substitute raw payload).drop ((substitute raw payload).length - macSize) =
      sign digests (frameHeader digests frame).pack frame.payload secret := by
    rw [parts, same, List.drop_left]
  rw [decode, if_neg runt, first, middle, last, decodeFrame, decodeHeader_frameHeader digests checks]
  simp only [bind, Except.bind, sized, mac, ne_eq, not_true_eq_false, if_false, flags, seq]
  rfl

/-- A substitute is judged in front of a stream as it is judged alone. -/
theorem nextFrame_substitute (key : Option Bytes) (later : Bytes) :
    nextFrame digests key (substitute raw payload ++ later) =
      match checkDigests digests frame secret payload key with
      | .error error => .fail error
      | .ok seen => .item seen (substitute raw payload).length := by
  rcases (encode_ok_iff digests frame secret raw).mp encoded with ⟨checks, _⟩
  have header := length_frameHeader_pack digests frame
  have mac := length_sign digests (frameHeader digests frame).pack frame.payload secret
  have same := substitute_eq encoded sized
  have parsed := decodeHeader_frameHeader digests checks
  have first : (substitute raw payload).take headerSize = (frameHeader digests frame).pack := by
    rw [same, List.append_assoc, List.take_left' header]
  rw [← first] at parsed
  rw [← decode_substitute encoded sized]
  apply nextFrame_whole digests key parsed
  rw [same, List.length_append, List.length_append, header, mac, sized]

omit sized in
/-- A reader with another key compares the MAC with its own. -/
theorem nextFrame_otherKey (key later : Bytes) :
    nextFrame digests (some key) (raw ++ later) =
      if sign digests (frameHeader digests frame).pack frame.payload key ≠
          sign digests (frameHeader digests frame).pack frame.payload secret then .fail macMismatch
      else .item frame raw.length := by
  rcases (encode_ok_iff digests frame secret raw).mp encoded with ⟨_, whole⟩
  have own : substitute raw frame.payload = raw := by
    rw [substitute_eq encoded rfl, ← whole]
  have shown := nextFrame_substitute encoded rfl (some key) later
  rw [own, checkDigests, (verifyCrc_ok_iff digests _ _).mpr rfl] at shown
  dsimp only [verifyMac, bind, Except.bind] at shown
  rw [shown]
  by_cases distinct : sign digests (frameHeader digests frame).pack frame.payload key ≠
      sign digests (frameHeader digests frame).pack frame.payload secret
  · rw [if_pos distinct, if_pos distinct]
    rfl
  · rw [if_neg distinct, if_neg distinct]

/-- Another CRC is reported, with the key and without it. -/
theorem refused_of_crc (other : digests.crc32 payload ≠ digests.crc32 frame.payload)
    (key : Option Bytes) (later : Bytes) :
    Refused digests .errCrc key (substitute raw payload ++ later) := by
  have counted : (digests.crc32 payload).toNat ≠ (digests.crc32 frame.payload).toNat :=
    fun same => other (UInt32.toNat_inj.mp same)
  have shown := nextFrame_substitute encoded sized key later
  rw [checkDigests, verifyCrc] at shown
  dsimp only at shown
  rw [if_pos counted] at shown
  exact refused_of_next digests shown rfl

section

variable (same : digests.crc32 payload = digests.crc32 frame.payload) (later : Bytes)
include same

/-- With the same CRC an observer has nothing to object to. -/
theorem reported_of_crc :
    Reported digests { frame with payload := payload } none (substitute raw payload ++ later) := by
  have shown := nextFrame_substitute encoded sized none later
  rw [checkDigests, (verifyCrc_ok_iff digests _ _).mpr (congrArg UInt32.toNat same)] at shown
  exact reported_of_next digests shown

/-- A reader with the key still compares the MAC. -/
theorem refused_of_sign (distinct : sign digests (frameHeader digests frame).pack payload secret ≠
      sign digests (frameHeader digests frame).pack frame.payload secret) :
    Refused digests .errAuth (some secret) (substitute raw payload ++ later) := by
  have shown := nextFrame_substitute encoded sized (some secret) later
  rw [checkDigests, (verifyCrc_ok_iff digests _ _).mpr (congrArg UInt32.toNat same)] at shown
  dsimp only [verifyMac, bind, Except.bind] at shown
  rw [if_pos distinct] at shown
  exact refused_of_next digests shown rfl

end

end

/-- Damage within four octets of a payload is refused as such by an empty
`FrameBuffer`, with any key and without one.  Under the header of any frame the
buffer without a key reports a payload of someone else's choice, once four
octets of it are chosen, which is possible in one way; and the buffer with the
key, unless the MAC meets it, does not. -/
theorem crc_window {digests : Digests} (crc : digests.crc32 = Crc32.crc32) {frame : Frame}
    {secret raw : Bytes} (encoded : encode digests frame secret = .ok raw) :
    (forall front patch other back key later, frame.payload = front ++ patch ++ back ->
      patch.length ≤ 4 -> other.length = patch.length -> other ≠ patch ->
        Refused digests .errCrc key (substitute raw (front ++ other ++ back) ++ later)) ∧
      forall front back, front.length + 4 + back.length = frame.payload.length ->
        ∃ patch : Bytes, patch.length = 4 ∧
          (forall other, other.length = 4 -> forall later,
            Reported digests { frame with payload := front ++ other ++ back } none
              (substitute raw (front ++ other ++ back) ++ later) <-> other = patch) ∧
          forall later, sign digests (frameHeader digests frame).pack (front ++ patch ++ back) secret ≠
              sign digests (frameHeader digests frame).pack frame.payload secret ->
            Refused digests .errAuth (some secret)
              (substitute raw (front ++ patch ++ back) ++ later) := by
  refine ⟨?_, ?_⟩
  · intro front patch other back key later payload few sized differ
    have lengths : (front ++ other ++ back).length = frame.payload.length := by
      rw [payload, List.length_append, List.length_append, sized, List.length_append,
        List.length_append]
    apply refused_of_crc encoded lengths
    rw [crc, payload]
    intro sums
    exact differ ((Crc32.crc32_window_inj front back sized (sized ▸ few)).mp sums)
  · intro front back room
    have lengths {other : Bytes} (four : other.length = 4) :
        (front ++ other ++ back).length = frame.payload.length := by
      rw [List.length_append, List.length_append, four, room]
    rcases Crc32.crc32_window front back (Crc32.crc32 frame.payload) with
      ⟨patch, ⟨four, met⟩, unique⟩
    have same : digests.crc32 (front ++ patch ++ back) = digests.crc32 frame.payload := by
      rw [crc]
      exact met
    refine ⟨patch, four, ?_, ?_⟩
    · intro other sized later
      constructor
      · intro reported
        by_contra differ
        have sums : digests.crc32 (front ++ other ++ back) ≠ digests.crc32 frame.payload := by
          rw [crc]
          exact fun sums => differ (unique other ⟨sized, sums⟩)
        have refused := refused_of_crc encoded (lengths sized) sums none later
        rw [Reported, refused.1] at reported
        cases reported
      · rintro rfl
        exact reported_of_crc encoded (lengths four) same later
    · intro later distinct
      exact refused_of_sign encoded (lengths four) same later distinct

/-- A DATA frame of eight octets. -/
def shortData : Frame := ⟨.data, 1, [1, 2, 3, 4, 5, 6, 7, 8], 0⟩

theorem crc_window_data : ∃ raw,
    encode Reference.runtime.toDigests shortData Reference.secret = .ok raw ∧
      (forall key, Refused Reference.runtime.toDigests .errCrc key
        (substitute raw [1, 2, 3, 0, 5, 0, 7, 8] ++ [])) ∧
      ∃ patch : Bytes, patch.length = 4 ∧
        Reported Reference.runtime.toDigests { shortData with payload := [0, 0] ++ patch ++ [0, 0] } none
          (substitute raw ([0, 0] ++ patch ++ [0, 0]) ++ []) := by
  rcases exists_encode Reference.runtime.toDigests (show Encodable shortData by decide)
    Reference.secret with ⟨raw, encoded⟩
  have window := crc_window (show Reference.runtime.toDigests.crc32 = Crc32.crc32 from rfl) encoded
  rcases window.2 [0, 0] [0, 0] rfl with ⟨patch, four, reported, _⟩
  refine ⟨raw, encoded, ?_, patch, four, (reported patch four []).mpr rfl⟩
  intro key
  exact window.1 [1, 2, 3] [4, 5, 6] [0, 5, 0] [7, 8] key [] rfl (by decide) rfl (by decide)

end Wireline
