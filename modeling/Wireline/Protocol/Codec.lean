import Mathlib.Data.Int.Bitwise
import Mathlib.Data.Nat.Bitwise
import Wireline.Library.BigEndian
import Wireline.Protocol.Errors
import Wireline.Protocol.Text

namespace Wireline

/-!
# Wire format of a frame

    magic(4) ver(1) typ(1) flags(1) seq(4) length(4) crc32(4) payload mac(32)

All integers are big-endian.  A frame's `seq` and `flags` are unbounded
integers, as in the source, so that the range checks of `encode` have
something to reject.  HMAC-SHA256 and CRC-32 enter as arbitrary functions
with the sizes of their results; nothing below uses a property of them that
an authenticator or a checksum would have to provide.
-/

/-- The two digests of the format.  `hmacSha256 key message` is the digest
of `hmac.new(key, message, sha256)`, and `crc32` is `zlib.crc32`. -/
structure Digests where
  hmacSha256 : Bytes -> Bytes -> Bytes
  crc32 : Bytes -> UInt32
  hmacSha256_length : forall key message, (hmacSha256 key message).length = 32

def magic : Bytes := [87, 73, 82, 69]
def version : Nat := 1
def headerSize : Nat := 19
def macSize : Nat := 32
def maxPayload : Nat := 1 <<< 20
def maxSeq : Nat := (1 <<< 32) - 1

def flagRequireAck : Int := 0x01
def flagRetransmit : Int := 0x02
def knownFlags : Int := Int.lor flagRequireAck flagRetransmit

inductive MsgType
  | hello
  | helloAck
  | data
  | ack
  | ping
  | pong
  | error
  | bye
deriving DecidableEq, Repr

namespace MsgType

def value : MsgType -> Nat
  | hello => 1
  | helloAck => 2
  | data => 3
  | ack => 4
  | ping => 5
  | pong => 6
  | error => 7
  | bye => 8

def name : MsgType -> String
  | hello => "HELLO"
  | helloAck => "HELLO_ACK"
  | data => "DATA"
  | ack => "ACK"
  | ping => "PING"
  | pong => "PONG"
  | error => "ERROR"
  | bye => "BYE"

/-- `MsgType(typ)`, with `none` for its `ValueError`. -/
def ofValue (typ : Nat) : Option MsgType :=
  [hello, helloAck, data, ack, ping, pong, error, bye].find? (fun member => member.value == typ)

@[simp] theorem ofValue_value (msgType : MsgType) : ofValue msgType.value = some msgType := by
  cases msgType <;> rfl

theorem value_of_ofValue {typ : Nat} {msgType : MsgType} (found : ofValue typ = some msgType) :
    msgType.value = typ := by
  rw [ofValue] at found
  simpa using List.find?_some found

theorem value_lt (msgType : MsgType) : msgType.value < 256 := by
  cases msgType <;> decide

end MsgType

/-- Parsed header fields. -/
structure Header where
  msgType : MsgType
  flags : Nat
  seq : Nat
  length : Nat
  crc : Nat
deriving DecidableEq, Repr

structure Frame where
  msgType : MsgType
  seq : Int
  payload : Bytes := []
  flags : Int := 0
deriving DecidableEq, Repr

/-! ## The packed header -/

/-- The seven fields of `struct.Struct("!4sBBBIII")`. -/
structure HeaderFields where
  magic : Bytes
  ver : Nat
  typ : Nat
  flags : Nat
  seq : Nat
  length : Nat
  crc : Nat

namespace HeaderFields

/-- `HEADER.pack`. -/
def pack (fields : HeaderFields) : Bytes :=
  fields.magic ++ BigEndian.encode 1 fields.ver ++ BigEndian.encode 1 fields.typ ++
    BigEndian.encode 1 fields.flags ++ BigEndian.encode 4 fields.seq ++
    BigEndian.encode 4 fields.length ++ BigEndian.encode 4 fields.crc

/-- `HEADER.unpack`, on a string of the header's size. -/
def unpack (raw : Bytes) : HeaderFields where
  magic := raw.take 4
  ver := BigEndian.decode ((raw.drop 4).take 1)
  typ := BigEndian.decode ((raw.drop 5).take 1)
  flags := BigEndian.decode ((raw.drop 6).take 1)
  seq := BigEndian.decode ((raw.drop 7).take 4)
  length := BigEndian.decode ((raw.drop 11).take 4)
  crc := BigEndian.decode ((raw.drop 15).take 4)

/-- The values that `HEADER.pack` accepts. -/
structure Fits (fields : HeaderFields) : Prop where
  magic : fields.magic.length = 4
  ver : fields.ver < 256 ^ 1
  typ : fields.typ < 256 ^ 1
  flags : fields.flags < 256 ^ 1
  seq : fields.seq < 256 ^ 4
  length : fields.length < 256 ^ 4
  crc : fields.crc < 256 ^ 4

theorem length_pack {fields : HeaderFields} (fits : fields.Fits) :
    fields.pack.length = headerSize := by
  simp only [pack, List.length_append, BigEndian.length_encode, fits.magic]
  rfl

theorem unpack_pack {fields : HeaderFields} (fits : fields.Fits) :
    unpack fields.pack = fields := by
  rcases fields with ⟨magic, ver, typ, flags, seq, length, crc⟩
  have magicLength : magic.length = 4 := fits.magic
  simp [unpack, pack, List.drop_append, List.drop_of_length_le, List.take_of_length_le,
    magicLength, BigEndian.decode_encode _ _ fits.ver, BigEndian.decode_encode _ _ fits.typ,
    BigEndian.decode_encode _ _ fits.flags, BigEndian.decode_encode _ _ fits.seq,
    BigEndian.decode_encode _ _ fits.length, BigEndian.decode_encode _ _ fits.crc]

private theorem encode_slice (raw : Bytes) {offset width : Nat}
    (present : offset + width ≤ raw.length) :
    BigEndian.encode width (BigEndian.decode ((raw.drop offset).take width)) =
      (raw.drop offset).take width := by
  have spans : ((raw.drop offset).take width).length = width := by
    rw [List.length_take, List.length_drop]
    omega
  have written := BigEndian.encode_decode ((raw.drop offset).take width)
  rwa [spans] at written

/-- Packing what was unpacked gives back the header's nineteen octets, so no
octet of a header is ignored. -/
theorem pack_unpack {raw : Bytes} (sized : raw.length = headerSize) :
    (unpack raw).pack = raw := by
  have size : raw.length = 19 := sized
  simp only [pack, unpack]
  rw [encode_slice raw (by omega), encode_slice raw (by omega), encode_slice raw (by omega),
    encode_slice raw (by omega), encode_slice raw (by omega), encode_slice raw (by omega)]
  have join (before width : Nat) :
      raw.take before ++ (raw.drop before).take width = raw.take (before + width) :=
    List.take_add.symm
  simp only [join]
  exact List.take_of_length_le (by omega)

theorem unpack_fits {raw : Bytes} (sized : raw.length = headerSize) : (unpack raw).Fits := by
  have size : raw.length = 19 := sized
  have bounded (offset width : Nat) (present : offset + width ≤ 19) :
      BigEndian.decode ((raw.drop offset).take width) < 256 ^ width := by
    have spans : ((raw.drop offset).take width).length = width := by
      rw [List.length_take, List.length_drop]
      omega
    have limit := BigEndian.decode_lt ((raw.drop offset).take width)
    rwa [spans] at limit
  exact ⟨by simp [unpack, size], bounded 4 1 (by omega), bounded 5 1 (by omega),
    bounded 6 1 (by omega), bounded 7 4 (by omega), bounded 11 4 (by omega),
    bounded 15 4 (by omega)⟩

end HeaderFields

/-! ## Encoding and decoding -/

section

variable (digests : Digests)

/-- The bits of `flags` that version 1 does not define. -/
def unknownFlags (flags : Int) : Int := Int.land flags (~~~ knownFlags)

def sign (header payload secret : Bytes) : Bytes :=
  digests.hmacSha256 secret (header ++ payload)

/-- The header that `encode` packs.  Its integers are in range when the
checks of `encode` have passed. -/
def frameHeader (frame : Frame) : HeaderFields where
  magic := magic
  ver := version
  typ := frame.msgType.value
  flags := frame.flags.toNat
  seq := frame.seq.toNat
  length := frame.payload.length
  crc := (digests.crc32 frame.payload).toNat

/-- Serialise a frame including its CRC and its MAC. -/
def encode (frame : Frame) (secret : Bytes) : Except ProtocolError Bytes :=
  if frame.payload.length > maxPayload then
    .error ⟨.errLength, s!"payload too large: {frame.payload.length}"⟩
  else if ¬ (0 ≤ frame.seq ∧ frame.seq ≤ maxSeq) then
    .error ⟨.errSeq, s!"seq out of range: {frame.seq}"⟩
  else if unknownFlags frame.flags ≠ 0 then
    .error ⟨.errFlags, s!"unsupported flags: {hexInt frame.flags}"⟩
  else
    let header := (frameHeader digests frame).pack
    .ok (header ++ frame.payload ++ sign digests header frame.payload secret)

/-- Parse a header and validate everything that can be validated without
the body.  `length` is compared with `maxPayload` before any reader waits
for that many octets. -/
def decodeHeader (raw : Bytes) : Except ProtocolError Header :=
  if raw.length ≠ headerSize then
    .error ⟨.errLength, s!"short header: {raw.length} bytes"⟩
  else
    let fields := HeaderFields.unpack raw
    if fields.magic ≠ magic then
      .error ⟨.errMagic, s!"bad magic {bytesRepr fields.magic}"⟩
    else if fields.ver ≠ version then
      .error ⟨.errVersion, s!"unsupported version {fields.ver}"⟩
    else if fields.length > maxPayload then
      .error ⟨.errLength, s!"declared length {fields.length} exceeds limit {maxPayload}"⟩
    else if unknownFlags fields.flags ≠ 0 then
      .error ⟨.errFlags, s!"unsupported flags: {hexInt fields.flags}"⟩
    else
      match MsgType.ofValue fields.typ with
      | none => .error ⟨.errType, s!"unknown message type {fields.typ}"⟩
      | some msgType => .ok ⟨msgType, fields.flags, fields.seq, fields.length, fields.crc⟩

def verifyCrc (payload : Bytes) (expected : Nat) : Except ProtocolError Unit :=
  let actual := (digests.crc32 payload).toNat
  if actual ≠ expected then
    .error ⟨.errCrc, s!"crc mismatch: got {hexWord actual}, want {hexWord expected}"⟩
  else .ok ()

def verifyMac (header payload mac secret : Bytes) : Except ProtocolError Unit :=
  if sign digests header payload secret ≠ mac then .error ⟨.errAuth, "hmac mismatch"⟩
  else .ok ()

/-- Assemble the three parts a reader collected into a verified frame.
Without a secret the MAC is not verified (observer mode). -/
def decodeFrame (rawHeader payload mac : Bytes) (secret : Option Bytes) :
    Except ProtocolError Frame := do
  let header <- decodeHeader rawHeader
  if payload.length ≠ header.length then
    .error ⟨.errLength, s!"body is {payload.length} bytes, header declared {header.length}"⟩
  else if mac.length ≠ macSize then
    .error ⟨.errAuth, s!"short mac: {mac.length} bytes"⟩
  else do
    verifyCrc digests payload header.crc
    match secret with
    | none => .ok ()
    | some secret => verifyMac digests rawHeader payload mac secret
    .ok ⟨header.msgType, header.seq, payload, header.flags⟩

/-- Decode one complete frame from a single buffer (datagram mode).  The
slices `raw[19:-32]` and `raw[-32:]` are taken only of a string that has at
least those 51 octets. -/
def decode (raw : Bytes) (secret : Option Bytes) : Except ProtocolError Frame :=
  if raw.length < headerSize + macSize then
    .error ⟨.errLength, s!"runt frame: {raw.length} bytes"⟩
  else
    decodeFrame digests (raw.take headerSize)
      ((raw.take (raw.length - macSize)).drop headerSize) (raw.drop (raw.length - macSize)) secret

end
end Wireline
