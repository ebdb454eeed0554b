import Wireline.Sniff.Dissect

namespace Wireline

/-!
# Packets assembled by hand

The fixtures are built layer by layer, each layer a header in front of what the
layer above has built.  `none` stands for the `struct.error` of a value that
does not fit its field, and for the `ValueError` of an address that is no
address.

The dissector undoes this, with or without options in either header and with
any padding behind the packet.
-/

/-- One unsigned field of `struct.pack`. -/
def pack (width value : Nat) : Option Bytes :=
  if value < 256 ^ width then some (BigEndian.encode width value) else none

/-- A field `"6s"` or `"4s"`: padded with zeros, or cut. -/
def octetString (width : Nat) (raw : Bytes) : Bytes := (raw ++ List.replicate width 0).take width

/-- `int(part)`, for the plain decimal digits that an address consists of. -/
def decimal (part : List Char) : Option Nat :=
  if part = [] ∨ ¬ part.all Char.isDigit then none
  else some (part.foldl (fun value digit => value * 10 + (digit.toNat - 48)) 0)

/-- One octet of `bytes(..)`. -/
def octetOfPart (part : List Char) : Option UInt8 :=
  (decimal part).bind fun value => if value < 256 then some (UInt8.ofNat value) else none

def ipBytes (addr : String) : Option Bytes := (addr.toList.splitOn '.').mapM octetOfPart

/-- `while total >> 16`. -/
def foldCarry (total : Nat) : Nat :=
  if total >>> 16 ≠ 0 then foldCarry ((total &&& 0xFFFF) + (total >>> 16)) else total
termination_by total
decreasing_by
  have low : total &&& 0xFFFF = total % 2 ^ 16 := Nat.and_two_pow_sub_one_eq_mod total 16
  omega

/-- The sum of 16-bit words. -/
def words : Bytes -> Nat
  | first :: second :: rest => (first.toNat <<< 8) + second.toNat + words rest
  | [first] => first.toNat <<< 8
  | [] => 0

/-- `(~total) & 0xFFFF`, of a total that has 16 bits by then. -/
def checksum (data : Bytes) : Nat := 0xFFFF - foldCarry (words data)

/-! ## The layers -/

def ethernet (src dst payload : Bytes) : Bytes :=
  octetString 6 dst ++ octetString 6 src ++ BigEndian.encode 2 0x0800 ++ payload

def ipv4 (src dst : String) (proto : Nat) (payload : Bytes) (ident : Nat) : Option Bytes := do
  let total <- pack 2 (20 + payload.length)
  let ident <- pack 2 ident
  let proto <- pack 1 proto
  let src <- ipBytes src
  let dst <- ipBytes dst
  let header := [0x45, 0] ++ total ++ ident ++ [0, 0, 64] ++ proto ++ [0, 0] ++
    octetString 4 src ++ octetString 4 dst
  let sum <- pack 2 (checksum header)
  some (header.take 10 ++ sum ++ header.drop 12 ++ payload)

def tcp (sport dport seq ack flags : Nat) (payload : Bytes) : Option Bytes := do
  let sport <- pack 2 sport
  let dport <- pack 2 dport
  let seq <- pack 4 seq
  let ack <- pack 4 ack
  let flags <- pack 1 flags
  some (sport ++ dport ++ seq ++ ack ++ [0x50] ++ flags ++ [0xFF, 0xFF, 0, 0, 0, 0] ++ payload)

def udp (sport dport : Nat) (payload : Bytes) : Option Bytes := do
  let sport <- pack 2 sport
  let dport <- pack 2 dport
  let length <- pack 2 (8 + payload.length)
  some (sport ++ dport ++ length ++ [0, 0] ++ payload)

/-! ## Options -/

/-- Options behind the fixed IPv4 header, with its two lengths adjusted. -/
def insertIpOptions (options datagram : Bytes) : Bytes :=
  [datagram.getD 0 0 + UInt8.ofNat (options.length / 4)] ++ slice datagram 1 2 ++
    BigEndian.encode 2 (totalLength datagram + options.length) ++ slice datagram 4 20 ++ options ++
    datagram.drop 20

/-- Options behind the fixed TCP header, with the data offset adjusted. -/
def insertTcpOptions (options segment : Bytes) : Bytes :=
  segment.take 12 ++ [segment.getD 12 0 + UInt8.ofNat (options.length / 4 * 16)] ++
    slice segment 13 20 ++ options ++ segment.drop 20

/-- Options come in words, and a header has room for ten. -/
structure OptionsFit (options : Bytes) : Prop where
  words : 4 ∣ options.length
  room : options.length ≤ 40

/-! ## Addresses -/

theorem octetOfPart_toString (octet : UInt8) :
    octetOfPart (toString octet.toNat).toList = some octet ∧
      '.' ∉ (toString octet.toNat).toList := by
  have digits : (toString octet.toNat).toList = Nat.toDigits 10 octet.toNat := by
    change octet.toNat.repr.toList = _
    exact Nat.toList_repr
  have each : forall value : Fin 256,
      octetOfPart (Nat.toDigits 10 value) = some (UInt8.ofNat value) ∧
        '.' ∉ Nat.toDigits 10 value := by decide +kernel
  have own := each ⟨octet.toNat, octet.toNat_lt⟩
  rw [digits]
  simpa using own

theorem ipBytes_dottedQuad {raw : Bytes} (nonempty : raw ≠ []) :
    ipBytes (dottedQuad raw) = some raw := by
  have parts : (dottedQuad raw).toList.splitOn '.' =
      raw.map fun octet => (toString octet.toNat).toList := by
    rw [dottedQuad, String.toList_intercalate, List.map_map]
    apply List.splitOn_intercalate
    · intro part member
      rcases List.mem_map.mp member with ⟨octet, _, rfl⟩
      exact (octetOfPart_toString octet).2
    · simpa using nonempty
  rw [ipBytes, parts]
  clear parts nonempty
  induction raw with
  | nil => rfl
  | cons octet raw ih =>
      rw [List.map_cons, List.mapM_cons, (octetOfPart_toString octet).1, ih]
      rfl

/-! ## What the headers state -/

/-- An IPv4 header in front of `size` octets. -/
structure StatesNetwork (header : Bytes) (size proto : Nat) (src dst : Bytes) : Prop where
  fixed : 20 ≤ header.length
  version : (header.getD 0 0).toNat >>> 4 = 4
  ihl : ihl header = header.length
  total : totalLength header = header.length + size
  proto : (header.getD 9 0).toNat = proto
  src : slice header 12 16 = src
  dst : slice header 16 20 = dst

/-- A TCP header. -/
structure StatesTcp (header : Bytes) (sport dport flags : Nat) : Prop where
  fixed : 20 ≤ header.length
  offset : dataOffset header = header.length
  ports : shorts (slice header 0 4) = (sport, dport)
  flags : (header.getD 13 0).toNat = flags

section

variable {header : Bytes} {proto : Nat} {src dst payload : Bytes}
  (states : StatesNetwork header payload.length proto src dst) (padding : Bytes)
include states

/-- The stated lengths cut the payload out, and the padding off. -/
theorem StatesNetwork.ipPayload_eq : ipPayload (header ++ payload ++ padding) = payload := by
  have long := states.fixed
  have length : Wireline.ihl (header ++ payload ++ padding) = header.length := by
    rw [← states.ihl, List.append_assoc]
    unfold Wireline.ihl
    rw [getD_append_left _ (by omega)]
  have total : totalLength (header ++ payload ++ padding) = header.length + payload.length := by
    rw [← states.total, List.append_assoc]
    unfold totalLength
    rw [slice_append_left _ (by omega)]
  have positive : header.length + payload.length ≠ 0 := by omega
  rw [ipPayload, total, length, if_pos positive, List.append_assoc]
  have inside := slice_append header (payload ++ padding) 0 payload.length
  simpa [slice] using inside

/-- The network layer hands the payload to its protocol. -/
theorem StatesNetwork.dissectNetwork_eq (row : Row) :
    dissectNetwork row (header ++ payload ++ padding) =
      dissectTransport { row with l3Src := dottedQuad src, l3Dst := dottedQuad dst } proto
        payload := by
  have long := states.fixed
  have version : ((header ++ payload ++ padding).getD 0 0).toNat >>> 4 = 4 := by
    rw [List.append_assoc, getD_append_left _ (by omega), states.version]
  have stated : ((header ++ payload ++ padding).getD 9 0).toNat = proto := by
    rw [List.append_assoc, getD_append_left _ (by omega), states.proto]
  rw [dissectNetwork_ipv4 (by simp; omega) version, stated, states.ipPayload_eq,
    List.append_assoc, slice_append_left _ (by omega), slice_append_left _ (by omega), states.src,
    states.dst]

end

/-! ## What is built states what it is built from -/

theorem pack_ok {width value : Nat} (fits : value < 256 ^ width) :
    pack width value = some (BigEndian.encode width value) := if_pos fits

theorem encode_two (value : Nat) :
    BigEndian.encode 2 value = [UInt8.ofNat (value / 256), UInt8.ofNat value] := by
  simp [BigEndian.encode]

theorem encode_one (value : Nat) : BigEndian.encode 1 value = [UInt8.ofNat value] := by
  simp [BigEndian.encode]

theorem short_encode {value : Nat} (fits : value < 65536) :
    short [UInt8.ofNat (value / 256), UInt8.ofNat value] = value := by
  rw [← encode_two]
  exact BigEndian.decode_encode 2 value fits

theorem checksum_lt (data : Bytes) : checksum data < 256 ^ 2 := by
  unfold checksum
  omega

/-- The header of `ipv4`. -/
theorem ipv4_states {src dst : Bytes} (payload : Bytes) (srcSized : src.length = 4) (dstSized : dst.length = 4)
    {proto ident : Nat} (protoFits : proto < 256) (identFits : ident < 65536)
    (fits : 20 + payload.length < 65536) :
    ∃ header, ipv4 (dottedQuad src) (dottedQuad dst) proto payload ident = some (header ++ payload) ∧
      header.length = 20 ∧ StatesNetwork header payload.length proto src dst := by
  rcases src with _ | ⟨s0, _ | ⟨s1, _ | ⟨s2, _ | ⟨s3, _ | ⟨_, _⟩⟩⟩⟩⟩ <;> simp at srcSized
  rcases dst with _ | ⟨d0, _ | ⟨d1, _ | ⟨d2, _ | ⟨d3, _ | ⟨_, _⟩⟩⟩⟩⟩ <;> simp at dstSized
  have srcRead : ipBytes (dottedQuad [s0, s1, s2, s3]) = some [s0, s1, s2, s3] :=
    ipBytes_dottedQuad (by simp)
  have dstRead : ipBytes (dottedQuad [d0, d1, d2, d3]) = some [d0, d1, d2, d3] :=
    ipBytes_dottedQuad (by simp)
  have sum := pack_ok (checksum_lt
    ([0x45, 0] ++ BigEndian.encode 2 (20 + payload.length) ++ BigEndian.encode 2 ident ++
      [0, 0, 64] ++ BigEndian.encode 1 proto ++ [0, 0] ++ octetString 4 [s0, s1, s2, s3] ++
      octetString 4 [d0, d1, d2, d3]))
  simp only [ipv4, pack_ok (show 20 + payload.length < 256 ^ 2 from fits),
    pack_ok (show ident < 256 ^ 2 from identFits), pack_ok (show proto < 256 ^ 1 from protoFits),
    srcRead, dstRead, bind, Option.bind, sum]
  refine ⟨_, rfl, ?_, ?_⟩
  · simp [octetString]
  · generalize checksum _ = sum
    simp only [octetString, encode_two, encode_one, List.cons_append, List.nil_append, List.take,
      List.drop, List.replicate]
    constructor
    · simp
    · simp
    · simp [ihl]
    · exact short_encode fits
    · simpa using protoFits
    · simp [slice]
    · simp [slice]

/-- The first octet of an IPv4 header without options. -/
theorem StatesNetwork.first {header : Bytes} {size proto : Nat} {src dst : Bytes}
    (states : StatesNetwork header size proto src dst) (sized : header.length = 20) :
    header.getD 0 0 = 0x45 := by
  have version := states.version
  have length := states.ihl
  unfold Wireline.ihl at length
  generalize header.getD 0 0 = octet at version length
  rw [sized] at length
  apply UInt8.toNat_inj.mp
  have low : octet.toNat &&& 15 = octet.toNat % 2 ^ 4 := Nat.and_two_pow_sub_one_eq_mod _ 4
  change octet.toNat = 69
  omega

/-- The words of options that fit. -/
theorem OptionsFit.nibble {options : Bytes} (fit : OptionsFit options) :
    ∃ count, count ≤ 10 ∧ options.length = 4 * count ∧ options.length / 4 = count := by
  rcases fit.words with ⟨count, length⟩
  have room := fit.room
  exact ⟨count, by omega, length, by omega⟩

/-- Options leave the fields of an IPv4 header alone. -/
theorem insertIpOptions_states {header payload options : Bytes} {proto : Nat} {src dst : Bytes}
    (states : StatesNetwork header payload.length proto src dst) (sized : header.length = 20)
    (fit : OptionsFit options) (fits : 20 + options.length + payload.length < 65536) :
    ∃ longer, insertIpOptions options (header ++ payload) = longer ++ payload ∧
      StatesNetwork longer payload.length proto src dst := by
  rcases fit.nibble with ⟨count, few, length, words⟩
  have first := states.first sized
  have proto := states.proto
  let opening : Bytes := [0x45 + UInt8.ofNat count] ++ slice header 1 2
  let total := BigEndian.encode 2 (20 + options.length + payload.length)
  let closing := slice header 4 20
  have openingSized : opening.length = 2 := by simp [opening, length_slice, sized]
  have frontSized : (opening ++ total).length = 4 := by simp [total, openingSized]
  have closingSized : closing.length = 16 := by simp [closing, length_slice, sized]
  have octet : (0x45 + UInt8.ofNat count).toNat = 69 + count := by
    simp [UInt8.toNat_add]
    omega
  have zero : (opening ++ total ++ closing ++ options).getD 0 0 = 0x45 + UInt8.ofNat count := by
    simp [opening]
  -- what stood behind the total length stands there still
  have addresses (start stop : Nat) (inner : stop ≤ 16) :
      slice (opening ++ total ++ closing ++ options) (4 + start) (4 + stop) =
        slice header (4 + start) (4 + stop) := by
    have moved := slice_append (opening ++ total) (closing ++ options) start stop
    have kept : slice closing start stop = slice header (4 + start) (4 + stop) := by
      rw [slice_slice, Nat.min_eq_right (by omega)]
    rw [frontSized] at moved
    rw [List.append_assoc, moved, slice_append_left _ (by omega), kept]
  refine ⟨opening ++ total ++ closing ++ options, ?_, ?_⟩
  · have stated : totalLength (header ++ payload) = 20 + payload.length := by
      unfold totalLength
      rw [slice_append_left _ (by omega)]
      exact states.total.trans (by rw [sized])
    have sum : 20 + payload.length + options.length = 20 + options.length + payload.length := by omega
    rw [insertIpOptions, getD_append_left _ (by omega), slice_append_left _ (by omega),
      slice_append_left _ (by omega), first, stated, words, sum, ← sized, List.drop_left]
    simp only [opening, total, closing, List.append_assoc, sized]
  · constructor
    · simp [openingSized, total, closingSized]
      omega
    · rw [zero, octet]
      omega
    · have low : (69 + count) &&& 15 = (69 + count) % 16 := Nat.and_two_pow_sub_one_eq_mod _ 4
      unfold ihl
      rw [zero, octet]
      simp [openingSized, total, closingSized, length]
      omega
    · have inside := slice_append opening (total ++ closing ++ options) 0 2
      have field : slice (opening ++ total ++ closing ++ options) 2 4 = total := by
        rw [openingSized] at inside
        simpa [slice, total] using inside
      have lengths : (opening ++ total ++ closing ++ options).length = 20 + options.length := by
        simp [openingSized, total, closingSized]
        omega
      rw [lengths]
      unfold totalLength
      rw [field]
      exact BigEndian.decode_encode 2 _ fits
    · rw [← proto, List.append_assoc, List.getD_append_right _ _ _ _ (by omega), frontSized,
        getD_append_left _ (by omega), getD_slice header (by omega)]
    · rw [addresses 8 12 (by omega), ← states.src]
    · rw [addresses 12 16 (by omega), ← states.dst]

/-- Options leave the fields of a TCP header alone. -/
theorem insertTcpOptions_states {header options : Bytes} (payload : Bytes) {sport dport flags : Nat}
    (states : StatesTcp header sport dport flags) (sized : header.length = 20)
    (fit : OptionsFit options) :
    ∃ longer, insertTcpOptions options (header ++ payload) = longer ++ payload ∧
      longer.length = 20 + options.length ∧ StatesTcp longer sport dport flags := by
  rcases fit.nibble with ⟨count, few, length, words⟩
  have offset := states.offset
  unfold dataOffset at offset
  rw [sized] at offset
  let opening := header.take 12
  let octet := header.getD 12 0 + UInt8.ofNat (count * 16)
  let closing := slice header 13 20
  have openingSized : opening.length = 12 := by simp [opening, sized]
  have frontSized : (opening ++ [octet]).length = 13 := by simp [openingSized]
  have closingSized : closing.length = 7 := by simp [closing, length_slice, sized]
  have lengths : (opening ++ [octet] ++ closing ++ options).length = 20 + options.length := by
    simp [openingSized, closingSized]
    omega
  refine ⟨opening ++ [octet] ++ closing ++ options, ?_, lengths, ?_⟩
  · rw [insertTcpOptions, getD_append_left _ (by omega), slice_append_left _ (by omega),
      List.take_append_of_le_length (by omega), words, ← sized, List.drop_left]
    simp only [opening, octet, closing, List.append_assoc, sized]
  · constructor
    · omega
    · have own : (opening ++ [octet] ++ closing ++ options).getD 12 0 = octet := by
        rw [List.append_assoc, getD_append_left _ (by omega),
          List.getD_append_right _ _ _ _ (by omega), openingSized]
        rfl
      unfold dataOffset
      rw [own, lengths, length]
      simp only [octet, UInt8.toNat_add, UInt8.toNat_ofNat']
      omega
    · have front : slice (opening ++ [octet] ++ closing ++ options) 0 4 = slice header 0 4 := by
        rw [List.append_assoc, List.append_assoc, slice_append_left _ (by omega)]
        simp [slice, opening, List.take_take]
      rw [front, states.ports]
    · rw [← states.flags, List.append_assoc, List.getD_append_right _ _ _ _ (by omega), frontSized,
        getD_append_left _ (by omega), getD_slice header (by omega)]

/-- The header of `tcp`. -/
theorem tcp_states {sport dport seq ack flags : Nat} (sportFits : sport < 65536)
    (dportFits : dport < 65536) (seqFits : seq < 2 ^ 32) (ackFits : ack < 2 ^ 32)
    (flagsFit : flags < 256) (payload : Bytes) :
    ∃ header, tcp sport dport seq ack flags payload = some (header ++ payload) ∧
      header.length = 20 ∧ StatesTcp header sport dport flags := by
  let numbers := BigEndian.encode 4 seq ++ BigEndian.encode 4 ack
  let header := [UInt8.ofNat (sport / 256), UInt8.ofNat sport, UInt8.ofNat (dport / 256),
    UInt8.ofNat dport] ++ numbers ++ [0x50, UInt8.ofNat flags, 0xFF, 0xFF, 0, 0, 0, 0]
  have numbersSized : numbers.length = 8 := by simp [numbers]
  have headerSized : header.length = 20 := by simp [header, numbersSized]
  refine ⟨header, ?_, headerSized, ?_⟩
  · simp [tcp, pack_ok (show sport < 256 ^ 2 from sportFits),
      pack_ok (show dport < 256 ^ 2 from dportFits), pack_ok (show seq < 256 ^ 4 from seqFits),
      pack_ok (show ack < 256 ^ 4 from ackFits), pack_ok (show flags < 256 ^ 1 from flagsFit),
      encode_two, encode_one, header, numbers]
  · constructor
    · omega
    · rw [headerSized]
      simp [dataOffset, header, numbers]
    · simp [header, slice, shorts, short_encode sportFits, short_encode dportFits]
    · simp [header, numbers]
      omega

/-- The row of a segment. -/
theorem StatesTcp.dissectTransport_eq {header : Bytes} {sport dport flags : Nat}
    (states : StatesTcp header sport dport flags) (row : Row) (payload : Bytes) :
    dissectTransport row protoTcp (header ++ payload) = .ok { row with
      l4Proto := some .tcp, l4Sport := sport, l4Dport := dport, l4Flags := tcpFlags flags,
      payloadLen := payload.length, payload := payload, l7 := tryParseWireline payload } := by
  have long := states.fixed
  have offset : dataOffset (header ++ payload) = header.length := by
    rw [← states.offset]
    unfold dataOffset
    rw [getD_append_left _ (by omega)]
  rw [dissectTransport_tcp row (by simp; omega), tcpRow, offset, List.drop_left,
    slice_append_left _ (by omega), states.ports, getD_append_left _ (by omega), states.flags,
    dissectPayload]

/-- The row of a datagram of `udp`. -/
theorem udp_dissected {sport dport : Nat} (sportFits : sport < 65536) (dportFits : dport < 65536)
    {payload : Bytes} (fits : 8 + payload.length < 65536) :
    ∃ datagram, udp sport dport payload = some datagram ∧ datagram.length = 8 + payload.length ∧
      forall row, dissectTransport row protoUdp datagram = .ok { row with
        l4Proto := some .udp, l4Sport := sport, l4Dport := dport,
        payloadLen := payload.length, payload := payload, l7 := tryParseWireline payload } := by
  let header := [UInt8.ofNat (sport / 256), UInt8.ofNat sport, UInt8.ofNat (dport / 256),
    UInt8.ofNat dport] ++ BigEndian.encode 2 (8 + payload.length) ++ [0, 0]
  have headerSized : header.length = 8 := by simp [header]
  have ports : shorts (slice header 0 4) = (sport, dport) := by
    simp [header, slice, shorts, short_encode sportFits, short_encode dportFits]
  have field : slice header 4 6 = BigEndian.encode 2 (8 + payload.length) := by
    simp [header, slice]
  have stated : udpLength (header ++ payload) = 8 + payload.length := by
    unfold udpLength
    rw [slice_append_left _ (by omega), field]
    exact BigEndian.decode_encode 2 _ fits
  have cut : slice (header ++ payload) 8 (8 + payload.length) = payload := by
    have inside := slice_append header payload 0 payload.length
    rw [headerSized] at inside
    simpa [slice] using inside
  refine ⟨header ++ payload, ?_, by simp [headerSized], ?_⟩
  · simp [udp, pack_ok (show sport < 256 ^ 2 from sportFits),
      pack_ok (show dport < 256 ^ 2 from dportFits),
      pack_ok (show 8 + payload.length < 256 ^ 2 from fits), encode_two, header]
  · intro row
    rw [dissectTransport_udp row (by simp [headerSized]), udpRow, stated, if_pos (by omega), cut,
      slice_append_left _ (by omega), ports, dissectPayload]

/-! ## Whole packets -/

/-- The two ends of a packet. -/
structure Ends where
  l2Src : Bytes
  l2Dst : Bytes
  l3Src : Bytes
  l3Dst : Bytes
  sport : UInt16
  dport : UInt16
  macSized : l2Src.length = 6 ∧ l2Dst.length = 6
  addressSized : l3Src.length = 4 ∧ l3Dst.length = 4

/-- What the transport header of a packet is built from, the ports apart. -/
inductive Transport
  | tcp (seq ack : UInt32) (flags : UInt8)
  | tcpWithOptions (seq ack : UInt32) (flags : UInt8) (options : Bytes) (fit : OptionsFit options)
  | udp

namespace Transport

def proto : Transport -> Nat
  | .tcp .. => protoTcp
  | .tcpWithOptions .. => protoTcp
  | .udp => protoUdp

def headerSize : Transport -> Nat
  | .tcp .. => 20
  | .tcpWithOptions _ _ _ options _ => 20 + options.length
  | .udp => 8

def build (transport : Transport) (ends : Ends) (payload : Bytes) : Option Bytes :=
  match transport with
  | .tcp seq ack flags =>
      Wireline.tcp ends.sport.toNat ends.dport.toNat seq.toNat ack.toNat flags.toNat payload
  | .tcpWithOptions seq ack flags options _ =>
      (Wireline.tcp ends.sport.toNat ends.dport.toNat seq.toNat ack.toNat flags.toNat payload).map
        (insertTcpOptions options)
  | .udp => Wireline.udp ends.sport.toNat ends.dport.toNat payload

/-- The row that shows the packet as it was built. -/
def row (transport : Transport) (ends : Ends) (payload : Bytes) (ts : ℚ) : Row :=
  { ts := ts
    l3Src := dottedQuad ends.l3Src
    l3Dst := dottedQuad ends.l3Dst
    l4Proto := match transport with
      | .udp => some .udp
      | _ => some .tcp
    l4Sport := ends.sport.toNat
    l4Dport := ends.dport.toNat
    l4Flags := match transport with
      | .tcp _ _ flags => tcpFlags flags.toNat
      | .tcpWithOptions _ _ flags _ _ => tcpFlags flags.toNat
      | .udp => ""
    payloadLen := payload.length
    payload := payload
    l7 := tryParseWireline payload }

end Transport

/-- The packet is read as what it was built from, in either link type and with
any padding behind it. -/
def Undone (transport : Transport) (ends : Ends) (payload datagram : Bytes) : Prop :=
  forall (ts : ℚ) (padding : Bytes) (originalLength : Nat),
    dissectPacket linktypeRawIp ⟨ts, datagram ++ padding, originalLength⟩ =
        .ok (some (transport.row ends payload ts)) ∧
      dissectPacket linktypeEthernet
          ⟨ts, ethernet ends.l2Src ends.l2Dst datagram ++ padding, originalLength⟩ =
        .ok (some { transport.row ends payload ts with
          l2Src := mac ends.l2Src, l2Dst := mac ends.l2Dst })

/-- A transport header that is built is read back. -/
theorem Transport.built (transport : Transport) (ends : Ends) (payload : Bytes)
    (fits : transport.headerSize + payload.length < 65536) :
    ∃ segment, transport.build ends payload = some segment ∧
      segment.length = transport.headerSize + payload.length ∧
      forall ts l2Src l2Dst,
        dissectTransport
            { ts := ts, l2Src := l2Src, l2Dst := l2Dst, l3Src := dottedQuad ends.l3Src,
              l3Dst := dottedQuad ends.l3Dst } transport.proto segment =
          .ok { transport.row ends payload ts with l2Src := l2Src, l2Dst := l2Dst } := by
  have sport := ends.sport.toNat_lt
  have dport := ends.dport.toNat_lt
  cases transport with
  | tcp seq ack flags =>
      rcases tcp_states sport dport seq.toNat_lt ack.toNat_lt flags.toNat_lt payload with
        ⟨header, built, sized, states⟩
      refine ⟨header ++ payload, built, by simp [headerSize, sized], ?_⟩
      intro ts l2Src l2Dst
      exact states.dissectTransport_eq _ payload
  | tcpWithOptions seq ack flags options fit =>
      rcases tcp_states sport dport seq.toNat_lt ack.toNat_lt flags.toNat_lt payload with
        ⟨header, built, sized, states⟩
      rcases insertTcpOptions_states payload states sized fit with
        ⟨longer, inserted, longerSized, longerStates⟩
      refine ⟨longer ++ payload, ?_, by simp [headerSize, longerSized], ?_⟩
      · simp [build, built, inserted]
      · intro ts l2Src l2Dst
        exact longerStates.dissectTransport_eq _ payload
  | udp =>
      rcases udp_dissected sport dport fits with ⟨datagram, built, sized, dissected⟩
      refine ⟨datagram, built, sized, ?_⟩
      intro ts l2Src l2Dst
      exact dissected _

/-- The Ethernet header of `ethernet`. -/
theorem dissectPacket_built {l2Src l2Dst : Bytes} (srcSized : l2Src.length = 6)
    (dstSized : l2Dst.length = 6) (ts : ℚ) (data : Bytes) (originalLength : Nat) :
    dissectPacket linktypeEthernet ⟨ts, ethernet l2Src l2Dst data, originalLength⟩ =
      (dissectNetwork { ts := ts, l2Src := mac l2Src, l2Dst := mac l2Dst } data).map some := by
  have src : octetString 6 l2Src = l2Src := by simp [octetString, ← srcSized]
  have dst : octetString 6 l2Dst = l2Dst := by simp [octetString, ← dstSized]
  let header := l2Dst ++ l2Src ++ [0x08, 0x00]
  have built : ethernet l2Src l2Dst data = header ++ data := by
    rw [ethernet, src, dst]
    rfl
  have sized : header.length = 14 := by simp [header, srcSized, dstSized]
  have first : slice (header ++ data) 0 6 = l2Dst := by
    rw [slice_append_left _ (by omega)]
    simp [slice, header, ← dstSized]
  have second : slice (header ++ data) 6 12 = l2Src := by
    have inside := slice_append l2Dst (l2Src ++ [0x08, 0x00]) 0 6
    have own : slice (l2Src ++ [0x08, 0x00]) 0 6 = l2Src := by simp [slice, ← srcSized]
    rw [dstSized, ← List.append_assoc, own] at inside
    rw [slice_append_left _ (by omega)]
    exact inside
  have third : short (slice (header ++ data) 12 14) = ethertypeIpv4 := by
    have inside := slice_append (l2Dst ++ l2Src) [0x08, 0x00] 0 2
    rw [List.length_append, dstSized, srcSized] at inside
    rw [slice_append_left _ (by omega)]
    exact congrArg short inside
  have size : ethHeaderSize ≤ (header ++ data).length := by
    simp only [List.length_append, sized, ethHeaderSize]
    omega
  have rest : (header ++ data).drop ethHeaderSize = data := List.drop_left' sized
  rw [built, dissectPacket_ethernet size]
  simp only [etherRow, first, second, third, rest]
  rw [if_neg (not_not.mpr rfl)]

/-- A network header in front of a transport that is read back is undone. -/
theorem StatesNetwork.undone {header segment payload : Bytes} {transport : Transport} {ends : Ends}
    (states : StatesNetwork header segment.length transport.proto ends.l3Src ends.l3Dst)
    (dissected : forall ts l2Src l2Dst,
      dissectTransport
          { ts := ts, l2Src := l2Src, l2Dst := l2Dst, l3Src := dottedQuad ends.l3Src,
            l3Dst := dottedQuad ends.l3Dst } transport.proto segment =
        .ok { transport.row ends payload ts with l2Src := l2Src, l2Dst := l2Dst }) :
    Undone transport ends payload (header ++ segment) := by
  intro ts padding originalLength
  constructor
  · rw [dissectPacket_rawIp, states.dissectNetwork_eq]
    exact congrArg (Except.map some) (dissected ts "" "")
  · have behind : ethernet ends.l2Src ends.l2Dst (header ++ segment) ++ padding =
        ethernet ends.l2Src ends.l2Dst (header ++ segment ++ padding) := by
      simp [ethernet]
    rw [behind, dissectPacket_built ends.macSized.1 ends.macSized.2, states.dissectNetwork_eq]
    exact congrArg (Except.map some) (dissected ts _ _)

/-- Dissection undoes packet construction, with IP options or without. -/
theorem dissect_undoes_construction (transport : Transport) (ends : Ends) (ident : UInt16)
    (payload : Bytes) (fits : 20 + transport.headerSize + payload.length < 65536) :
    ∃ segment datagram, transport.build ends payload = some segment ∧
      ipv4 (dottedQuad ends.l3Src) (dottedQuad ends.l3Dst) transport.proto segment ident.toNat =
        some datagram ∧
      Undone transport ends payload datagram ∧
      forall options, OptionsFit options -> options.length + datagram.length < 65536 ->
        Undone transport ends payload (insertIpOptions options datagram) := by
  rcases transport.built ends payload (by omega) with
    ⟨segment, built, sized, dissected⟩
  have proto : transport.proto < 256 := by
    cases transport <;> simp [Transport.proto, protoTcp, protoUdp]
  rcases ipv4_states segment ends.addressSized.1 ends.addressSized.2 proto
    ident.toNat_lt (by omega) with ⟨header, datagram, headerSized, states⟩
  refine ⟨segment, header ++ segment, built, datagram, states.undone dissected, ?_⟩
  intro options fit room
  rcases insertIpOptions_states states headerSized fit (by simp [headerSized] at room; omega) with
    ⟨longer, inserted, longerStates⟩
  rw [inserted]
  exact longerStates.undone dissected

/-- The client and the server of the fixtures. -/
def fixtureEnds : Ends where
  l2Src := [0x02, 0, 0, 0, 0, 0x01]
  l2Dst := [0x02, 0, 0, 0, 0, 0x02]
  l3Src := [10, 0, 0, 10]
  l3Dst := [10, 0, 0, 20]
  sport := 51234
  dport := 9000
  macSized := by decide
  addressSized := by decide

theorem noOperations_fit : OptionsFit [1, 1, 1, 1] where
  words := by decide
  room := by decide

/-- A segment with a payload, options in both headers and padding behind. -/
theorem dissect_undoes_construction_padded :
    ∃ segment datagram row,
      (Transport.tcpWithOptions 1000 5000 0x18 [1, 1, 1, 1] noOperations_fit).build fixtureEnds
          [1, 2, 3] = some segment ∧
        ipv4 "10.0.0.10" "10.0.0.20" protoTcp segment 1 = some datagram ∧
        dissectPacket linktypeEthernet ⟨0, ethernet fixtureEnds.l2Src fixtureEnds.l2Dst
          (insertIpOptions [1, 1, 1, 1] datagram) ++ [0, 0], 0⟩ = .ok (some row) ∧
        row.payload = [1, 2, 3] ∧ row.l3Src = "10.0.0.10" ∧ row.l4Dport = 9000 ∧
        row.l4Flags = "PSH|ACK" := by
  let transport := Transport.tcpWithOptions 1000 5000 0x18 [1, 1, 1, 1] noOperations_fit
  have fits : 20 + transport.headerSize + ([1, 2, 3] : Bytes).length < 65536 := by decide
  rcases dissect_undoes_construction transport fixtureEnds 1 [1, 2, 3] fits with
    ⟨segment, datagram, built, wrapped, _, undone⟩
  have length : [(1 : UInt8), 1, 1, 1].length + datagram.length < 65536 := by
    rcases transport.built fixtureEnds [1, 2, 3] (by decide) with ⟨other, again, sized, _⟩
    rw [built] at again
    cases again
    have room : segment.length = 27 := sized
    rcases ipv4_states segment fixtureEnds.addressSized.1 fixtureEnds.addressSized.2
      (show protoTcp < 256 by decide) (show 1 < 65536 by decide) (by omega) with
      ⟨header, written, headerSized, _⟩
    have same := wrapped.symm.trans written
    cases same
    rw [List.length_append, headerSized, room]
    decide
  have whole := (undone [1, 1, 1, 1] noOperations_fit length 0 [0, 0] 0).2
  exact ⟨segment, datagram, _, built, wrapped, whole, rfl, by decide, rfl, by decide⟩

end Wireline
