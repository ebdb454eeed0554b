import Wireline.Sniff.Pcap
import Wireline.Sniff.PacketScan

namespace Wireline

/-!
# Layer-by-layer dissection of a capture

    L2 Ethernet -> L3 IP -> L4 TCP/UDP -> L7 Wireline

Each layer strips one header and hands the rest to the next, and a packet that
a layer cannot read leaves a row with what is known so far.  Indexing and
unpacking can raise in the source, so they can here; that they never do is a
result.
-/

/-- What taking a field can raise: `struct.error`, an `IndexError`, and the
`OSError` of `inet_ntoa`. -/
inductive FieldError
  | structError
  | indexError
  | osError
deriving DecidableEq, Repr

/-- `struct.Struct(..).unpack`, for a format of `size` octets. -/
def unpack {α : Type} (size : Nat) (fields : Bytes -> α) (raw : Bytes) : Except FieldError α :=
  if raw.length = size then .ok (fields raw) else .error .structError

/-- `data[position]`. -/
def index (data : Bytes) (position : Nat) : Except FieldError UInt8 :=
  match data[position]? with
  | none => .error .indexError
  | some octet => .ok octet

/-- `"!H"`. -/
def short (raw : Bytes) : Nat := BigEndian.decode raw

/-- `"!HH"`. -/
def shorts (raw : Bytes) : Nat × Nat := (short (raw.take 2), short (raw.drop 2))

/-! ## Text forms -/

/-- A number of at least `width` hexadecimal digits. -/
def hexPadded (width value : Nat) : String :=
  "".pushn '0' (width - (hexDigits value).length) ++ hexDigits value

def mac (raw : Bytes) : String :=
  String.intercalate ":" (raw.map fun octet => hexPadded 2 octet.toNat)

/-- Four octets in decimal, separated by dots. -/
def dottedQuad (raw : Bytes) : String :=
  String.intercalate "." (raw.map fun octet => toString octet.toNat)

/-- `socket.inet_ntoa`. -/
def ipStr (raw : Bytes) : Except FieldError String :=
  if raw.length = 4 then .ok (dottedQuad raw) else .error .osError

def tcpFlagNames : List (Nat × String) :=
  [(0x01, "FIN"), (0x02, "SYN"), (0x04, "RST"), (0x08, "PSH"), (0x10, "ACK"), (0x20, "URG")]

def tcpFlags (flags : Nat) : String :=
  let names := (tcpFlagNames.filter fun entry => flags &&& entry.1 ≠ 0).map Prod.snd
  if names = [] then "-" else String.intercalate "|" names

/-! ## Rows -/

def ethHeaderSize : Nat := 14
def ethertypeIpv4 : Nat := 0x0800
def protoTcp : Nat := 6
def protoUdp : Nat := 17

inductive L4Proto
  | tcp
  | udp
deriving DecidableEq, Repr

/-- One packet, decomposed.  An empty `l4_proto` is `none`. -/
structure Row where
  ts : ℚ
  l2Src : String := ""
  l2Dst : String := ""
  l3Src : String := ""
  l3Dst : String := ""
  l4Proto : Option L4Proto := none
  l4Sport : Nat := 0
  l4Dport : Nat := 0
  l4Flags : String := ""
  payloadLen : Nat := 0
  payload : Bytes := []
  l7 : List WirelineInfo := []
  note : String := ""
deriving DecidableEq, Repr

/-- L7. -/
def dissectPayload (row : Row) (data : Bytes) : Row :=
  { row with payloadLen := data.length, payload := data, l7 := tryParseWireline data }

/-- L4. -/
def dissectTransport (row : Row) (proto : Nat) (data : Bytes) : Except FieldError Row :=
  if proto = protoTcp then
    if data.length < 20 then .ok row
    else do
      let (sport, dport) <- unpack 4 shorts (slice data 0 4)
      let dataOffset <- index data 12
      let flags <- index data 13
      let row := { row with
        l4Proto := some .tcp, l4Sport := sport, l4Dport := dport,
        l4Flags := tcpFlags flags.toNat }
      .ok (dissectPayload row (data.drop ((dataOffset.toNat >>> 4) * 4)))
  else if proto = protoUdp then
    if data.length < 8 then .ok row
    else do
      let ((sport, dport), (udpLen, _)) <-
        unpack 8 (fun raw => (shorts (raw.take 4), shorts (raw.drop 4))) (slice data 0 8)
      let row := { row with l4Proto := some .udp, l4Sport := sport, l4Dport := dport }
      .ok (dissectPayload row (if 8 ≤ udpLen then slice data 8 udpLen else data.drop 8))
  else .ok { row with note := s!"ip protocol {proto}" }

/-- L3. -/
def dissectNetwork (row : Row) (data : Bytes) : Except FieldError Row :=
  let refused := { row with note := "not an ipv4 packet" }
  if data.length < 20 then .ok refused
  else do
    let first <- index data 0
    if first.toNat >>> 4 ≠ 4 then .ok refused
    else do
      let ihl := (first.toNat &&& 0x0F) * 4
      let totalLength <- unpack 2 short (slice data 2 4)
      let proto <- index data 9
      let l3Src <- ipStr (slice data 12 16)
      let l3Dst <- ipStr (slice data 16 20)
      let row := { row with l3Src := l3Src, l3Dst := l3Dst }
      dissectTransport row proto.toNat
        (if totalLength ≠ 0 then slice data ihl totalLength else data.drop ihl)

/-- L2.  A frame that is too short for an Ethernet header has no row. -/
def dissectPacket (linktype : Nat) (packet : Packet) : Except FieldError (Option Row) :=
  let row : Row := { ts := packet.timestamp }
  let data := packet.data
  if linktype = linktypeEthernet then
    if data.length < ethHeaderSize then .ok none
    else do
      let (dst, src, ethertype) <- unpack ethHeaderSize
        (fun raw => (raw.take 6, (raw.drop 6).take 6, short (raw.drop 12)))
        (slice data 0 ethHeaderSize)
      let row := { row with l2Dst := mac dst, l2Src := mac src }
      if ethertype ≠ ethertypeIpv4 then
        let text := "0x" ++ hexPadded 4 ethertype
        .ok (some { row with note := s!"non-ipv4 ethertype {text}" })
      else (dissectNetwork row (data.drop ethHeaderSize)).map some
  else if linktype = linktypeLoopback then
    (dissectNetwork row (data.drop 4)).map some  -- BSD loopback family header
  else if linktype ≠ linktypeRawIp then
    .ok (some { row with note := s!"unsupported linktype {linktype}" })
  else (dissectNetwork row data).map some

/-! ## No field is missing -/

theorem index_ok {data : Bytes} {position : Nat} (present : position < data.length) :
    index data position = .ok (data.getD position 0) := by
  simp [index, List.getD, List.getElem?_eq_getElem present]

theorem unpack_ok {α : Type} {size : Nat} {raw : Bytes} (fields : Bytes -> α)
    (sized : raw.length = size) : unpack size fields raw = .ok (fields raw) := by
  simp [unpack, sized]

theorem ipStr_ok {raw : Bytes} (sized : raw.length = 4) : ipStr raw = .ok (dottedQuad raw) := by
  simp [ipStr, sized]

/-! ## What each layer makes of its header -/

/-- The fields of an IPv4 header. -/
def ihl (data : Bytes) : Nat := ((data.getD 0 0).toNat &&& 0x0F) * 4
def totalLength (data : Bytes) : Nat := short (slice data 2 4)

/-- What the network layer hands on. -/
def ipPayload (data : Bytes) : Bytes :=
  if totalLength data ≠ 0 then slice data (ihl data) (totalLength data) else data.drop (ihl data)

/-- The data offset of a TCP header, in octets. -/
def dataOffset (data : Bytes) : Nat := ((data.getD 12 0).toNat >>> 4) * 4

def udpLength (data : Bytes) : Nat := short (slice data 4 6)

theorem dissectNetwork_ipv4 {row : Row} {data : Bytes} (complete : 20 ≤ data.length)
    (version : (data.getD 0 0).toNat >>> 4 = 4) :
    dissectNetwork row data = dissectTransport
      { row with l3Src := dottedQuad (slice data 12 16), l3Dst := dottedQuad (slice data 16 20) }
      (data.getD 9 0).toNat (ipPayload data) := by
  have src : (slice data 12 16).length = 4 := by
    rw [length_slice]
    omega
  have dst : (slice data 16 20).length = 4 := by
    rw [length_slice]
    omega
  have total : (slice data 2 4).length = 2 := by
    rw [length_slice]
    omega
  rw [dissectNetwork, if_neg (by omega), index_ok (by omega)]
  simp only [bind, Except.bind]
  rw [if_neg (not_not.mpr version), unpack_ok short total, index_ok (by omega), ipStr_ok src,
    ipStr_ok dst]
  rfl

/-- The row of a TCP segment. -/
def tcpRow (row : Row) (data : Bytes) : Row :=
  dissectPayload { row with
    l4Proto := some .tcp, l4Sport := (shorts (slice data 0 4)).1,
    l4Dport := (shorts (slice data 0 4)).2, l4Flags := tcpFlags (data.getD 13 0).toNat }
    (data.drop (dataOffset data))

@[simp] theorem payload_tcpRow (row : Row) (data : Bytes) :
    (tcpRow row data).payload = data.drop (dataOffset data) := rfl

theorem dissectTransport_tcp (row : Row) {data : Bytes} (complete : 20 ≤ data.length) :
    dissectTransport row protoTcp data = .ok (tcpRow row data) := by
  have ports : (slice data 0 4).length = 4 := by
    rw [length_slice]
    omega
  rw [dissectTransport, if_pos rfl, if_neg (by omega), unpack_ok shorts ports,
    index_ok (by omega), index_ok (by omega)]
  rfl

/-- The row of a UDP datagram. -/
def udpRow (row : Row) (data : Bytes) : Row :=
  dissectPayload { row with
    l4Proto := some .udp, l4Sport := (shorts (slice data 0 4)).1,
    l4Dport := (shorts (slice data 0 4)).2 }
    (if 8 ≤ udpLength data then slice data 8 (udpLength data) else data.drop 8)

theorem dissectTransport_udp (row : Row) {data : Bytes} (complete : 8 ≤ data.length) :
    dissectTransport row protoUdp data = .ok (udpRow row data) := by
  have header : (slice data 0 8).length = 8 := by
    rw [length_slice]
    omega
  have ports : (slice data 0 8).take 4 = slice data 0 4 := by
    simp [slice, List.take_take]
  have length : ((slice data 0 8).drop 4).take 2 = slice data 4 6 := by
    simp [slice, List.drop_take, List.take_take]
  have other : protoUdp ≠ protoTcp := by decide
  rw [dissectTransport, if_neg other, if_pos rfl, if_neg (by omega), unpack_ok _ header]
  simp only [bind, Except.bind, ports]
  rw [udpRow, udpLength, ← length]
  rfl

/-! ## The outcomes -/

/-- The packets whose payload is scanned. -/
def HoldsSegment (proto : Nat) (size : Nat) (data : Bytes) : Prop :=
  20 ≤ data.length ∧ (data.getD 0 0).toNat >>> 4 = 4 ∧ (data.getD 9 0).toNat = proto ∧
    size ≤ (ipPayload data).length

instance (proto size : Nat) (data : Bytes) : Decidable (HoldsSegment proto size data) :=
  inferInstanceAs (Decidable (_ ∧ _))

/-- The row with the addresses of an IPv4 header. -/
def networkRow (row : Row) (data : Bytes) : Row :=
  { row with l3Src := dottedQuad (slice data 12 16), l3Dst := dottedQuad (slice data 16 20) }

/-- The rows of the network layer: with the payload of a transport, or without
one. -/
inductive Dissected (row : Row) (data : Bytes) : Row -> Prop
  | bare {after : Row} (ts : after.ts = row.ts) (proto : after.l4Proto = row.l4Proto) :
      Dissected row data after
  | tcp (holds : HoldsSegment protoTcp 20 data) :
      Dissected row data (tcpRow (networkRow row data) (ipPayload data))
  | udp (holds : HoldsSegment protoUdp 8 data) :
      Dissected row data (udpRow (networkRow row data) (ipPayload data))

theorem dissectNetwork_tcp {data : Bytes} (row : Row) (holds : HoldsSegment protoTcp 20 data) :
    dissectNetwork row data = .ok (tcpRow (networkRow row data) (ipPayload data)) := by
  rcases holds with ⟨complete, version, tcp, whole⟩
  rw [dissectNetwork_ipv4 complete version, tcp, dissectTransport_tcp _ whole]
  rfl

theorem dissectNetwork_udp {data : Bytes} (row : Row) (holds : HoldsSegment protoUdp 8 data) :
    dissectNetwork row data = .ok (udpRow (networkRow row data) (ipPayload data)) := by
  rcases holds with ⟨complete, version, udp, whole⟩
  rw [dissectNetwork_ipv4 complete version, udp, dissectTransport_udp _ whole]
  rfl

theorem dissectNetwork_dissected (row : Row) (data : Bytes) :
    ∃ after, dissectNetwork row data = .ok after ∧ Dissected row data after := by
  by_cases tcp : HoldsSegment protoTcp 20 data
  · exact ⟨_, dissectNetwork_tcp row tcp, .tcp tcp⟩
  · by_cases udp : HoldsSegment protoUdp 8 data
    · exact ⟨_, dissectNetwork_udp row udp, .udp udp⟩
    · by_cases complete : 20 ≤ data.length
      · by_cases version : (data.getD 0 0).toNat >>> 4 = 4
        · rw [dissectNetwork_ipv4 complete version, dissectTransport]
          split
          · rename_i same
            rw [if_pos (Nat.lt_of_not_le fun whole => tcp ⟨complete, version, same, whole⟩)]
            exact ⟨_, rfl, .bare rfl rfl⟩
          · split
            · rename_i same
              rw [if_pos (Nat.lt_of_not_le fun whole => udp ⟨complete, version, same, whole⟩)]
              exact ⟨_, rfl, .bare rfl rfl⟩
            · exact ⟨_, rfl, .bare rfl rfl⟩
        · rw [dissectNetwork, if_neg (by omega), index_ok (by omega)]
          simp only [bind, Except.bind]
          rw [if_pos version]
          exact ⟨_, rfl, .bare rfl rfl⟩
      · rw [dissectNetwork, if_pos (by omega)]
        exact ⟨_, rfl, .bare rfl rfl⟩

/-- The size of the header in front of the network layer, for the link types
that the analyser reads. -/
def linkHeader (linktype : Nat) : Nat :=
  if linktype = linktypeEthernet then ethHeaderSize else if linktype = linktypeLoopback then 4 else 0

/-- A packet in its link type reaches the network layer. -/
theorem dissectPacket_network {linktype : Nat} {packet : Packet} {row : Row}
    (reached : dissectPacket linktype packet =
      (dissectNetwork row (packet.data.drop (linkHeader linktype))).map some)
    (ts : row.ts = packet.timestamp) (bare : row.l4Proto = none) :
    ∃ row after, dissectPacket linktype packet = .ok (some after) ∧ row.ts = packet.timestamp ∧
      row.l4Proto = none ∧ Dissected row (packet.data.drop (linkHeader linktype)) after := by
  rcases dissectNetwork_dissected row (packet.data.drop (linkHeader linktype)) with
    ⟨after, dissected, outcome⟩
  exact ⟨row, after, by rw [reached, dissected]; rfl, ts, bare, outcome⟩

/-- The row of an Ethernet frame before its network layer is looked at. -/
def etherRow (packet : Packet) : Row :=
  { ts := packet.timestamp, l2Dst := mac (slice packet.data 0 6),
    l2Src := mac (slice packet.data 6 12) }

/-- What the Ethernet header decides. -/
theorem dissectPacket_ethernet {packet : Packet} (complete : ethHeaderSize ≤ packet.data.length) :
    dissectPacket linktypeEthernet packet =
      if short (slice packet.data 12 14) ≠ ethertypeIpv4 then
        let text := "0x" ++ hexPadded 4 (short (slice packet.data 12 14))
        .ok (some { etherRow packet with note := s!"non-ipv4 ethertype {text}" })
      else (dissectNetwork (etherRow packet) (packet.data.drop ethHeaderSize)).map some := by
  have size : ethHeaderSize = 14 := rfl
  have header : (slice packet.data 0 ethHeaderSize).length = ethHeaderSize := by
    rw [length_slice]
    omega
  have fields : (slice packet.data 0 ethHeaderSize).take 6 = slice packet.data 0 6 ∧
      ((slice packet.data 0 ethHeaderSize).drop 6).take 6 = slice packet.data 6 12 ∧
      (slice packet.data 0 ethHeaderSize).drop 12 = slice packet.data 12 14 := by
    simp [slice, size, List.drop_take, List.take_take]
  rw [dissectPacket, if_pos rfl, if_neg (by omega), unpack_ok _ header, fields.1, fields.2.1,
    fields.2.2]
  rfl

theorem dissectPacket_rawIp (packet : Packet) :
    dissectPacket linktypeRawIp packet =
      (dissectNetwork { ts := packet.timestamp } packet.data).map some := by
  rw [dissectPacket, if_neg (by decide), if_neg (by decide), if_neg (by decide)]

/-- Every packet has a row, except a frame that is too short for Ethernet. -/
theorem dissectPacket_outcome (linktype : Nat) (packet : Packet) :
    (linktype = linktypeEthernet ∧ packet.data.length < ethHeaderSize ∧
        dissectPacket linktype packet = .ok none) ∨
      ∃ row after, dissectPacket linktype packet = .ok (some after) ∧ row.ts = packet.timestamp ∧
        row.l4Proto = none ∧ Dissected row (packet.data.drop (linkHeader linktype)) after := by
  by_cases ethernet : linktype = linktypeEthernet
  · by_cases runt : packet.data.length < ethHeaderSize
    · refine .inl ⟨ethernet, runt, ?_⟩
      rw [dissectPacket, if_pos ethernet, if_pos runt]
    · subst ethernet
      right
      by_cases ipv4 : short (slice packet.data 12 14) = ethertypeIpv4
      · have reached := dissectPacket_ethernet (Nat.le_of_not_lt runt)
        rw [if_neg (not_not.mpr ipv4)] at reached
        exact dissectPacket_network reached rfl rfl
      · rw [dissectPacket_ethernet (Nat.le_of_not_lt runt), if_pos ipv4]
        exact ⟨_, _, rfl, rfl, rfl, .bare rfl rfl⟩
  · right
    by_cases loopback : linktype = linktypeLoopback
    · have reached : dissectPacket linktype packet =
          (dissectNetwork { ts := packet.timestamp }
            (packet.data.drop (linkHeader linktype))).map some := by
        rw [dissectPacket, if_neg ethernet, if_pos loopback, linkHeader, if_neg ethernet,
          if_pos loopback]
      exact dissectPacket_network reached rfl rfl
    · by_cases raw : linktype = linktypeRawIp
      · subst raw
        exact dissectPacket_network (dissectPacket_rawIp packet) rfl rfl
      · rw [dissectPacket, if_neg ethernet, if_neg loopback, if_pos raw]
        exact ⟨_, _, rfl, rfl, rfl, .bare rfl rfl⟩

end Wireline
