import Wireline.Sniff.Capture
import Wireline.Sniff.Fixture
import Wireline.Sniff.PcapWriter
import Wireline.Sniff.Reassembly
import Wireline.Reference

namespace Wireline

open Incremental

/-!
# A captured conversation

The TCP fixture sends segment after segment in both directions, and keeps the
clock, the IP identification and both sequence numbers on the way.  Here the
segments are a parameter: a script of any length, with any payloads and flags,
in any order of the two sides.

What such a conversation leaves in a file is taken apart again, packet by
packet.  Where a side's payloads are a beginning of encoded messages, cut into
segments anywhere, reassembly finds the messages that have ended.  The clock is
a sum of floats, so it is a parameter too.
-/

def clientMac : Bytes := [0x02, 0, 0, 0, 0, 0x01]
def serverMac : Bytes := [0x02, 0, 0, 0, 0, 0x02]
def clientIp : String := "10.0.0.10"
def serverIp : String := "10.0.0.20"
def clientPort : Nat := 51234
def serverPort : Nat := 9000

/-- What a segment adds to the sequence number of its sender. -/
def advance (flags : Nat) (payload : Bytes) : Nat :=
  max payload.length (if flags &&& 0x02 ≠ 0 then 1 else 0)

/-- The variables of `tcp_session`. -/
structure TcpSession where
  packets : List (ℚ × Bytes) := []
  ts : ℚ := 1757000000
  ident : Nat := 1
  cSeq : Nat := 1000
  sSeq : Nat := 5000

namespace TcpSession

section

variable (tick : ℚ -> ℚ) (session : TcpSession)

/-- What `c2s` and `s2c` have in common. -/
def put (l2Src l2Dst : Bytes) (l3Src l3Dst : String) (sport dport seq ack flags : Nat)
    (payload : Bytes) : Option TcpSession := do
  let segment <- tcp sport dport seq ack flags payload
  let datagram <- ipv4 l3Src l3Dst protoTcp segment session.ident
  some { session with
    packets := session.packets ++ [(session.ts, ethernet l2Src l2Dst datagram)]
    ts := tick session.ts
    ident := session.ident + 1 }

def c2s (flags : Nat) (payload : Bytes) : Option TcpSession := do
  let after <- session.put tick clientMac serverMac clientIp serverIp clientPort serverPort
    session.cSeq session.sSeq flags payload
  some { after with cSeq := session.cSeq + advance flags payload }

def s2c (flags : Nat) (payload : Bytes) : Option TcpSession := do
  let after <- session.put tick serverMac clientMac serverIp clientIp serverPort clientPort
    session.sSeq session.cSeq flags payload
  some { after with sSeq := session.sSeq + advance flags payload }

end

/-! ## Scripts -/

inductive Side
  | client
  | server
deriving DecidableEq, Repr

/-- One call of `c2s` or of `s2c`. -/
structure Segment where
  side : Side
  flags : Nat
  payload : Bytes := []
deriving DecidableEq, Repr

section

variable (tick : ℚ -> ℚ)

def send (session : TcpSession) (segment : Segment) : Option TcpSession :=
  match segment.side with
  | .client => session.c2s tick segment.flags segment.payload
  | .server => session.s2c tick segment.flags segment.payload

def run (script : List Segment) : Option TcpSession := script.foldlM (send tick) {}

end

/-- What a side has said. -/
def spoken (side : Side) (script : List Segment) : Bytes :=
  ((script.filter fun segment => segment.side = side).map Segment.payload).flatten

/-- What a side has advanced by. -/
def advanced (side : Side) (script : List Segment) : Nat :=
  ((script.filter fun segment => segment.side = side).map fun segment =>
    advance segment.flags segment.payload).sum

/-- What the fields of a packet have to hold. -/
structure Room (session : TcpSession) (segment : Segment) : Prop where
  ident : session.ident < 2 ^ 16
  cSeq : session.cSeq < 2 ^ 32
  sSeq : session.sSeq < 2 ^ 32
  flags : segment.flags < 256
  length : 40 + segment.payload.length < 2 ^ 16

/-- The session behind a part of a script, the packets apart. -/
def behind (session : TcpSession) (tick : ℚ -> ℚ) (script : List Segment) : TcpSession where
  packets := session.packets
  ts := tick^[script.length] session.ts
  ident := session.ident + script.length
  cSeq := session.cSeq + advanced .client script
  sSeq := session.sSeq + advanced .server script

/-- Every segment of a script has room where it is sent. -/
def Fits (session : TcpSession) (tick : ℚ -> ℚ) (script : List Segment) : Prop :=
  forall front segment rest, script = front ++ segment :: rest ->
    (session.behind tick front).Room segment

namespace Side

def mac : Side -> Bytes
  | .client => clientMac
  | .server => serverMac

def ip : Side -> String
  | .client => clientIp
  | .server => serverIp

def port : Side -> Nat
  | .client => clientPort
  | .server => serverPort

def other : Side -> Side
  | .client => .server
  | .server => .client

/-- The flow key of what a side sends. -/
def key : Side -> String
  | .client => "10.0.0.10:51234 -> 10.0.0.20:9000"
  | .server => "10.0.0.20:9000 -> 10.0.0.10:51234"

end Side

/-- The row that shows a segment as it was sent. -/
def Segment.row (segment : Segment) (ts : ℚ) : Row :=
  { ts := ts
    l2Src := mac segment.side.mac
    l2Dst := mac segment.side.other.mac
    l3Src := segment.side.ip
    l3Dst := segment.side.other.ip
    l4Proto := some .tcp
    l4Sport := segment.side.port
    l4Dport := segment.side.other.port
    l4Flags := tcpFlags segment.flags
    payloadLen := segment.payload.length
    payload := segment.payload
    l7 := tryParseWireline segment.payload }

theorem Segment.flowKey_row (segment : Segment) (ts : ℚ) :
    (segment.row ts).flowKey = segment.side.key := by
  have text : forall (side : Side) (row : Row), row.l3Src = side.ip -> row.l4Sport = side.port ->
      row.l3Dst = side.other.ip -> row.l4Dport = side.other.port -> row.flowKey = side.key := by
    intro side row l3Src l4Sport l3Dst l4Dport
    rw [Row.flowKey, l3Src, l4Sport, l3Dst, l4Dport]
    cases side <;> decide
  exact text segment.side (segment.row ts) rfl rfl rfl rfl

theorem Side.key_inj {side other : Side} (same : side.key = other.key) : side = other := by
  cases side <;> cases other <;> first | rfl | exact absurd same (by decide)

/-! ## One segment -/

theorem pack_eq_some {width value : Nat} {raw : Bytes} (packed : pack width value = some raw) :
    value < 256 ^ width := by
  rw [pack, Option.ite_none_right_eq_some] at packed
  exact packed.1

theorem length_of_pack {width value : Nat} {raw : Bytes} (packed : pack width value = some raw) :
    raw.length = width := by
  rw [pack, Option.ite_none_right_eq_some] at packed
  rw [← Option.some.inj packed.2, BigEndian.length_encode]

theorem tcp_eq_some {sport dport seq ack flags : Nat} {payload segment : Bytes}
    (built : tcp sport dport seq ack flags payload = some segment) :
    seq < 2 ^ 32 ∧ ack < 2 ^ 32 ∧ flags < 256 ∧ segment.length = 20 + payload.length := by
  simp only [tcp, bind, Option.bind_eq_some_iff, Option.some.injEq] at built
  rcases built with ⟨sport, first, dport, second, seq, third, ack, fourth, flags, fifth, rfl⟩
  refine ⟨pack_eq_some third, pack_eq_some fourth, pack_eq_some fifth, ?_⟩
  simp [length_of_pack first, length_of_pack second, length_of_pack third, length_of_pack fourth,
    length_of_pack fifth]
  omega

theorem ipv4_eq_some {src dst : String} {proto ident : Nat} {payload datagram : Bytes}
    (built : ipv4 src dst proto payload ident = some datagram) :
    20 + payload.length < 2 ^ 16 ∧ ident < 2 ^ 16 := by
  simp only [ipv4, bind, Option.bind_eq_some_iff] at built
  rcases built with ⟨_, total, _, ident, _⟩
  exact ⟨pack_eq_some total, pack_eq_some ident⟩

/-- The packet that a segment leaves. -/
structure Leaves (segment : Segment) (packet : Bytes) : Prop where
  sized : packet.length = 54 + segment.payload.length
  dissected : forall (ts : ℚ) (originalLength : Nat),
    dissectPacket linktypeEthernet ⟨ts, packet, originalLength⟩ = .ok (some (segment.row ts))

section

variable {tick : ℚ -> ℚ} {session : TcpSession}

/-- What goes into a packet is what the dissector finds in it. -/
theorem put_built (tick : ℚ -> ℚ) (session : TcpSession) (l2Src l2Dst src dst : Bytes)
    (sport dport : Nat) {payload : Bytes} {seq ack flags : Nat}
    (macs : l2Src.length = 6 ∧ l2Dst.length = 6) (addresses : src.length = 4 ∧ dst.length = 4)
    (ports : sport < 65536 ∧ dport < 65536) (seqFits : seq < 2 ^ 32) (ackFits : ack < 2 ^ 32)
    (flagsFit : flags < 256) (identFits : session.ident < 2 ^ 16)
    (fits : 40 + payload.length < 2 ^ 16) :
    ∃ packet, session.put tick l2Src l2Dst (dottedQuad src) (dottedQuad dst) sport dport seq ack
        flags payload = some { session with
          packets := session.packets ++ [(session.ts, packet)]
          ts := tick session.ts
          ident := session.ident + 1 } ∧
      packet.length = 54 + payload.length ∧
      forall (ts : ℚ) (originalLength : Nat),
        dissectPacket linktypeEthernet ⟨ts, packet, originalLength⟩ = .ok (some
          { ts := ts, l2Src := mac l2Src, l2Dst := mac l2Dst, l3Src := dottedQuad src,
            l3Dst := dottedQuad dst, l4Proto := some .tcp, l4Sport := sport, l4Dport := dport,
            l4Flags := tcpFlags flags, payloadLen := payload.length, payload := payload,
            l7 := tryParseWireline payload }) := by
  rcases tcp_states ports.1 ports.2 seqFits ackFits flagsFit payload with
    ⟨tcpHeader, segment, tcpSized, tcpStates⟩
  have sized : (tcpHeader ++ payload).length = 20 + payload.length := by
    rw [List.length_append, tcpSized]
  rcases ipv4_states (tcpHeader ++ payload) addresses.1 addresses.2
    (show protoTcp < 256 by decide) identFits (by omega) with
    ⟨header, datagram, headerSized, states⟩
  refine ⟨ethernet l2Src l2Dst (header ++ (tcpHeader ++ payload)), ?_, ?_, ?_⟩
  · rw [put, segment, Option.bind_eq_bind, Option.bind_some, datagram]
    rfl
  · simp [ethernet, octetString, headerSized, tcpSized]
    omega
  · intro ts originalLength
    have network := states.dissectNetwork_eq []
      { ts := ts, l2Src := mac l2Src, l2Dst := mac l2Dst }
    rw [List.append_nil] at network
    rw [dissectPacket_built macs.1 macs.2, network, tcpStates.dissectTransport_eq]
    rfl

/-- What has been built had room. -/
theorem put_eq_some {l2Src l2Dst payload : Bytes} {l3Src l3Dst : String}
    {sport dport seq ack flags : Nat} {after : TcpSession}
    (built : session.put tick l2Src l2Dst l3Src l3Dst sport dport seq ack flags payload =
      some after) :
    seq < 2 ^ 32 ∧ ack < 2 ^ 32 ∧ flags < 256 ∧ session.ident < 2 ^ 16 ∧
      40 + payload.length < 2 ^ 16 := by
  rw [put, Option.bind_eq_bind, Option.bind_eq_some_iff] at built
  rcases built with ⟨segment, first, built⟩
  rw [Option.bind_eq_some_iff] at built
  rcases built with ⟨datagram, second, _⟩
  have transport := tcp_eq_some first
  have network := ipv4_eq_some second
  exact ⟨transport.1, transport.2.1, transport.2.2.1, network.2, by omega⟩

variable (tick) in
/-- A segment with room leaves its packet. -/
theorem send_room {segment : Segment} (room : session.Room segment) :
    ∃ packet, Leaves segment packet ∧
      session.send tick segment = some { session.behind tick [segment] with
        packets := session.packets ++ [(session.ts, packet)] } := by
  rcases segment with ⟨side, flags, payload⟩
  have client : dottedQuad [10, 0, 0, 10] = clientIp := by decide
  have server : dottedQuad [10, 0, 0, 20] = serverIp := by decide
  cases side with
  | client =>
      rcases put_built tick session clientMac serverMac [10, 0, 0, 10] [10, 0, 0, 20] clientPort
        serverPort (by decide) (by decide) (by decide) room.cSeq room.sSeq room.flags room.ident room.length with
        ⟨packet, built, sized, dissected⟩
      rw [client, server] at built
      refine ⟨packet, ⟨sized, ?_⟩, ?_⟩
      · intro ts originalLength
        rw [dissected, client, server]
        rfl
      · rw [send]
        dsimp only
        rw [c2s, built]
        simp [behind, advanced]
  | server =>
      rcases put_built tick session serverMac clientMac [10, 0, 0, 20] [10, 0, 0, 10] serverPort
        clientPort (by decide) (by decide) (by decide) room.sSeq room.cSeq room.flags room.ident room.length with
        ⟨packet, built, sized, dissected⟩
      rw [client, server] at built
      refine ⟨packet, ⟨sized, ?_⟩, ?_⟩
      · intro ts originalLength
        rw [dissected, client, server]
        rfl
      · rw [send]
        dsimp only
        rw [s2c, built]
        simp [behind, advanced]

theorem room_of_send {segment : Segment} {next : TcpSession}
    (sent : session.send tick segment = some next) : session.Room segment := by
  rcases segment with ⟨side, flags, payload⟩
  rw [send] at sent
  cases side with
  | client =>
      dsimp only at sent
      rw [c2s, Option.bind_eq_bind, Option.bind_eq_some_iff] at sent
      rcases sent with ⟨_, built, _⟩
      rcases put_eq_some built with ⟨seq, ack, flags, ident, length⟩
      exact ⟨ident, seq, ack, flags, length⟩
  | server =>
      dsimp only at sent
      rw [s2c, Option.bind_eq_bind, Option.bind_eq_some_iff] at sent
      rcases sent with ⟨_, built, _⟩
      rcases put_eq_some built with ⟨seq, ack, flags, ident, length⟩
      exact ⟨ident, ack, seq, flags, length⟩

/-! ## Whole scripts -/

theorem advanced_cons (side : Side) (segment : Segment) (script : List Segment) :
    advanced side (segment :: script) = advanced side [segment] + advanced side script := by
  by_cases own : segment.side = side <;> simp [advanced, own]

theorem behind_cons (segment : Segment) (script : List Segment) (packets : List (ℚ × Bytes)) :
    { session.behind tick (segment :: script) with packets := packets } =
      { session.behind tick [segment] with packets := packets }.behind tick script := by
  simp [behind, advanced_cons _ segment script, Nat.add_assoc, Nat.add_comm 1]

/-- Room does not depend on what has been recorded. -/
theorem room_packets {segment : Segment} (packets : List (ℚ × Bytes)) :
    { session with packets := packets }.Room segment <-> session.Room segment :=
  ⟨fun room => ⟨room.ident, room.cSeq, room.sSeq, room.flags, room.length⟩,
    fun room => ⟨room.ident, room.cSeq, room.sSeq, room.flags, room.length⟩⟩

theorem fits_cons {segment : Segment} {script : List Segment} (packets : List (ℚ × Bytes)) :
    session.Fits tick (segment :: script) <->
      session.Room segment ∧
        { session.behind tick [segment] with packets := packets }.Fits tick script := by
  have moved (front : List Segment) (next : Segment) :
      (session.behind tick (segment :: front)).Room next <->
        ({ session.behind tick [segment] with packets := packets }.behind tick front).Room next := by
    rw [← behind_cons]
    exact (room_packets packets).symm
  constructor
  · intro fits
    refine ⟨?_, ?_⟩
    · have first := fits [] segment script rfl
      exact ⟨first.ident, first.cSeq, first.sSeq, first.flags, first.length⟩
    · rintro front next rest rfl
      exact (moved front next).mp (fits (segment :: front) next rest rfl)
  · rintro ⟨room, later⟩ front next rest same
    cases front with
    | nil =>
        cases same
        exact ⟨room.ident, room.cSeq, room.sSeq, room.flags, room.length⟩
    | cons head front =>
        cases same
        exact (moved front next).mpr (later front next rest rfl)

/-- A packet that was recorded for a segment at its time. -/
def Recorded (entry : Segment × ℚ) (packet : ℚ × Bytes) : Prop :=
  packet.1 = entry.2 ∧ Leaves entry.1 packet.2

/-- The segments of a script with their times. -/
def timed (tick : ℚ -> ℚ) (ts : ℚ) (script : List Segment) : List (Segment × ℚ) :=
  script.zip (List.iterate tick ts script.length)

variable (tick session) in
/-- A script is recorded exactly if it fits, packet by packet. -/
theorem foldlM_send (script : List Segment) :
    (session.Fits tick script -> ∃ packets,
      script.foldlM (send tick) session = some { session.behind tick script with
        packets := session.packets ++ packets } ∧
      List.Forall₂ Recorded (timed tick session.ts script) packets) ∧
      forall final, script.foldlM (send tick) session = some final -> session.Fits tick script := by
  induction script generalizing session with
  | nil =>
      refine ⟨fun _ => ⟨[], ?_, .nil⟩, ?_⟩
      · simp [behind, advanced]
      · rintro final _ front segment rest empty
        simp at empty
  | cons segment script ih =>
      constructor
      · intro fits
        have room := ((fits_cons []).mp fits).1
        rcases send_room tick room with ⟨packet, leaves, sent⟩
        have later := ((fits_cons (session.packets ++ [(session.ts, packet)])).mp fits).2
        rcases (ih _).1 later with ⟨packets, recorded, all⟩
        refine ⟨(session.ts, packet) :: packets, ?_, .cons ⟨rfl, leaves⟩ all⟩
        rw [List.foldlM_cons, sent, Option.bind_eq_bind, Option.bind_some, recorded]
        simp [behind, advanced_cons _ segment script, Nat.add_assoc, Nat.add_comm 1]
      · intro final recorded
        rw [List.foldlM_cons, Option.bind_eq_bind, Option.bind_eq_some_iff] at recorded
        rcases recorded with ⟨next, sent, recorded⟩
        have room := room_of_send sent
        rcases send_room tick room with ⟨packet, _, same⟩
        rw [same] at sent
        cases sent
        exact (fits_cons _).mpr ⟨room, (ih _).2 final recorded⟩

/-! ## From the file to the rows -/

/-- The row of a segment, at its time up to half a microsecond. -/
def Shows (entry : Segment × ℚ) (row : Row) : Prop :=
  row = entry.1.row row.ts ∧ |row.ts - entry.2| ≤ 1 / 2000000

/-- What can be written is read again, and dissected as it is read. -/
theorem exists_captured {packets : List (ℚ × Bytes)}
    (range : forall packet, packet ∈ packets -> InRange packet.1)
    (sized : forall packet, packet ∈ packets -> packet.2.length < 2 ^ 32) :
    ∃ raw yielded, writePackets packets = some raw ∧
      List.Forall₂ (ReadBack linktypeEthernet) packets yielded ∧
      forall rows, dissectAll yielded = .ok rows -> dissect raw = .ok rows := by
  have possible : ∃ raw, writePackets packets linktypeEthernet 65535 = some raw :=
    (exists_writePackets_iff range).mpr ⟨by decide, by decide, sized⟩
  rcases possible with ⟨raw, written⟩
  rcases writePackets_eq_some_iff.mp written with ⟨file, writes, rfl⟩
  refine ⟨file.octets, file.packets, written, writes.readBack, ?_⟩
  intro rows dissected
  rw [CaptureFile.packets] at dissected
  rw [dissect, readPackets_octets]
  dsimp only [CaptureFile.packets]
  rw [dissected]

/-- Packets that leave their rows whenever they are captured. -/
theorem dissectAll_readBack {α : Type} {time : α -> ℚ} {row : α -> ℚ -> Row} {entries : List α}
    {packets : List (ℚ × Bytes)} {yielded : List (Nat × Packet)}
    (stamped : forall entry ts, (row entry ts).ts = ts)
    (left : List.Forall₂ (fun entry packet => packet.1 = time entry ∧
      forall (ts : ℚ) (originalLength : Nat),
        dissectPacket linktypeEthernet ⟨ts, packet.2, originalLength⟩ = .ok (some (row entry ts)))
      entries packets)
    (read : List.Forall₂ (ReadBack linktypeEthernet) packets yielded) :
    ∃ rows, dissectAll yielded = .ok rows ∧
      List.Forall₂ (fun entry found =>
        found = row entry found.ts ∧ |found.ts - time entry| ≤ 1 / 2000000) entries rows := by
  induction left generalizing yielded with
  | nil =>
      cases read
      exact ⟨[], rfl, .nil⟩
  | @cons entry packet entries packets first _ ih =>
      rcases List.forall₂_cons_left_iff.mp read with ⟨found, others, back, later, rfl⟩
      rcases found with ⟨linktype, ts, data, originalLength⟩
      rcases ih later with ⟨rows, dissected, shown⟩
      have link : linktype = linktypeEthernet := Int.ofNat_inj.mp back.linktype
      have same : data = packet.2 := back.data
      subst link same
      refine ⟨row entry ts :: rows, ?_, .cons ⟨?_, ?_⟩ shown⟩
      · rw [dissectAll, first.2, dissected]
        rfl
      · rw [stamped]
      · have close := back.timestamp
        rw [first.1] at close
        rw [stamped]
        exact close

theorem Shows.flowKey {entry : Segment × ℚ} {row : Row} (shows : Shows entry row) :
    row.flowKey = entry.1.side.key := by
  rw [shows.1]
  exact entry.1.flowKey_row row.ts

theorem Shows.payload {entry : Segment × ℚ} {row : Row} (shows : Shows entry row) :
    row.payload = entry.1.payload := by
  rw [shows.1]
  rfl

theorem Shows.proto {entry : Segment × ℚ} {row : Row} (shows : Shows entry row) :
    row.l4Proto = some .tcp := by
  rw [shows.1]
  rfl

/-- The payloads of a direction are what its side has sent. -/
theorem payloads_shown {entries : List (Segment × ℚ)} {rows : List Row}
    (shown : List.Forall₂ Shows entries rows) (side : Side) :
    payloads side.key rows =
      ((entries.map Prod.fst).filter fun segment => segment.side = side).map Segment.payload := by
  induction shown with
  | nil => rfl
  | @cons entry row entries rows first _ ih =>
      rw [payloads] at ih ⊢
      by_cases own : entry.1.side = side
      · have key : row.flowKey = side.key := by rw [first.flowKey, own]
        simp [key, own, ih, first.payload]
      · have key : row.flowKey ≠ side.key := by
          intro same
          exact own (Side.key_inj (first.flowKey.symm.trans same))
        simp [key, own, ih]

theorem timed_fst (ts : ℚ) (script : List Segment) : (timed tick ts script).map Prod.fst = script :=
  List.map_fst_zip (by simp)

/-! ## From the rows to the messages -/

variable (digests : Digests)

/-- `seen` are the messages of a stream that end within the part of it. -/
def Ended (secret part : Bytes) (frames seen : List Frame) : Prop :=
  ∃ later front rest, frames = seen ++ later ∧ join digests secret seen = .ok front ∧
    part = front ++ rest ∧ forall frame raw, frame ∈ later.head? ->
      encode digests frame secret = .ok raw -> rest.length < raw.length

/-- Joined frames are items of an observer. -/
theorem items_of_join {secret data : Bytes} {frames : List Frame}
    (joined : join digests secret frames = .ok data) :
    ∃ items : List (Frame × Bytes), items.map Prod.fst = frames ∧
      (items.map Prod.snd).flatten = data ∧
      forall item, item ∈ items -> encode digests item.1 secret = .ok item.2 := by
  induction frames generalizing data with
  | nil =>
      cases joined
      exact ⟨[], rfl, rfl, fun item none => absurd none List.not_mem_nil⟩
  | cons frame frames ih =>
      rcases join_cons digests joined with ⟨raw, rest, encoded, others, rfl⟩
      rcases ih others with ⟨items, rfl, rfl, all⟩
      refine ⟨(frame, raw) :: items, rfl, rfl, ?_⟩
      intro item member
      rcases List.mem_cons.mp member with rfl | later
      · exact encoded
      · exact all item later

theorem join_of_items {secret : Bytes} {items : List (Frame × Bytes)}
    (encoded : forall item, item ∈ items -> encode digests item.1 secret = .ok item.2) :
    join digests secret (items.map Prod.fst) = .ok (items.map Prod.snd).flatten := by
  induction items with
  | nil => rfl
  | cons item items ih =>
      have others := ih fun other member => encoded other (List.mem_cons_of_mem item member)
      rw [List.map_cons, join, encoded item List.mem_cons_self, others]
      rfl

/-- An observer of a part of a stream finds the messages that have ended, and
no error. -/
theorem scan_ended {secret part data : Bytes} {frames : List Frame}
    (joined : join digests secret frames = .ok data) (opening : part <+: data) :
    ((frameScanner digests none).scan part).stop = none ∧
      Ended digests secret part frames
        (((frameScanner digests none).scan part).items.map Prod.fst) := by
  rcases items_of_join digests joined with ⟨items, rfl, rfl, encoded⟩
  have complete := fun item member => observed_of_encode digests (encoded item member)
  rcases (frameScanner digests none).scan_part complete opening with
    ⟨seen, later, rest, rfl, rfl, scanned, short⟩
  have front := join_of_items digests fun item member =>
    encoded item (List.mem_append_left later member)
  rw [scanned]
  refine ⟨rfl, later.map Prod.fst, _, rest, List.map_append, front, rfl, ?_⟩
  intro frame raw next own
  cases later with
  | nil => cases next
  | cons item later =>
      cases next
      have size := short item rfl
      have same := encoded item (List.mem_append_right _ List.mem_cons_self)
      rw [own] at same
      cases same
      exact size

/-- A flow is listed as soon as one of its packets has a payload. -/
theorem isSome_frames_run (flows : Flows) (rows : List Row) (key : String) :
    ((flows.run digests rows).frames key).isSome <->
      (flows.frames key).isSome ∨
        ∃ row, row ∈ rows ∧ ¬ (row.payload = [] ∨ row.l4Proto = none) ∧ row.flowKey = key := by
  induction rows generalizing flows with
  | nil => simp [Flows.run]
  | cons row rows ih =>
      have followed : ((flows.follow digests row).frames key).isSome <->
          (flows.frames key).isSome ∨
            ¬ (row.payload = [] ∨ row.l4Proto = none) ∧ row.flowKey = key := by
        unfold Flows.follow
        split
        · rename_i skipped
          simp [skipped]
        · rename_i loaded
          by_cases own : row.flowKey = key
          · simp [loaded, own]
          · have elsewhere : key ≠ row.flowKey := fun same => own same.symm
            simp [own, Function.update_of_ne elsewhere]
      have later := ih (flows.follow digests row)
      rw [followed] at later
      change ((((flows.follow digests row).run digests rows).frames key).isSome <-> _)
      rw [later, or_assoc]
      refine or_congr_right ?_
      simp only [List.mem_cons, exists_eq_or_imp]

theorem isSome_reassembleFlows (rows : List Row) (key : String) :
    (reassembleFlows digests rows key).isSome <->
      ∃ row, row ∈ rows ∧ ¬ (row.payload = [] ∨ row.l4Proto = none) ∧ row.flowKey = key := by
  have fresh : ¬ (Flows.start.frames key).isSome := by simp [Flows.start]
  rw [reassembleFlows, isSome_frames_run, or_iff_right fresh]

/-- The flows of a capture are those of the sides that have said something. -/
theorem isSome_reassembled {entries : List (Segment × ℚ)} {rows : List Row}
    (shown : List.Forall₂ Shows entries rows) (key : String) :
    (reassembleFlows digests rows key).isSome <->
      ∃ segment, segment ∈ entries.map Prod.fst ∧ segment.payload ≠ [] ∧
        key = segment.side.key := by
  have matched : List.Forall₂ (fun segment row => ∃ ts, Shows (segment, ts) row)
      (entries.map Prod.fst) rows :=
    List.forall₂_map_left_iff.mpr (shown.imp fun entry row shows => ⟨entry.2, shows⟩)
  rw [isSome_reassembleFlows]
  apply (Sequences.exists_mem_congr matched _).symm
  rintro segment row ⟨ts, shows⟩
  rw [Shows.payload shows, Shows.proto shows, Shows.flowKey shows]
  simp [eq_comm]

/-- For a side whose octets begin a row of encoded frames, the analyser returns
the frames that have ended. -/
theorem reassembled_ended {entries : List (Segment × ℚ)} {rows : List Row}
    (shown : List.Forall₂ Shows entries rows) (side : Side) {secret data : Bytes}
    {frames : List Frame} (joined : join digests secret frames = .ok data)
    (opening : spoken side (entries.map Prod.fst) <+: data) :
    Ended digests secret (spoken side (entries.map Prod.fst)) frames
      ((reassembleFlows digests rows side.key).getD []) := by
  have tcp : forall row, row ∈ rows -> row.l4Proto = some .tcp := by
    intro row member
    rcases Sequences.exists_forall₂_iff.mp ⟨_, List.Forall₂.flip shown⟩ row member with
      ⟨entry, shows⟩
    exact Shows.proto shows
  let chunks := (payloads side.key rows).filter (· ≠ [])
  have carried : chunks.flatten = spoken side (entries.map Prod.fst) := by
    rw [List.flatten_filter_ne_nil, payloads_shown shown, spoken]
  have scanned := scan_ended digests joined opening
  rw [← carried] at scanned ⊢
  have followed := ((frameScanner digests none).restarting_eq_scan_iff (Scanner.next_nil _)
    chunks).mpr ((frameScanner digests none).unresumed_of_sound scanned.1)
  have flow := (Flows.run_flow digests Flows.keyless_start side.key rows).2
  rw [pieces_of_tcp tcp] at flow
  have reported : (reassembleFlows digests rows side.key).getD [] =
      ((frameScanner digests none).scan chunks.flatten).items.map Prod.fst := flow.trans followed
  rw [reported]
  exact scanned.2

/-! ## From the script to the messages -/

variable (tick) in
/-- The identification runs out before a sequence number does. -/
theorem fits_iff {script : List Segment} :
    Fits {} tick script <->
      script.length < 2 ^ 16 ∧ forall segment, segment ∈ script ->
        segment.flags < 256 ∧ 40 + segment.payload.length < 2 ^ 16 := by
  constructor
  · intro fits
    refine ⟨?_, ?_⟩
    · rcases List.eq_nil_or_concat script with rfl | ⟨front, segment, rfl⟩
      · decide
      · have room := (fits front segment [] (by simp)).ident
        simp [behind] at room
        simp
        omega
    · intro segment member
      rcases List.append_of_mem member with ⟨front, rest, same⟩
      have room := fits front segment rest same
      exact ⟨room.flags, room.length⟩
  · rintro ⟨few, small⟩ front segment rest rfl
    have bound (side : Side) : advanced side front ≤ front.length * 65495 := by
      have each : forall gain, gain ∈ ((front.filter fun segment => segment.side = side).map
          fun segment => advance segment.flags segment.payload) -> gain ≤ 65495 := by
        intro gain member
        rcases List.mem_map.mp member with ⟨other, inside, rfl⟩
        have own := (small other (List.mem_append_left _ (List.mem_of_mem_filter inside))).2
        have synchronise : (if other.flags &&& 0x02 ≠ 0 then 1 else 0) ≤ 65495 := by split <;> omega
        exact Nat.max_le.mpr ⟨by omega, synchronise⟩
      have total := List.sum_le_card_nsmul _ _ each
      have shorter := List.length_filter_le (fun segment => decide (segment.side = side)) front
      rw [List.length_map, smul_eq_mul] at total
      exact total.trans (Nat.mul_le_mul_right _ shorter)
    have client := bound .client
    have server := bound .server
    have own := small segment (List.mem_append_right _ List.mem_cons_self)
    rw [List.length_append, List.length_cons] at few
    constructor
    · change 1 + front.length < 2 ^ 16
      omega
    · change 1000 + advanced .client front < 2 ^ 32
      omega
    · change 5000 + advanced .server front < 2 ^ 32
      omega
    · exact own.1
    · exact own.2

end

/-- A script is recorded exactly if no number leaves its field.  The file is
then dissected into one row for each segment, and the messages of a side are
found as far as they have ended, however the segments cut them. -/
theorem captured (digests : Digests) (tick : ℚ -> ℚ) (script : List Segment)
    (clock : forall ts, ts ∈ List.iterate tick 1757000000 script.length -> InRange ts) :
    ((∃ session, run tick script = some session) <->
      script.length < 2 ^ 16 ∧ forall segment, segment ∈ script ->
        segment.flags < 256 ∧ 40 + segment.payload.length < 2 ^ 16) ∧
      forall session, run tick script = some session -> ∃ raw rows,
        writePackets session.packets = some raw ∧ dissect raw = .ok rows ∧
        List.Forall₂ Shows (timed tick 1757000000 script) rows ∧
        (forall key, (reassembleFlows digests rows key).isSome <->
          ∃ segment, segment ∈ script ∧ segment.payload ≠ [] ∧ key = segment.side.key) ∧
        forall side secret frames data, join digests secret frames = .ok data ->
          spoken side script <+: data ->
            Ended digests secret (spoken side script) frames
              ((reassembleFlows digests rows side.key).getD []) := by
  have sent := foldlM_send tick {} script
  refine ⟨?_, ?_⟩
  · rw [← fits_iff tick]
    constructor
    · rintro ⟨session, recorded⟩
      exact sent.2 session recorded
    · intro fits
      rcases sent.1 fits with ⟨packets, recorded, _⟩
      exact ⟨_, recorded⟩
  · intro session ran
    rcases sent.1 (sent.2 session ran) with ⟨packets, again, recorded⟩
    have same : session.packets = packets := by
      rw [run, again] at ran
      rw [← Option.some.inj ran]
      rfl
    have times : (timed tick 1757000000 script).map Prod.snd =
        List.iterate tick 1757000000 script.length := List.map_snd_zip (by simp)
    have small := ((fits_iff tick).mp (sent.2 session ran)).2
    have segments : (timed tick 1757000000 script).map Prod.fst = script := timed_fst _ _
    have range : forall packet, packet ∈ packets -> InRange packet.1 := by
      intro packet member
      rcases Sequences.exists_mem_of_forall₂ recorded member with ⟨entry, inside, ts, _⟩
      rw [ts]
      exact clock entry.2 (times ▸ List.mem_map_of_mem inside)
    have sized : forall packet, packet ∈ packets -> packet.2.length < 2 ^ 32 := by
      intro packet member
      rcases Sequences.exists_mem_of_forall₂ recorded member with ⟨entry, inside, _, leaves⟩
      have length := (small entry.1 (segments ▸ List.mem_map_of_mem inside)).2
      rw [leaves.sized]
      omega
    rcases exists_captured range sized with ⟨raw, yielded, written, read, dissects⟩
    have leaving := recorded.imp fun entry packet (own : Recorded entry packet) =>
      And.intro own.1 own.2.dissected
    rcases dissectAll_readBack (fun entry ts => rfl) leaving read with ⟨rows, dissected, shown⟩
    refine ⟨raw, rows, ?_, dissects rows dissected, shown, ?_, ?_⟩
    · rw [same]
      exact written
    · intro key
      rw [isSome_reassembled digests shown, segments]
    · intro side secret frames data joined opening
      have ended := reassembled_ended digests shown side joined
      rw [segments] at ended
      exact ended opening

/-! ## The fixture -/

/-- At the end of the stream every message has ended. -/
theorem Ended.all {digests : Digests} {secret data : Bytes} {frames seen : List Frame}
    (ended : Ended digests secret data frames seen)
    (joined : join digests secret frames = .ok data) : seen = frames := by
  rcases ended with ⟨later, front, rest, rfl, own, rfl, short⟩
  rcases join_split digests own joined with ⟨others, same, remaining⟩
  rw [← List.append_cancel_left same] at remaining
  cases later with
  | nil => exact (List.append_nil seen).symm
  | cons frame later =>
      rcases join_cons digests remaining with ⟨raw, behind, encoded, _, rfl⟩
      have size := short frame raw rfl encoded
      rw [List.length_append] at size
      omega

def fixtureSecret : Bytes := Json.utf8 "fixture-secret".toList
def fixtureText : Bytes := Json.utf8 "payload that crosses a segment boundary".toList

def fixtureHello (nonce : Nonce) : Frame := ⟨.hello, 0, encodeHello "capture" nonce.text, 0⟩
def fixtureHelloAck (nonce : Nonce) : Frame := ⟨.helloAck, 0, encodeHelloAck "cap01" nonce.text, 0⟩
def fixtureData : Frame := ⟨.data, 1, fixtureText, 0⟩
def fixtureBye : Frame := ⟨.bye, 2, [], 0⟩

/-- The calls of `tcp_session`.  One DATA frame is split across two segments. -/
def tcpScript (digests : Digests) (nonce ackNonce : Nonce) :
    Except ProtocolError (List Segment) := do
  let hello <- encode digests (fixtureHello nonce) fixtureSecret
  let helloAck <- encode digests (fixtureHelloAck ackNonce) fixtureSecret
  let data <- encode digests fixtureData fixtureSecret
  let bye <- encode digests fixtureBye fixtureSecret
  .ok [⟨.client, 0x02, []⟩, ⟨.server, 0x12, []⟩, ⟨.client, 0x10, []⟩, ⟨.client, 0x18, hello⟩,
    ⟨.server, 0x18, helloAck⟩, ⟨.client, 0x18, data.take 30⟩, ⟨.client, 0x18, data.drop 30⟩,
    ⟨.server, 0x18, data⟩, ⟨.client, 0x18, bye⟩, ⟨.server, 0x11, []⟩, ⟨.client, 0x10, []⟩]

theorem captured_fixture : ∃ script session raw rows,
    tcpScript Reference.runtime.toDigests Reference.nonce Reference.nonce = .ok script ∧
      run (· + 1 / 2000) script = some session ∧ writePackets session.packets = some raw ∧
      dissect raw = .ok rows ∧
      (reassembleFlows Reference.runtime.toDigests rows Side.client.key).getD [] =
        [fixtureHello Reference.nonce, fixtureData, fixtureBye] ∧
      (reassembleFlows Reference.runtime.toDigests rows Side.server.key).getD [] =
        [fixtureHelloAck Reference.nonce, fixtureData] := by
  let digests := Reference.runtime.toDigests
  have encodes (frame : Frame) (checks : Encodable frame) (small : frame.payload.length < 1000) :
      ∃ raw, encode digests frame fixtureSecret = .ok raw ∧ raw.length < 2000 := by
    rcases exists_encode digests checks fixtureSecret with ⟨raw, encoded⟩
    have sized := length_of_encode digests encoded
    have header : headerSize + macSize < 1000 := by decide
    exact ⟨raw, encoded, by omega⟩
  rcases encodes (fixtureHello Reference.nonce) (by decide) (by decide) with ⟨hello, one, oneSmall⟩
  rcases encodes (fixtureHelloAck Reference.nonce) (by decide) (by decide) with ⟨ack, two, twoSmall⟩
  rcases encodes fixtureData (by decide) (by decide) with ⟨data, three, threeSmall⟩
  rcases encodes fixtureBye (by decide) (by decide) with ⟨bye, four, fourSmall⟩
  let script : List Segment :=
    [⟨.client, 0x02, []⟩, ⟨.server, 0x12, []⟩, ⟨.client, 0x10, []⟩, ⟨.client, 0x18, hello⟩,
      ⟨.server, 0x18, ack⟩, ⟨.client, 0x18, data.take 30⟩, ⟨.client, 0x18, data.drop 30⟩,
      ⟨.server, 0x18, data⟩, ⟨.client, 0x18, bye⟩, ⟨.server, 0x11, []⟩, ⟨.client, 0x10, []⟩]
  have scripted : tcpScript digests Reference.nonce Reference.nonce = .ok script := by
    rw [tcpScript, one, two, three, four]
    rfl
  have clock : forall ts, ts ∈ List.iterate (· + 1 / 2000) (1757000000 : ℚ) script.length ->
      InRange ts := by
    simp only [script, List.length_cons, List.length_nil, List.iterate, List.forall_mem_cons, InRange]
    norm_num
  have main := captured digests (· + 1 / 2000) script clock
  have room : script.length < 2 ^ 16 ∧ forall segment, segment ∈ script ->
      segment.flags < 256 ∧ 40 + segment.payload.length < 2 ^ 16 := by
    refine ⟨by simp [script], ?_⟩
    simp [script]
    omega
  rcases main.1.mpr room with ⟨session, ran⟩
  rcases main.2 session ran with ⟨raw, rows, written, dissected, _, _, followed⟩
  have whole : data.take 30 ++ (data.drop 30 ++ bye) = data ++ bye := by
    rw [← List.append_assoc, List.take_append_drop]
  have client : join digests fixtureSecret
      [fixtureHello Reference.nonce, fixtureData, fixtureBye] = .ok (spoken .client script) := by
    simp [join, one, three, four, spoken, script, bind, Except.bind, whole]
  have server : join digests fixtureSecret [fixtureHelloAck Reference.nonce, fixtureData] =
      .ok (spoken .server script) := by
    simp [join, two, three, spoken, script, bind, Except.bind]
  exact ⟨script, session, raw, rows, scripted, ran, written, dissected,
    (followed .client _ _ _ client List.prefix_rfl).all client,
    (followed .server _ _ _ server List.prefix_rfl).all server⟩

end TcpSession

end Wireline
