import Wireline.Sniff.Conversation
import Wireline.Sniff.Report
import Wireline.Udp.Datagrams

namespace Wireline

open Incremental

/-!
# Captured datagrams

The UDP fixture is a request and its reply.  Here the datagrams are any, from
any number of parties, and only what a receiver with the right key asks of them
is assumed: each splits into frames.

Then the two views of the analyser have nothing to differ about.  No message
crosses a packet, so what is found packet by packet is what is reassembled, and
both are what the receivers have read.
-/

/-- The flow that goes from one end to the other. -/
def Ends.key (ends : Ends) : String :=
  s!"{dottedQuad ends.l3Src}:{ends.sport.toNat} -> {dottedQuad ends.l3Dst}:{ends.dport.toNat}"

/-- A datagram, and the packet around it. -/
structure Sending where
  ts : ℚ
  ends : Ends
  ident : UInt16
  payload : Bytes

namespace Sending

def packet (sending : Sending) : Option (ℚ × Bytes) := do
  let segment <- udp sending.ends.sport.toNat sending.ends.dport.toNat sending.payload
  let datagram <- ipv4 (dottedQuad sending.ends.l3Src) (dottedQuad sending.ends.l3Dst) protoUdp
    segment sending.ident.toNat
  some (sending.ts, ethernet sending.ends.l2Src sending.ends.l2Dst datagram)

/-- The row that shows a datagram as it was sent. -/
def row (sending : Sending) (ts : ℚ) : Row :=
  { Transport.udp.row sending.ends sending.payload ts with
    l2Src := mac sending.ends.l2Src, l2Dst := mac sending.ends.l2Dst }

/-- The packet that a datagram leaves. -/
structure Leaves (sending : Sending) (packet : ℚ × Bytes) : Prop where
  ts : packet.1 = sending.ts
  sized : packet.2.length = 42 + sending.payload.length
  dissected : forall (ts : ℚ) (originalLength : Nat),
    dissectPacket linktypeEthernet ⟨ts, packet.2, originalLength⟩ = .ok (some (sending.row ts))

theorem packet_room {sending : Sending} (room : 28 + sending.payload.length < 2 ^ 16) :
    ∃ packet, sending.packet = some packet ∧ sending.Leaves packet := by
  have small : Transport.udp.headerSize + sending.payload.length < 65536 := by
    simp only [Transport.headerSize]
    omega
  rcases Transport.udp.built sending.ends sending.payload small with
    ⟨segment, built, sized, dissected⟩
  simp only [Transport.headerSize] at sized
  rcases ipv4_states segment sending.ends.addressSized.1 sending.ends.addressSized.2
    (show Transport.udp.proto < 256 by decide) sending.ident.toNat_lt (by omega) with
    ⟨header, datagram, headerSized, states⟩
  refine ⟨(sending.ts, ethernet sending.ends.l2Src sending.ends.l2Dst (header ++ segment)), ?_,
    rfl, ?_, ?_⟩
  · change udp _ _ _ = _ at built
    change ipv4 _ _ protoUdp _ _ = _ at datagram
    rw [packet, built, Option.bind_eq_bind, Option.bind_some, datagram]
    rfl
  · simp [ethernet, octetString, headerSized, sized]
    omega
  · intro ts originalLength
    have undone := (states.undone dissected ts [] originalLength).2
    rw [List.append_nil] at undone
    exact undone

theorem room_of_packet {sending : Sending} {packet : ℚ × Bytes}
    (built : sending.packet = some packet) : 28 + sending.payload.length < 2 ^ 16 := by
  rw [Sending.packet, Option.bind_eq_bind, Option.bind_eq_some_iff] at built
  rcases built with ⟨segment, first, built⟩
  rw [Option.bind_eq_some_iff] at built
  rcases built with ⟨datagram, second, _⟩
  have network := (TcpSession.ipv4_eq_some second).1
  simp only [udp, bind, Option.bind_eq_some_iff, Option.some.injEq] at first
  rcases first with ⟨sport, one, dport, two, length, three, rfl⟩
  simp [TcpSession.length_of_pack one, TcpSession.length_of_pack two,
    TcpSession.length_of_pack three] at network
  omega

/-- A capture of datagrams can be recorded exactly if each of them fits its
packet. -/
theorem mapM_packet (sendings : List Sending) :
    ((forall sending, sending ∈ sendings -> 28 + sending.payload.length < 2 ^ 16) -> ∃ packets,
      sendings.mapM packet = some packets ∧ List.Forall₂ Leaves sendings packets) ∧
      forall packets, sendings.mapM packet = some packets ->
        forall sending, sending ∈ sendings -> 28 + sending.payload.length < 2 ^ 16 := by
  induction sendings with
  | nil => exact ⟨fun _ => ⟨[], rfl, .nil⟩, fun _ _ sending none => absurd none List.not_mem_nil⟩
  | cons sending sendings ih =>
      constructor
      · intro fits
        rcases List.forall_mem_cons.mp fits with ⟨room, others⟩
        rcases packet_room room with ⟨packet, built, leaves⟩
        rcases ih.1 others with ⟨packets, recorded, all⟩
        refine ⟨packet :: packets, ?_, .cons leaves all⟩
        rw [List.mapM_cons, built, recorded]
        rfl
      · intro packets recorded
        rw [List.mapM_cons, Option.bind_eq_bind, Option.bind_eq_some_iff] at recorded
        rcases recorded with ⟨packet, built, recorded⟩
        rw [Option.bind_eq_bind, Option.bind_eq_some_iff] at recorded
        rcases recorded with ⟨others, remaining, _⟩
        exact List.forall_mem_cons.mpr ⟨room_of_packet built, ih.2 others remaining⟩

end Sending

/-! ## What a receiver splits, an observer finds -/

section

variable (digests : Digests)

/-- A receiver with some key splits the datagram into the frames. -/
def SplitsInto (data : Bytes) (frames : List Frame) : Prop :=
  ∃ secret, splitDatagram digests data secret = .ok frames

variable {digests}

theorem SplitsInto.scan {data : Bytes} {frames : List Frame}
    (split : SplitsInto digests data frames) :
    ((frameScanner digests none).scan data).items.map Prod.fst = frames ∧
      ((frameScanner digests none).scan data).stop = none ∧
      ((frameScanner digests none).scan data).rest = [] := by
  rcases split with ⟨secret, split⟩
  rcases TcpSession.items_of_join digests ((splitDatagram_ok_iff digests).mp split) with
    ⟨items, rfl, rfl, encoded⟩
  have complete := fun item member => observed_of_encode digests (encoded item member)
  have scanned := (frameScanner digests none).scan_flatten complete []
  rw [List.append_nil, Scanner.scan_more _ (Scanner.next_nil _)] at scanned
  rw [scanned]
  simp [Scan.after]

/-- Packet by packet. -/
theorem SplitsInto.tryParse {data : Bytes} {frames : List Frame}
    (split : SplitsInto digests data frames) :
    tryParseWireline data = frames.map Frame.info := by
  rw [tryParseWireline_eq_scan, ← split.scan.1]
  apply ((observer_stricter digests).items_eq_iff data).mpr
  intro error stopped
  rw [split.scan.2.1] at stopped
  cases stopped

/-- A row that shows a datagram, and in it the frames that a receiver finds. -/
structure ShowsFrames (entry : Sending × List Frame) (row : Row) : Prop where
  shown : row = { entry.1.row row.ts with l7 := entry.2.map Frame.info }
  time : |row.ts - entry.1.ts| ≤ 1 / 2000000

theorem ShowsFrames.flowKey {entry : Sending × List Frame} {row : Row}
    (shows : ShowsFrames entry row) : row.flowKey = entry.1.ends.key := by
  rw [shows.shown]
  rfl

theorem ShowsFrames.payload {entry : Sending × List Frame} {row : Row}
    (shows : ShowsFrames entry row) : row.payload = entry.1.payload := by
  rw [shows.shown]
  rfl

theorem ShowsFrames.proto {entry : Sending × List Frame} {row : Row}
    (shows : ShowsFrames entry row) : row.l4Proto = some .udp := by
  rw [shows.shown]
  rfl

variable (digests) in
/-- Direction by direction. -/
theorem reassembled_datagrams {entries : List (Sending × List Frame)} {rows : List Row}
    (shown : List.Forall₂ ShowsFrames entries rows)
    (split : forall entry, entry ∈ entries -> SplitsInto digests entry.1.payload entry.2)
    (key : String) :
    ((frameScanner digests none).restarting [] ((pieces key rows).map Piece.symbols)).map Prod.fst =
      (entries.filter fun entry => entry.1.ends.key = key).flatMap Prod.snd := by
  induction shown with
  | nil => rfl
  | @cons entry row entries rows first _ ih =>
      rcases List.forall_mem_cons.mp split with ⟨own, others⟩
      have later := ih others
      have flow := first.flowKey
      have payload := first.payload
      have proto := first.proto
      by_cases same : entry.1.ends.key = key
      · rw [List.filter_cons, if_pos (decide_eq_true same), List.flatMap_cons]
        by_cases silent : entry.1.payload = []
        · have unfed : row.piece key = none := by simp [Row.piece, payload, silent]
          have nothing := own.scan.1
          rw [silent, Scanner.scan_more _ (Scanner.next_nil _)] at nothing
          rw [pieces, List.filterMap_cons_none unfed, ← nothing]
          exact later
        · have fed : row.piece key = some (.datagram row.payload) :=
            Flows.piece_eq_some.mpr ⟨flow.trans same, payload ▸ silent, .inr ⟨proto, rfl⟩⟩
          have empty : (frameScanner digests none).heldAfter [] entry.1.payload = [] := by
            rw [Scanner.heldAfter_waiting _ own.scan.2.1]
            exact own.scan.2.2
          rw [pieces_cons fed, List.map_cons, Scanner.restarting, List.map_append]
          change ((frameScanner digests none).scan row.payload).items.map Prod.fst ++
            ((frameScanner digests none).restarting ((frameScanner digests none).heldAfter []
              row.payload) _).map Prod.fst = _
          rw [payload, own.scan.1, empty, later]
      · have unfed : row.piece key = none := by
          rw [Row.piece, if_neg]
          rintro ⟨here, _⟩
          exact same (flow.symm.trans here)
        rw [List.filter_cons, if_neg (by simpa using same), pieces, List.filterMap_cons_none unfed]
        exact later

variable (digests) in
/-- The flows of a capture are those of the datagrams that are not empty. -/
theorem isSome_datagrams {entries : List (Sending × List Frame)} {rows : List Row}
    (shown : List.Forall₂ ShowsFrames entries rows) (key : String) :
    (reassembleFlows digests rows key).isSome <->
      ∃ entry, entry ∈ entries ∧ entry.1.payload ≠ [] ∧ key = entry.1.ends.key := by
  rw [TcpSession.isSome_reassembleFlows]
  apply (Sequences.exists_mem_congr shown _).symm
  intro entry row shows
  rw [shows.flowKey, shows.payload, shows.proto]
  simp [eq_comm]

/-- The rows of what was recorded. -/
theorem dissectAll_sendings {entries : List (Sending × List Frame)} {packets : List (ℚ × Bytes)}
    {yielded : List (Nat × Packet)}
    (split : forall entry, entry ∈ entries -> SplitsInto digests entry.1.payload entry.2)
    (recorded : List.Forall₂ Sending.Leaves (entries.map Prod.fst) packets)
    (read : List.Forall₂ (ReadBack linktypeEthernet) packets yielded) :
    ∃ rows, dissectAll yielded = .ok rows ∧ List.Forall₂ ShowsFrames entries rows := by
  have leaving := (List.forall₂_and_left _ _).mpr ⟨split, List.forall₂_map_left_iff.mp recorded⟩
  have left := leaving.imp fun entry packet own => And.intro own.2.ts own.2.dissected
  rcases TcpSession.dissectAll_readBack (fun _ _ => rfl) left read with ⟨rows, dissected, shown⟩
  refine ⟨rows, dissected, ?_⟩
  refine ((List.forall₂_and_left _ _).mpr ⟨split, shown⟩).imp fun entry row own => ⟨?_, own.2.2⟩
  have found : (entry.1.row row.ts).l7 = entry.2.map Frame.info := own.1.tryParse
  rw [← found]
  exact own.2.1

theorem names_shown {entries : List (Sending × List Frame)} {rows : List Row}
    (shown : List.Forall₂ ShowsFrames entries rows) :
    (rows.flatMap fun row => row.l7.map WirelineInfo.msgType) =
      (entries.flatMap Prod.snd).map fun frame => frame.msgType.name := by
  induction shown with
  | nil => rfl
  | @cons entry row entries rows first _ ih =>
      have own : row.l7.map WirelineInfo.msgType = entry.2.map fun frame => frame.msgType.name := by
        rw [first.shown, List.map_map]
        rfl
      rw [List.flatMap_cons, List.flatMap_cons, List.map_append, own, ih]

end

/-- Datagrams can be recorded exactly if each of them fits its packet.  If the
times fit the file and some receiver splits each of them, whatever its key,
then the analyser finds in each packet the frames that its receiver finds,
counts them all by their types, and reassembles each direction to the frames of
its datagrams, in order. -/
theorem datagrams_captured (digests : Digests) (entries : List (Sending × List Frame)) :
    ((∃ packets, (entries.map Prod.fst).mapM Sending.packet = some packets) <->
      forall entry, entry ∈ entries -> 28 + entry.1.payload.length < 2 ^ 16) ∧
      forall packets, (entries.map Prod.fst).mapM Sending.packet = some packets ->
        (forall entry, entry ∈ entries -> InRange entry.1.ts) ->
        (forall entry, entry ∈ entries -> SplitsInto digests entry.1.payload entry.2) -> ∃ raw rows,
        writePackets packets = some raw ∧ dissect raw = .ok rows ∧
        List.Forall₂ ShowsFrames entries rows ∧
        (forall key, (reassembleFlows digests rows key).isSome <->
          ∃ entry, entry ∈ entries ∧ entry.1.payload ≠ [] ∧ key = entry.1.ends.key) ∧
        (forall key, (reassembleFlows digests rows key).getD [] =
          (entries.filter fun entry => entry.1.ends.key = key).flatMap Prod.snd) ∧
        let names := (entries.flatMap Prod.snd).map fun frame => frame.msgType.name
        summarise rows = names.eraseDups.map fun name => (name, names.count name) := by
  have recording := Sending.mapM_packet (entries.map Prod.fst)
  rw [List.forall_mem_map] at recording
  refine ⟨⟨?_, ?_⟩, ?_⟩
  · rintro ⟨packets, recorded⟩
    exact recording.2 packets recorded
  · intro fits
    rcases recording.1 fits with ⟨packets, recorded, _⟩
    exact ⟨packets, recorded⟩
  · intro packets recorded range split
    have fits := recording.2 packets recorded
    rcases recording.1 fits with ⟨others, again, leaves⟩
    rw [recorded] at again
    cases again
    have owner : forall packet, packet ∈ packets ->
        ∃ entry, entry ∈ entries ∧ entry.1.Leaves packet := by
      intro packet member
      rcases Sequences.exists_mem_of_forall₂ leaves member with ⟨sending, inside, left⟩
      rcases List.mem_map.mp inside with ⟨entry, own, rfl⟩
      exact ⟨entry, own, left⟩
    have times : forall packet, packet ∈ packets -> InRange packet.1 := by
      intro packet member
      rcases owner packet member with ⟨entry, inside, left⟩
      rw [left.ts]
      exact range entry inside
    have sized : forall packet, packet ∈ packets -> packet.2.length < 2 ^ 32 := by
      intro packet member
      rcases owner packet member with ⟨entry, inside, left⟩
      have room := fits entry inside
      rw [left.sized]
      omega
    rcases TcpSession.exists_captured times sized with ⟨raw, yielded, written, read, dissects⟩
    rcases dissectAll_sendings split leaves read with ⟨rows, dissected, shown⟩
    refine ⟨raw, rows, written, dissects rows dissected, shown, ?_, ?_, ?_⟩
    · exact isSome_datagrams digests shown
    · intro key
      exact ((Flows.run_flow digests Flows.keyless_start key rows).2).trans
        (reassembled_datagrams digests shown split key)
    · rw [summarise, names_shown shown, foldl_countOne]

/-! ## The fixture -/

def udpClient : Ends := { fixtureEnds with sport := 51235, dport := 9001 }

def udpServer : Ends where
  l2Src := serverMac
  l2Dst := clientMac
  l3Src := [10, 0, 0, 20]
  l3Dst := [10, 0, 0, 10]
  sport := 9001
  dport := 51235
  macSized := by decide
  addressSized := by decide

def udpProbe : Bytes := Json.utf8 "udp probe".toList
def udpRequest : Frame := ⟨.ping, 0, udpProbe, 0x01⟩
def udpReply : Frame := ⟨.pong, 0, udpProbe, 0⟩

/-- The packets of `udp_session`. -/
def udpSession (digests : Digests) : Except ProtocolError (List Sending) := do
  let request <- encode digests udpRequest TcpSession.fixtureSecret
  let reply <- encode digests udpReply TcpSession.fixtureSecret
  .ok [⟨1757000100, udpClient, 100, request⟩, ⟨1757000100 + 1 / 1000, udpServer, 101, reply⟩]

theorem datagrams_captured_probe : ∃ sendings packets raw rows,
    udpSession Reference.runtime.toDigests = .ok sendings ∧
      sendings.mapM Sending.packet = some packets ∧ writePackets packets = some raw ∧
      dissect raw = .ok rows ∧
      rows.map Row.l7 = [[⟨"PING", 0, 9, 1⟩], [⟨"PONG", 0, 9, 0⟩]] ∧
      (reassembleFlows Reference.runtime.toDigests rows "10.0.0.10:51235 -> 10.0.0.20:9001").getD
        [] = [udpRequest] ∧
      summarise rows = [("PING", 1), ("PONG", 1)] := by
  let digests := Reference.runtime.toDigests
  have request : Encodable udpRequest := by decide
  have reply : Encodable udpReply := by decide
  rcases exists_encode digests request TcpSession.fixtureSecret with ⟨asked, one⟩
  rcases exists_encode digests reply TcpSession.fixtureSecret with ⟨answered, two⟩
  have size : headerSize + macSize + udpProbe.length < 1000 := by decide
  have oneSized : asked.length = headerSize + udpProbe.length + macSize :=
    length_of_encode digests one
  have twoSized : answered.length = headerSize + udpProbe.length + macSize :=
    length_of_encode digests two
  let first : Sending := ⟨1757000100, udpClient, 100, asked⟩
  let second : Sending := ⟨1757000100 + 1 / 1000, udpServer, 101, answered⟩
  have splits (frame : Frame) (raw : Bytes)
      (encoded : encode digests frame TcpSession.fixtureSecret = .ok raw) :
      SplitsInto digests raw [frame] := by
    refine ⟨TcpSession.fixtureSecret, (splitDatagram_ok_iff digests).mpr ?_⟩
    rw [join, encoded]
    exact congrArg Except.ok (List.append_nil raw)
  have main := datagrams_captured digests [(first, [udpRequest]), (second, [udpReply])]
  have range : forall entry, entry ∈ [(first, [udpRequest]), (second, [udpReply])] ->
      InRange entry.1.ts := by
    simp only [List.forall_mem_cons, InRange, first, second]
    norm_num
  have split : forall entry, entry ∈ [(first, [udpRequest]), (second, [udpReply])] ->
      SplitsInto digests entry.1.payload entry.2 := by
    rw [List.forall_mem_cons, List.forall_mem_singleton]
    exact ⟨splits _ _ one, splits _ _ two⟩
  have fits : forall entry, entry ∈ [(first, [udpRequest]), (second, [udpReply])] ->
      28 + entry.1.payload.length < 2 ^ 16 := by
    rw [List.forall_mem_cons, List.forall_mem_singleton]
    dsimp only [first, second]
    omega
  rcases main.1.mpr fits with ⟨packets, recorded⟩
  rcases main.2 packets recorded range split with
    ⟨raw, rows, written, dissected, shown, _, followed, counted⟩
  refine ⟨[first, second], packets, raw, rows, ?_, recorded, written, dissected, ?_, ?_, ?_⟩
  · rw [udpSession, one, two]
    rfl
  · rcases List.forall₂_cons_left_iff.mp shown with ⟨row, rows, own, others, rfl⟩
    rcases List.forall₂_cons_left_iff.mp others with ⟨last, rows, other, none, rfl⟩
    cases none
    rw [List.map_cons, List.map_cons, own.shown, other.shown]
    change [[udpRequest.info], [udpReply.info]] = _
    decide
  · have client : udpClient.key = "10.0.0.10:51235 -> 10.0.0.20:9001" := by decide
    have server : udpServer.key = "10.0.0.20:9001 -> 10.0.0.10:51235" := by decide
    rw [followed]
    simp [first, second, client, server]
  · rw [counted]
    change (["PING", "PONG"].eraseDups.map fun name => (name, ["PING", "PONG"].count name)) = _
    decide

end Wireline
