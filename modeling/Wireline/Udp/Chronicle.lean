import Wireline.Library.Sequences
import Wireline.SessionRuns
import Wireline.Udp.Server

namespace Wireline

open Sequences

/-!
# The table of peers and its past

A `Chronicle` runs the server and writes down, for each address, the frames
that its present session has accepted, each with the octets that were sent
when it was handled.  What the server keeps is then a function of this past:
the window of a session holds the most recent part of it, and the session's
counter is its last number.
-/

/-- A frame that was accepted, and what was sent for it. -/
structure Answered where
  frame : Frame
  sent : Bytes

structure Chronicle (Addr : Type) where
  server : UdpServer Addr
  accepted : Addr -> List Answered
  decoded : Nat

namespace Chronicle

variable {Addr : Type} [DecidableEq Addr] (runtime : Runtime)

def start (secret : Bytes) (dedupSize : Nat) : Chronicle Addr :=
  ⟨.start secret dedupSize, fun _ => [], 0⟩

/-- The past of the session that an address has, which is none before the
session is built. -/
def past (chronicle : Chronicle Addr) (addr : Addr) : List Answered :=
  if (chronicle.server.peers addr).isSome then chronicle.accepted addr else []

/-- The octets that a call sent. -/
def octets (delivery : Delivery Addr) : Bytes := (delivery.sent.map Prod.fst).flatten

def next (chronicle : Chronicle Addr) (arrival : UdpServer.Arrival Addr) : Chronicle Addr :=
  let delivery := chronicle.server.onDatagram runtime arrival.data arrival.addr arrival.draw
  let news := (dispatched delivery.calls).map fun frame => ⟨frame, octets delivery⟩
  { server := delivery.server
    accepted := Function.update chronicle.accepted arrival.addr (chronicle.past arrival.addr ++ news)
    decoded :=
      match decode runtime.toDigests arrival.data (some chronicle.server.secret) with
      | .error _ => chronicle.decoded
      | .ok _ => chronicle.decoded + 1 }

def step (chronicle : Chronicle Addr) (arrival : UdpServer.Arrival Addr) :
    Option (Chronicle Addr) :=
  some (chronicle.next runtime arrival)

variable (secret : Bytes) (size : Nat)

/-- A peer remembers a past if its session has counted up to the last number
in it and its window holds the most recent part.  What was sent for a frame
can be read back, and starts with the acknowledgement it asked for. -/
structure Remembers (past : List Answered) (peer : Peer) : Prop where
  increasing : IncreasingBy (fun answered : Answered => answered.frame.seq) past
  newest : peer.session.lastPeerSeq =
    (past.map fun answered => answered.frame.seq).getLastD (-1)
  window : peer.dedup.entries =
    (past.rtake size).map fun answered => (answered.frame.seq, answered.sent)
  splits : forall answered, answered ∈ past ->
    ∃ frames, splitDatagram runtime.toDigests answered.sent secret = .ok frames ∧
      (Int.land answered.frame.flags flagRequireAck ≠ 0 ->
        ∃ ack rest, frames = ack :: rest ∧ ack.msgType = .ack ∧
          ack.payload = encodeAck answered.frame.seq)

/-- What the server keeps under an address. -/
structure Kept (past : List Answered) (peer : Peer) : Prop where
  remembers : Remembers runtime secret size past peer
  ready : peer.session.state = .ready
  named : peer.session.clientId ≠ none
  used : past ≠ []

structure Inv (chronicle : Chronicle Addr) : Prop where
  sound : chronicle.server.Sound
  keyed : chronicle.server.secret = secret
  sized : chronicle.server.dedupSize = size
  kept : forall addr peer, chronicle.server.peers addr = some peer ->
    Kept runtime secret size (chronicle.accepted addr) peer
  counted : chronicle.server.handled + chronicle.server.duplicates = chronicle.decoded

end Chronicle

/-- A number that is not in the window is put behind the others. -/
theorem DedupWindow.entries_put {window : DedupWindow} {seq : Int}
    (missing : window.get seq = none) (reply : Bytes) :
    (window.put seq reply).entries = (window.entries ++ [(seq, reply)]).rtake window.size := by
  have others : window.entries.filter (fun entry => entry.1 ≠ seq) = window.entries := by
    rw [List.filter_eq_self]
    intro entry member
    apply decide_eq_true
    rintro rfl
    rw [get_of_mem member] at missing
    cases missing
  rw [entries_put_eq, others]

namespace Chronicle

variable {Addr : Type} [DecidableEq Addr] {runtime : Runtime} {secret : Bytes} {size : Nat}

theorem remembers_init (sessionId : SessionId) :
    Remembers runtime secret size [] ⟨{ sessionId := sessionId }, .empty size⟩ :=
  ⟨increasingBy_nil, rfl, by rw [List.rtake_nil]; rfl, by
    intro answered member
    cases member⟩

omit [DecidableEq Addr] in
/-- The peer that handles a frame remembers the past of its session. -/
theorem Inv.remembers {chronicle : Chronicle Addr} (inv : Inv runtime secret size chronicle)
    (addr : Addr) (draw : Draw) :
    Remembers runtime secret size (chronicle.past addr) (chronicle.server.peer addr draw) := by
  cases known : chronicle.server.peers addr with
  | none =>
      rw [past, known, UdpServer.peer_of_unknown known, inv.sized]
      exact remembers_init draw.sessionId
  | some peer =>
      rw [past, known, UdpServer.peer_of_known known]
      exact (inv.kept addr peer known).remembers

/-- An accepted frame becomes the newest part of the past. -/
theorem Remembers.put {past : List Answered} {peer : Peer}
    (remembers : Remembers runtime secret size past peer) (sized : peer.dedup.size = size)
    {frame : Frame} (missed : peer.dedup.get frame.seq = none)
    (accepted : peer.session.lastPeerSeq < frame.seq) {session : ServerSession}
    (last : session.lastPeerSeq = frame.seq) {frames : List Frame} {reply : Bytes}
    (joined : join runtime.toDigests secret frames = .ok reply)
    (acked : Int.land frame.flags flagRequireAck ≠ 0 ->
      ∃ ack rest, frames = ack :: rest ∧ ack.msgType = .ack ∧ ack.payload = encodeAck frame.seq) :
    Remembers runtime secret size (past ++ [⟨frame, reply⟩])
      ⟨session, peer.dedup.put frame.seq reply⟩ := by
  refine ⟨remembers.increasing.append ?_, ?_, ?_, ?_⟩
  · intro earlier member
    have below := remembers.increasing.le_getLastD (-1) member
    rw [← remembers.newest] at below
    exact lt_of_le_of_lt below accepted
  · rw [last, List.map_append, List.map_singleton, List.getLastD_concat]
  · rw [DedupWindow.entries_put missed, remembers.window, sized, map_rtake, map_rtake, rtake_concat,
      List.map_append, List.map_singleton]
  · intro answered member
    rcases List.mem_append.mp member with before | now
    · exact remembers.splits answered before
    · rw [List.mem_singleton.mp now]
      exact ⟨frames, splitDatagram_join runtime.toDigests joined, acked⟩

omit [DecidableEq Addr] in
theorem inv_start (secret : Bytes) (size : Nat) :
    Inv runtime secret size (start secret size : Chronicle Addr) where
  sound := UdpServer.sound_start secret size
  keyed := rfl
  sized := rfl
  kept := by
    intro addr peer known
    cases known
  counted := rfl

omit [DecidableEq Addr] in
/-- The entry that an answered frame leaves. -/
theorem Inv.kept_answered {chronicle : Chronicle Addr} (inv : Inv runtime secret size chronicle)
    {frame : Frame} {addr : Addr} {draw : Draw} {peer : Peer}
    (here : chronicle.server.peer addr draw = peer) (missed : peer.dedup.get frame.seq = none)
    {turn : Turn} (handling : Handling runtime draw.nonce (UdpServer.acks peer.session frame).2 frame turn)
    {reaction : Reaction} (result : turn.result = .ok reaction) (stays : reaction.close = false)
    {reply : Bytes} (joined : join runtime.toDigests secret
      ((UdpServer.acks peer.session frame).1 ++ reaction.frames) = .ok reply) :
    Kept runtime secret size (chronicle.past addr ++ [⟨frame, reply⟩])
      ⟨turn.session, peer.dedup.put frame.seq reply⟩ := by
  have remembers := inv.remembers addr draw
  have sized := (UdpServer.sound_peer inv.sound addr draw).2
  rw [here] at remembers sized
  rcases handling.ready_of_open result stays with ⟨ready, last, accepted⟩
  rw [UdpServer.lastPeerSeq_acks] at accepted
  refine ⟨remembers.put (sized.trans inv.sized) missed accepted last joined ?_, ready, ?_, by simp⟩
  · intro asks
    rw [UdpServer.acks_of_asks _ asks]
    exact ⟨_, _, rfl, rfl, rfl⟩
  · rcases UdpServer.acks_eq peer.session frame with ⟨outSeq, same⟩
    rw [same] at handling
    rcases handling.moves result with ⟨closes, _⟩ | ⟨_, already, _, sameClient, _⟩ |
      ⟨_, _, _, _, _, clientId, peerNonce, _, client, _⟩
    · rw [stays] at closes
      cases closes
    · rw [sameClient]
      cases known : chronicle.server.peers addr with
      | none =>
          rw [UdpServer.peer_of_unknown known] at here
          subst here
          cases already
      | some stored =>
          rw [UdpServer.peer_of_known known] at here
          subst here
          exact (inv.kept addr stored known).named
    · rw [client]
      exact Option.some_ne_none clientId

omit [DecidableEq Addr] in
theorem past_of_known {chronicle : Chronicle Addr} {addr : Addr} {peer : Peer}
    (known : chronicle.server.peers addr = some peer) :
    chronicle.past addr = chronicle.accepted addr := by
  rw [past, known]
  rfl

omit [DecidableEq Addr] in
theorem octets_answered (server : UdpServer Addr) (reply : Bytes) (addr : Addr)
    (handed : Option Frame) (calls : List Call) (raised : Option PyError) :
    octets ⟨server, if reply ≠ [] then [(reply, addr)] else [], handed, calls, raised⟩ = reply := by
  rw [octets]
  by_cases empty : reply = []
  · rw [if_neg (not_not.mpr empty), empty]
    rfl
  · rw [if_pos empty, List.map_singleton, List.flatten_singleton]

/-- What a datagram leaves under its own address. -/
theorem Inv.kept_here {chronicle : Chronicle Addr} (inv : Inv runtime secret size chronicle)
    (benign : runtime.Benign) {data : Bytes} {addr : Addr} {draw : Draw} {delivery : Delivery Addr}
    (receipt : UdpServer.Receipt runtime chronicle.server data addr draw delivery) {stored : Peer}
    (known : delivery.server.peers addr = some stored) :
    Kept runtime secret size (chronicle.past addr ++
      (dispatched delivery.calls).map fun frame => ⟨frame, octets delivery⟩) stored := by
  cases receipt with
  | dropped undecodable =>
      rw [past_of_known known]
      exact (List.append_nil _).symm ▸ inv.kept addr stored known
  | replayed decoded before hit =>
      rw [past_of_known known]
      exact (List.append_nil _).symm ▸ inv.kept addr stored known
  | raised decoded missed handling result =>
      rcases handling.returned_iff.mpr (benign.digests _ _) with ⟨reaction, other⟩
      rw [result] at other
      cases other
  | answered decoded missed handling result joined =>
      rcases UdpServer.settle_known known with ⟨stays, rfl⟩
      rw [inv.keyed] at joined
      rcases handling.accepts with ⟨same, _⟩ | ⟨_, _, once⟩
      · rcases handling.ready_of_open result stays with ⟨_, last, accepted⟩
        rw [same] at last
        exact absurd last (ne_of_lt accepted)
      · rw [octets_answered, once, List.map_singleton]
        exact inv.kept_answered rfl missed handling result stays joined

/-- Every datagram that decodes is counted once. -/
theorem Inv.counted_next {chronicle : Chronicle Addr} (inv : Inv runtime secret size chronicle)
    (benign : runtime.Benign) (data : Bytes) (addr : Addr) (draw : Draw) :
    (chronicle.next runtime ⟨data, addr, draw⟩).server.handled +
        (chronicle.next runtime ⟨data, addr, draw⟩).server.duplicates =
      (chronicle.next runtime ⟨data, addr, draw⟩).decoded := by
  have receipt := UdpServer.onDatagram_receipt runtime inv.sound data addr draw
  have counted := inv.counted
  rw [next]
  dsimp only
  generalize chronicle.server.onDatagram runtime data addr draw = delivery at receipt
  cases receipt with
  | dropped undecodable =>
      rw [undecodable]
      exact counted
  | replayed decoded before hit =>
      rw [decoded]
      dsimp only
      omega
  | raised decoded missed handling result =>
      rcases handling.returned_iff.mpr (benign.digests _ _) with ⟨reaction, other⟩
      rw [result] at other
      cases other
  | answered decoded missed handling result joined =>
      rw [decoded, UdpServer.handled_settle, UdpServer.duplicates_settle]
      dsimp only
      omega

/-- Every datagram keeps the table. -/
theorem Inv.next {chronicle : Chronicle Addr} (inv : Inv runtime secret size chronicle)
    (benign : runtime.Benign) (arrival : UdpServer.Arrival Addr) :
    Inv runtime secret size (chronicle.next runtime arrival) := by
  rcases arrival with ⟨data, addr, draw⟩
  have receipt := UdpServer.onDatagram_receipt runtime inv.sound data addr draw
  refine ⟨receipt.sound inv.sound, receipt.secret.trans inv.keyed,
    receipt.dedupSize.trans inv.sized, ?_, inv.counted_next benign data addr draw⟩
  intro other stored known
  rw [Chronicle.next]
  dsimp only
  by_cases same : addr = other
  · subst same
    rw [Function.update_self]
    exact inv.kept_here benign receipt known
  · have different : other ≠ addr := fun equal => same equal.symm
    rw [Function.update_of_ne different]
    exact inv.kept other stored ((receipt.peers_other different).symm.trans known)

/-! ## Runs -/

/-- What the server keeps, clause by clause: a ready session of a named peer,
and a window with strictly increasing numbers, the newest of which is the last
that the session has accepted.  The numbers are the most recent ones of all
that it has accepted.  Under each of them are the octets that were sent when
it was handled; they split into frames, of which the first acknowledges the
number if the request asked for it. -/
structure Tabled (runtime : Runtime) (secret : Bytes) (size : Nat) (past : List Answered)
    (peer : Peer) : Prop where
  ready : peer.session.state = .ready
  named : peer.session.clientId ≠ none
  increasing : IncreasingBy Prod.fst peer.dedup.entries
  newest : (peer.dedup.entries.map Prod.fst).getLast? = some peer.session.lastPeerSeq
  count : peer.dedup.entries.length = min size past.length
  recent : peer.dedup.entries =
    (past.drop (past.length - size)).map fun answered => (answered.frame.seq, answered.sent)
  splits : forall answered, answered ∈ past.drop (past.length - size) ->
    ∃ frames, splitDatagram runtime.toDigests answered.sent secret = .ok frames ∧
      (Int.land answered.frame.flags flagRequireAck ≠ 0 ->
        ∃ ack rest, frames = ack :: rest ∧ ack.msgType = .ack ∧
          ack.payload = encodeAck answered.frame.seq)

theorem Kept.tabled {past : List Answered} {peer : Peer} (kept : Kept runtime secret size past peer)
    (positive : 0 < size) : Tabled runtime secret size past peer := by
  have window := kept.remembers.window
  refine ⟨kept.ready, kept.named, ?_, ?_, ?_, window, ?_⟩
  · rw [window]
    apply List.pairwise_map.mpr
    exact List.Pairwise.sublist (List.drop_sublist _ _) kept.remembers.increasing
  · rcases List.eq_nil_or_concat past with empty | ⟨earlier, last, split⟩
    · exact absurd empty kept.used
    · rcases Nat.exists_eq_succ_of_ne_zero (Nat.ne_of_gt positive) with ⟨others, rfl⟩
      rw [window, kept.remembers.newest, split, List.concat_eq_append, List.rtake_concat_succ]
      simp
  · rw [window, List.length_map, length_rtake]
  · intro answered member
    exact kept.remembers.splits answered (List.mem_of_mem_drop member)

/-- After every datagram of every run the table is as it should be, and every
datagram that decoded has been counted once. -/
theorem run_tabled (benign : runtime.Benign) (secret : Bytes) {size : Nat} (positive : 0 < size)
    (arrivals : List (UdpServer.Arrival Addr)) :
    ∃ chronicle, Execution.run (step runtime) (start secret size) arrivals = some chronicle ∧
      Execution.run (UdpServer.step runtime) (.start secret size) arrivals =
        some chronicle.server ∧
      (forall addr peer, chronicle.server.peers addr = some peer ->
        Tabled runtime secret size (chronicle.accepted addr) peer) ∧
      chronicle.server.handled + chronicle.server.duplicates = chronicle.decoded := by
  have kept {chronicle : Chronicle Addr} {arrival : UdpServer.Arrival Addr}
      {after : Chronicle Addr} (inv : Inv runtime secret size chronicle)
      (stepped : step runtime chronicle arrival = some after) : Inv runtime secret size after := by
    cases stepped
    exact inv.next benign arrival
  have total (chronicle : Chronicle Addr) (arrival : UdpServer.Arrival Addr) :
      ∃ after, step runtime chronicle arrival = some after := ⟨_, rfl⟩
  rcases Execution.run_total total (start secret size) arrivals with ⟨chronicle, reached⟩
  have inv : Inv runtime secret size chronicle :=
    Execution.run_invariant _ kept (inv_start secret size) reached
  have commutes (chronicle : Chronicle Addr) (arrival : UdpServer.Arrival Addr) :
      (step runtime chronicle arrival).map Chronicle.server =
        UdpServer.step runtime chronicle.server arrival := rfl
  have viewed := Execution.run_map (step runtime) commutes (start secret size) arrivals
  rw [reached] at viewed
  refine ⟨chronicle, reached, viewed.symm, ?_, inv.counted⟩
  intro addr peer known
  exact (inv.kept addr peer known).tabled positive

/-- The first frames of a client, the first of them twice. -/
def greetingTwice (hello ping : Bytes) : List (UdpServer.Arrival Nat) :=
  let draw : Draw := ⟨Reference.sessionId, Reference.nonce⟩
  [⟨hello, 0, draw⟩, ⟨hello, 0, draw⟩, ⟨ping, 0, draw⟩]

/-- A datagram whose frame gets one reply and keeps the session. -/
theorem server_replied {server : UdpServer Addr} (sound : server.Sound) {data : Bytes} {addr : Addr}
    {frame : Frame} {draw : Draw}
    (decoded : decode runtime.toDigests data (some server.secret) = .ok frame)
    (asks : Int.land frame.flags flagRequireAck ≠ 0) {peer : Peer}
    (here : server.peer addr draw = peer) (missed : peer.dedup.get frame.seq = none) {turn : Turn}
    (turned : { peer.session with outSeq := (peer.session.outSeq + 1) &&& maxSeq }.onFrame runtime
      draw.nonce frame = turn)
    {reply : Frame} (result : turn.result = .ok { frames := [reply] }) :
    ∃ after stored reply, (server.onDatagram runtime data addr draw).server = after ∧
      after.peers addr = some stored ∧ stored.session = turn.session ∧
      stored.dedup = peer.dedup.put frame.seq reply ∧
      after.handled = server.handled + 1 ∧ after.duplicates = server.duplicates ∧
      after.secret = server.secret ∧ after.Sound := by
  have receipt := UdpServer.onDatagram_receipt runtime sound data addr draw
  rcases UdpServer.onDatagram_replied runtime sound decoded asks here missed turned result rfl with
    ⟨stored, _, delivered⟩
  rw [delivered] at receipt
  exact ⟨_, _, stored, congrArg Delivery.server delivered, UdpServer.peers_settle_self _ _ _, rfl,
    rfl, UdpServer.handled_settle _ _ _ _, UdpServer.duplicates_settle _ _ _ _,
    UdpServer.secret_settle _ _ _ _, receipt.sound sound⟩

/-- With a window of one entry the copy is answered from the window, and the
PING takes the place of the HELLO. -/
theorem run_greetingTwice (runtime : Runtime) {secret hello ping : Bytes}
    (greeted : encode runtime.toDigests ⟨.hello, (0 : Nat), Reference.hello, flagRequireAck⟩ secret =
      .ok hello)
    (pinged : encode runtime.toDigests ⟨.ping, (1 : Nat), [7], flagRequireAck⟩ secret = .ok ping) :
    ∃ server peer, Execution.run (UdpServer.step runtime) (.start secret 1)
        (greetingTwice hello ping) = some server ∧
      server.peers 0 = some peer ∧ peer.dedup.entries.map Prod.fst = [1] ∧
      server.handled = 2 ∧ server.duplicates = 1 := by
  have asks : Int.land flagRequireAck flagRequireAck ≠ 0 := by decide
  have accepted : (-1 : Int) < (0 : Nat) ∧ ((0 : Nat) : Int) < (1 : Nat) := by decide
  have fresh : (UdpServer.start secret 1 : UdpServer Nat).peers 0 = none := rfl
  let draw : Draw := ⟨Reference.sessionId, Reference.nonce⟩
  have decoded := decode_of_encode runtime.toDigests greeted
  rcases server_replied (UdpServer.sound_start secret 1) decoded asks
    (UdpServer.peer_of_unknown fresh draw) rfl
    (onFrame_welcomed runtime Reference.nonce rfl accepted.1 rfl
      (decodeHello_encodeHello runtime "client" Reference.nonce.text)) rfl with
    ⟨after, peer, welcome, first, known, session, dedup, handled, duplicates, same, sound⟩
  have hit : peer.dedup.get ((0 : Nat) : Int) = some welcome := by
    rw [dedup]
    exact DedupWindow.get_put_self _ Nat.one_pos _ welcome
  rw [← show after.secret = secret from same] at decoded
  have second := UdpServer.onDatagram_cached decoded known hit draw
  have soundAgain := (UdpServer.onDatagram_receipt runtime sound hello 0 draw).sound sound
  rw [second] at soundAgain
  have pingDecoded := decode_of_encode runtime.toDigests pinged
  rw [← show after.secret = secret from same] at pingDecoded
  have missed : peer.dedup.get ((1 : Nat) : Int) = none := by
    rw [dedup]
    exact DedupWindow.get_put_empty 1 (by decide) welcome
  have ready : { peer.session with
      outSeq := (peer.session.outSeq + 1) &&& maxSeq }.state = .ready := by rw [session]
  have newer : { peer.session with
      outSeq := (peer.session.outSeq + 1) &&& maxSeq }.lastPeerSeq < ((1 : Nat) : Int) := by
    rw [session]
    exact accepted.2
  rcases server_replied soundAgain pingDecoded asks (UdpServer.peer_of_known known draw) missed
    (onFrame_echoed runtime Reference.nonce ready newer rfl) rfl with
    ⟨final, stored, reply, third, stays, _, window, counted, copies, _, _⟩
  refine ⟨final, stored, ?_, stays, ?_, ?_, ?_⟩
  · simp only [greetingTwice, Execution.run, UdpServer.step, Option.bind_some]
    rw [first, second, third]
  · rw [window, dedup]
    rfl
  · rw [counted]
    dsimp only
    rw [handled]
    rfl
  · rw [copies]
    dsimp only
    rw [duplicates]
    rfl

theorem run_tabled_greetingTwice : ∃ hello ping,
    encode Reference.tolerant.toDigests ⟨.hello, (0 : Nat), Reference.hello, flagRequireAck⟩
        Reference.secret = .ok hello ∧
      encode Reference.tolerant.toDigests ⟨.ping, (1 : Nat), [7], flagRequireAck⟩
        Reference.secret = .ok ping ∧
      ∃ (chronicle : Chronicle Nat) (peer : Peer),
        Execution.run (step Reference.tolerant) (start Reference.secret 1)
            (greetingTwice hello ping) = some chronicle ∧
          chronicle.server.peers 0 = some peer ∧ peer.dedup.entries.map Prod.fst = [1] ∧
          Tabled Reference.tolerant Reference.secret 1 (chronicle.accepted 0) peer ∧
          chronicle.server.handled = 2 ∧ chronicle.server.duplicates = 1 ∧
          chronicle.decoded = 3 := by
  have range : (0 : Int) ≤ (0 : Nat) ∧ ((0 : Nat) : Int) ≤ maxSeq := by decide
  rcases exists_encode Reference.tolerant.toDigests
    (encodable_requireAck Reference.hello_fits range) Reference.secret with ⟨hello, greeted⟩
  have second : Encodable ⟨.ping, (1 : Nat), [7], flagRequireAck⟩ := by decide
  rcases exists_encode Reference.tolerant.toDigests second Reference.secret with ⟨ping, pinged⟩
  rcases run_greetingTwice Reference.tolerant greeted pinged with
    ⟨server, peer, served, known, keys, handled, duplicates⟩
  rcases run_tabled Reference.tolerant_benign Reference.secret Nat.one_pos
    (greetingTwice hello ping) with ⟨chronicle, reached, same, tabled, counted⟩
  cases served.symm.trans same
  rw [handled, duplicates] at counted
  exact ⟨hello, ping, greeted, pinged, chronicle, peer, reached, known, keys, tabled 0 peer known,
    handled, duplicates, counted.symm⟩

end Chronicle
end Wireline
