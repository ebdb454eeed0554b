import Wireline.SessionIdentity
import Wireline.Tcp.Replay
import Wireline.Udp.Server

namespace Wireline

/-!
# One session behind two transports

The same session logic is driven by a stream and by datagrams.  A peer sends
frames with different numbers, each in a datagram of its own, or one after the
other on a connection.  Up to the frame that closes the session both servers
read the same, run the same handlers and answer the same.  The datagrams add
the acknowledgements that were asked for, and with them their numbers.
-/

/-- A frame without its number. -/
def Frame.unnumbered (frame : Frame) : Frame := { frame with seq := 0 }

/-- A session says everything but acknowledgements: these come from the
transport. -/
theorem Handling.no_ack {runtime : Runtime} {nonce : Nonce} {session : ServerSession} {frame : Frame}
    {turn : Turn} (handling : Handling runtime nonce session frame turn) {reaction : Reaction}
    (result : turn.result = .ok reaction) {reply : Frame} (member : reply ∈ reaction.frames) :
    reply.msgType ≠ .ack := by
  cases handling with
  | escaped _ _ _ _ => cases result
  | ignored _ _ _ | reported _ _ _ _ =>
      cases result
      cases member
  | stale _ | refused _ _ _ _ | welcomed _ _ _ _ | farewell _ _ _ =>
      cases result
      rw [List.mem_singleton.mp member]
      nofun
  | echoed _ _ echoes =>
      cases result
      rw [List.mem_singleton.mp member]
      rintro rfl
      rcases WirelineServer.echoType_eq echoes with impossible | impossible <;> cases impossible

/-- Two turns of sessions with one name: their frames differ in their numbers
only, and in nothing where the counters agree. -/
inductive Alike (first second : ServerSession) : Turn -> Turn -> Prop
  | raised {left right : ServerSession} (error : PyError) (calls : List Call) :
      Alike first second ⟨left, .error error, calls⟩ ⟨right, .error error, calls⟩
  | answered {left right : ServerSession} (pair : Counterpart left right)
      (named : right.sessionId = left.sessionId) (close : Bool) (reason : Option String)
      (calls : List Call) {frames others : List Frame}
      (same : frames.map Frame.unnumbered = others.map Frame.unnumbered)
      (numbers : second.outSeq = first.outSeq -> frames = others ∧ right.outSeq = left.outSeq) :
      Alike first second ⟨left, .ok ⟨frames, close, reason⟩, calls⟩
        ⟨right, .ok ⟨others, close, reason⟩, calls⟩

theorem Parallel.alike {first second : ServerSession} {nonce : Nonce} {turn answer : Turn}
    (parallel : Parallel first second nonce nonce turn answer)
    (named : second.sessionId = first.sessionId) : Alike first second turn answer := by
  cases parallel with
  | raised pair one two error calls => exact .raised error calls
  | silent pair one two close reason calls =>
      refine .answered pair ?_ close reason calls rfl ?_
      · rw [two.sessionId, named, one.sessionId]
      · intro numbered
        rw [two.outSeq, one.outSeq]
        exact ⟨rfl, numbered⟩
  | spoken pair one two words fixed close reason calls =>
      rw [named]
      refine .answered pair ?_ close reason calls rfl ?_
      · rw [two.sessionId, named, one.sessionId]
      · intro numbered
        rw [two.outSeq, one.outSeq, numbered]
        exact ⟨rfl, rfl⟩

section

variable {Addr : Type} [DecidableEq Addr] (runtime : Runtime) (addr : Addr)

/-- The datagrams of one address, until its entry is gone or an exception
leaves the handler. -/
def converse (draw : Draw) (server : UdpServer Addr) : List Bytes -> List (Delivery Addr)
  | [] => []
  | data :: later =>
      let delivery := server.onDatagram runtime data addr draw
      if delivery.raised ≠ none ∨ delivery.server.peers addr = none then [delivery]
      else delivery :: converse draw delivery.server later

/-- The frames that a call sent, without the acknowledgements. -/
def Delivery.spoken (digests : Digests) (secret : Bytes) (delivery : Delivery Addr) : List Frame :=
  (delivery.sent.flatMap fun (data, _) => (splitDatagram digests data secret).toOption.getD []).filter
    fun frame => frame.msgType ≠ .ack

variable {runtime} {addr}

variable (addr) in
omit [DecidableEq Addr] in
/-- What a datagram adds to the frames of the session. -/
theorem spoken_answered {secret reply : Bytes} {acks frames : List Frame}
    (joined : join runtime.toDigests secret (acks ++ frames) = .ok reply)
    (acknowledges : forall ack, ack ∈ acks -> ack.msgType = .ack)
    (speaks : forall frame, frame ∈ frames -> frame.msgType ≠ .ack) (server : UdpServer Addr)
    (handed : Option Frame) (calls : List Call) (raised : Option PyError) :
    Delivery.spoken runtime.toDigests secret
      ⟨server, if reply ≠ [] then [(reply, addr)] else [], handed, calls, raised⟩ = frames := by
  have dropped : acks.filter (fun frame => frame.msgType ≠ .ack) = [] := by
    rw [List.filter_eq_nil_iff]
    intro ack member
    rw [acknowledges ack member]
    decide
  have kept : frames.filter (fun frame => frame.msgType ≠ .ack) = frames := by
    rw [List.filter_eq_self]
    intro frame member
    exact decide_eq_true (speaks frame member)
  rw [Delivery.spoken]
  dsimp only
  by_cases empty : reply = []
  · rw [if_neg (not_not.mpr empty)]
    cases both : acks ++ frames with
    | nil =>
        rw [(List.append_eq_nil_iff.mp both).2]
        rfl
    | cons first rest =>
        rw [both] at joined
        exact absurd empty (join_ne_nil _ joined)
  · rw [if_pos empty, List.flatMap_singleton]
    dsimp only
    rw [splitDatagram_join _ joined, Except.toOption, Option.getD_some, List.filter_append, dropped,
      kept, List.nil_append]

/-- An exception of the session leaves the handler, and nothing is sent. -/
theorem UdpServer.onDatagram_raised {server : UdpServer Addr} {data : Bytes} {frame : Frame}
    {draw : Draw} (decoded : decode runtime.toDigests data (some server.secret) = .ok frame)
    (missed : (server.peer addr draw).dedup.get frame.seq = none) {turn : Turn}
    (turned : (acks (server.peer addr draw).session frame).2.onFrame runtime draw.nonce frame = turn)
    {raised : PyError} (result : turn.result = .error raised) :
    server.onDatagram runtime data addr draw =
      ⟨server.setPeer addr ⟨turn.session, (server.peer addr draw).dedup⟩, [], some frame, turn.calls,
        some raised⟩ := by
  rw [onDatagram, decoded]
  dsimp only
  rw [missed]
  dsimp only
  rw [turned, result]

theorem acks_are_acks {session : ServerSession} {frame ack : Frame}
    (member : ack ∈ (UdpServer.acks session frame).1) : ack.msgType = .ack := by
  rw [UdpServer.acks] at member
  by_cases asked : Int.land frame.flags flagRequireAck ≠ 0
  · rw [if_pos asked] at member
    rw [List.mem_singleton.mp member]
    rfl
  · rw [if_neg asked] at member
    cases member

/-- The stream session and the entry of the datagram server before some
frames.  Their counters agree if no frame asks for its acknowledgement. -/
structure Agrees (unasked : Prop) (server : UdpServer Addr) (addr : Addr) (secret : Bytes)
    (draw : Draw) (session : ServerSession) (frames : List Frame) : Prop where
  sound : server.Sound
  secret : server.secret = secret
  live : session.Open
  range : session.InRange
  pair : Counterpart session (server.peer addr draw).session
  named : (server.peer addr draw).session.sessionId = session.sessionId
  missed : forall frame, frame ∈ frames -> (server.peer addr draw).dedup.get frame.seq = none
  quiet : unasked -> forall frame, frame ∈ frames -> Int.land frame.flags flagRequireAck = 0
  numbered : unasked -> (server.peer addr draw).session.outSeq = session.outSeq

section

variable {unasked : Prop} {server : UdpServer Addr} {secret : Bytes} {draw : Draw}
  {session : ServerSession}

theorem Agrees.later {frame : Frame} {frames : List Frame}
    (agrees : Agrees unasked server addr secret draw session (frame :: frames))
    (distinct : ((frame :: frames).map Frame.seq).Nodup) {left right : ServerSession}
    (pair : Counterpart left right) (named : right.sessionId = left.sessionId) (live : left.Open)
    (range : left.InRange) (numbers : unasked -> right.outSeq = left.outSeq) {reply : Bytes}
    (sound : (server.settle addr ⟨right, (server.peer addr draw).dedup.put frame.seq reply⟩ false).Sound) :
    Agrees unasked
      (server.settle addr ⟨right, (server.peer addr draw).dedup.put frame.seq reply⟩ false) addr
      secret draw left frames := by
  have here := UdpServer.peer_of_known (UdpServer.peers_settle_self server addr
    ⟨right, (server.peer addr draw).dedup.put frame.seq reply⟩) draw
  refine ⟨sound, ?_, live, range, ?_, ?_, ?_, ?_, ?_⟩
  · rw [UdpServer.secret_settle, agrees.secret]
  · rw [here]
    exact pair
  · rw [here]
    exact named
  · intro other member
    rw [here]
    cases hit : ((server.peer addr draw).dedup.put frame.seq reply).get other.seq with
    | none => rfl
    | some stored =>
        rw [List.map_cons, List.nodup_cons] at distinct
        rcases DedupWindow.mem_put (DedupWindow.mem_of_get hit) with old | new
        · have missed := agrees.missed other (List.mem_cons_of_mem frame member)
          rw [DedupWindow.get_of_mem old] at missed
          cases missed
        · have same : other.seq = frame.seq := congrArg Prod.fst new
          rw [← same] at distinct
          exact absurd (List.mem_map_of_mem member) distinct.1
  · intro never other member
    exact agrees.quiet never other (List.mem_cons_of_mem frame member)
  · rw [here]
    exact numbers

variable (runtime) in
omit [DecidableEq Addr] in
/-- The two sessions on the next frame. -/
theorem Agrees.alike {frame : Frame} {frames : List Frame}
    (agrees : Agrees unasked server addr secret draw session (frame :: frames)) :
    let peer := (UdpServer.acks (server.peer addr draw).session frame).2
    Alike session peer (session.onFrame runtime draw.nonce frame)
        (peer.onFrame runtime draw.nonce frame) ∧
      (unasked -> peer.outSeq = session.outSeq) := by
  intro peer
  have pair : Counterpart session peer := by
    refine ⟨?_, ?_⟩
    · rw [UdpServer.state_acks, agrees.pair.state]
    · rw [UdpServer.lastPeerSeq_acks, agrees.pair.lastPeerSeq]
  have named : peer.sessionId = session.sessionId := by
    rw [UdpServer.sessionId_acks, agrees.named]
  refine ⟨(onFrame_parallel runtime draw.nonce draw.nonce pair frame).alike named, ?_⟩
  intro never
  rw [show peer = (UdpServer.acks (server.peer addr draw).session frame).2 from rfl, UdpServer.acks,
    if_neg (not_not.mpr (agrees.quiet never frame List.mem_cons_self)), agrees.numbered never]

/-- What the datagram server says of an answer of its session. -/
theorem Agrees.delivered {frame : Frame} {frames : List Frame}
    (agrees : Agrees unasked server addr secret draw session (frame :: frames)) {raw : Bytes}
    (decoded : decode runtime.toDigests raw (some server.secret) = .ok frame)
    {right : ServerSession} {others : List Frame} {close : Bool} {reason : Option String}
    {calls : List Call}
    (turned : (UdpServer.acks (server.peer addr draw).session frame).2.onFrame runtime draw.nonce
      frame = ⟨right, .ok ⟨others, close, reason⟩, calls⟩) :
    ∃ reply,
      let after := server.settle addr ⟨right, (server.peer addr draw).dedup.put frame.seq reply⟩ close
      let delivery : Delivery Addr :=
        ⟨after, if reply ≠ [] then [(reply, addr)] else [], some frame, calls, none⟩
      server.onDatagram runtime raw addr draw = delivery ∧ after.Sound ∧
        delivery.spoken runtime.toDigests secret = others := by
  have missed := agrees.missed frame List.mem_cons_self
  have peerSound := (UdpServer.sound_peer agrees.sound addr draw).1
  have peerLive := (UdpServer.acks_sound peerSound.live peerSound.range
    (encodable_of_decode runtime.toDigests decoded)).1
  have handling := onFrame_handling runtime draw.nonce peerLive frame
  rw [turned] at handling
  rcases UdpServer.onDatagram_answered runtime agrees.sound decoded missed turned rfl with
    ⟨reply, joined, delivered⟩
  rw [agrees.secret] at joined
  have sound := (UdpServer.onDatagram_receipt runtime agrees.sound raw addr draw).sound agrees.sound
  rw [delivered] at sound
  exact ⟨reply, delivered, sound, spoken_answered addr joined (fun ack member => acks_are_acks member)
    (fun reply member => handling.no_ack rfl member) _ _ _ _⟩

/-- Both transports hold the same conversation. -/
theorem Agrees.converse {frames : List Frame} {raws : List Bytes}
    (encoded : List.Forall₂ (fun frame raw => encode runtime.toDigests frame secret = .ok raw)
      frames raws)
    (distinct : (frames.map Frame.seq).Nodup)
    (agrees : Agrees unasked server addr secret draw session frames) (cut : Cut) :
    let connection := WirelineServer.handle runtime secret draw.nonce session cut raws.flatten
    let deliveries := Wireline.converse runtime addr draw server raws
    connection.inbound = deliveries.flatMap (fun delivery => delivery.handed.toList) ∧
      connection.calls = deliveries.flatMap Delivery.calls ∧
      connection.written.map Frame.unnumbered =
        (deliveries.flatMap (Delivery.spoken runtime.toDigests secret)).map Frame.unnumbered ∧
      (unasked ->
        connection.written = deliveries.flatMap (Delivery.spoken runtime.toDigests secret)) := by
  induction encoded generalizing server session with
  | nil =>
      have nothing : (readFrame runtime.toDigests secret).run [] = (.incomplete, []) := by
        rw [readFrame, ExactReader.Pull.run, if_neg (by decide)]
      rw [List.flatten_nil,
        WirelineServer.handle_incomplete runtime secret draw.nonce agrees.live cut nothing]
      exact ⟨rfl, rfl, rfl, fun _ => rfl⟩
  | cons head rest ih =>
      rename_i frame raw frames raws
      have read := run_readFrame_encoded runtime.toDigests head raws.flatten
      have decoded := decode_of_encode runtime.toDigests head
      rw [← agrees.secret] at decoded
      rcases agrees.alike runtime with ⟨alike, numbered⟩
      have handling := onFrame_handling runtime draw.nonce agrees.live frame
      have range := (handling.encodable agrees.range (encodable_of_decode runtime.toDigests decoded)).1
      have state := handling.live agrees.live
      rw [List.flatten_cons, WirelineServer.handle_returned runtime secret draw.nonce agrees.live
        agrees.range cut read]
      generalize session.onFrame runtime draw.nonce frame = turn at alike range state
      generalize turned : (UdpServer.acks (server.peer addr draw).session frame).2.onFrame runtime
        draw.nonce frame = answer at alike
      cases alike with
      | raised error calls =>
          have missed := agrees.missed frame List.mem_cons_self
          rw [Wireline.converse, UdpServer.onDatagram_raised decoded missed turned rfl]
          dsimp only
          rw [if_pos (.inl (Option.some_ne_none _))]
          simp [Delivery.spoken]
      | answered together own close reason calls same numbers =>
          rename_i left right frames' others
          rcases agrees.delivered decoded turned with ⟨reply, delivered, sound, spoken⟩
          rw [Wireline.converse, delivered]
          cases close with
          | true =>
              have gone := UdpServer.peers_settle_closed server addr
                ⟨right, (server.peer addr draw).dedup.put frame.seq reply⟩
              dsimp only at sound spoken ⊢
              rw [if_pos (rfl : true = true), if_pos (.inr gone), List.flatMap_singleton,
                List.flatMap_singleton, List.flatMap_singleton, spoken]
              exact ⟨rfl, rfl, same, fun never => (numbers (numbered never)).1⟩
          | false =>
              have known := UdpServer.peers_settle_self server addr
                ⟨right, (server.peer addr draw).dedup.put frame.seq reply⟩
              have goes : ¬ ((none : Option PyError) ≠ none ∨ (server.settle addr
                  ⟨right, (server.peer addr draw).dedup.put frame.seq reply⟩ false).peers addr = none) := by
                rw [known]
                rintro (impossible | impossible)
                · exact impossible rfl
                · cases impossible
              have tail := ih (List.nodup_cons.mp distinct).2 (agrees.later distinct together own state
                range (fun never => (numbers (numbered never)).2) sound)
              dsimp only at sound spoken tail ⊢
              rw [if_neg Bool.false_ne_true, if_neg goes, List.flatMap_cons, List.flatMap_cons,
                List.flatMap_cons, spoken, tail.1, tail.2.1, List.map_append, List.map_append, same,
                tail.2.2.1]
              refine ⟨rfl, rfl, rfl, fun never => ?_⟩
              rw [(numbers (numbered never)).1, tail.2.2.2 never]

end

end

/-- Up to the first frame that closes the session or raises, a stream of
frames with different numbers is read, handled and answered as the same frames
are in datagrams.  If none of them asks for its acknowledgement, the answers
are equal to the last field. -/
theorem transports_agree {Addr : Type} [DecidableEq Addr] (runtime : Runtime) (secret : Bytes)
    (sessionId : SessionId) (nonce : Nonce) (cut : Cut) (dedupWindow : Nat) (addr : Addr)
    {frames : List Frame} (distinct : (frames.map Frame.seq).Nodup) {raws : List Bytes}
    (encoded : List.Forall₂ (fun frame raw => encode runtime.toDigests frame secret = .ok raw)
      frames raws) :
    let connection := WirelineServer.handle runtime secret nonce { sessionId := sessionId } cut
      raws.flatten
    let deliveries := converse runtime addr ⟨sessionId, nonce⟩
      (UdpServer.start secret dedupWindow) raws
    connection.inbound = deliveries.flatMap (fun delivery => delivery.handed.toList) ∧
      connection.calls = deliveries.flatMap Delivery.calls ∧
      connection.written.map Frame.unnumbered =
        (deliveries.flatMap (Delivery.spoken runtime.toDigests secret)).map Frame.unnumbered ∧
      ((forall frame, frame ∈ frames -> Int.land frame.flags flagRequireAck = 0) ->
        connection.written = deliveries.flatMap (Delivery.spoken runtime.toDigests secret)) := by
  have agrees : Agrees (forall frame, frame ∈ frames -> Int.land frame.flags flagRequireAck = 0)
      (UdpServer.start secret dedupWindow) addr secret ⟨sessionId, nonce⟩ { sessionId := sessionId }
      frames := by
    refine ⟨UdpServer.sound_start secret dedupWindow, rfl, .inl rfl,
      ServerSession.inRange_init sessionId, ⟨rfl, rfl⟩, rfl, fun _ _ => rfl, fun quiet => quiet,
      fun _ => rfl⟩
  exact agrees.converse encoded distinct cut

/-- A greeting, a question, a parcel and a farewell on both transports. -/
theorem transports_agree_talk :
    ∃ raws, List.Forall₂ (fun frame raw =>
        encode Reference.runtime.toDigests frame Reference.secret = .ok raw)
        [Reference.greeting, Reference.question, Reference.parcel, Reference.farewell] raws ∧
      let deliveries := converse Reference.runtime (0 : Nat) ⟨Reference.sessionId, Reference.nonce⟩
        (UdpServer.start Reference.secret 256) raws
      deliveries.flatMap Delivery.calls =
          [.dispatch Reference.greeting, .onHello Reference.greeting, .dispatch Reference.question,
            .dispatch Reference.parcel, .onData Reference.parcel, .dispatch Reference.farewell] ∧
        deliveries.flatMap (Delivery.spoken Reference.runtime.toDigests Reference.secret) =
          [⟨.helloAck, 0, encodeHelloAck Reference.sessionId.text Reference.nonce.text, 0⟩,
            ⟨.pong, 1, Reference.question.payload, 0⟩, ⟨.data, 2, Reference.parcel.payload, 0⟩,
            ⟨.bye, 3, [], 0⟩] := by
  rcases WirelineServer.handle_talk Reference.runtime Reference.secret Reference.nonce
    Reference.sessionId .endOfStream with ⟨stream, joined, handled⟩
  rcases join_cons _ joined with ⟨greeting, _, greets, afterGreeting, rfl⟩
  rcases join_cons _ afterGreeting with ⟨question, _, asks, afterQuestion, rfl⟩
  rcases join_cons _ afterQuestion with ⟨parcel, _, sends, afterParcel, rfl⟩
  rcases join_cons _ afterParcel with ⟨farewell, rest, leaves, done, rfl⟩
  cases done
  have encoded : List.Forall₂ (fun frame raw =>
      encode Reference.runtime.toDigests frame Reference.secret = .ok raw)
      [Reference.greeting, Reference.question, Reference.parcel, Reference.farewell]
      [greeting, question, parcel, farewell] :=
    .cons greets (.cons asks (.cons sends (.cons leaves .nil)))
  have distinct : ([Reference.greeting, Reference.question, Reference.parcel,
      Reference.farewell].map Frame.seq).Nodup := by decide
  have agree := transports_agree Reference.runtime Reference.secret Reference.sessionId
    Reference.nonce .endOfStream 256 (0 : Nat) distinct encoded
  rw [show [greeting, question, parcel, farewell].flatten =
    greeting ++ (question ++ (parcel ++ (farewell ++ []))) from rfl, handled] at agree
  have quiet : forall frame, frame ∈ [Reference.greeting, Reference.question, Reference.parcel,
      Reference.farewell] -> Int.land frame.flags flagRequireAck = 0 := by decide
  exact ⟨_, encoded, agree.2.1.symm, (agree.2.2.2 quiet).symm⟩

end Wireline
