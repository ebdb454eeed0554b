import Wireline.Library.Execution
import Wireline.Tcp.Client

namespace Wireline

open ExactReader

/-!
# Calls of a ready client over a slow stream

The stream is reliable and ordered, and as slow as it likes.  A call writes
its frame and reads the next frame that arrives.  As long as every call that
the server answers waits for its answer, there is at most one answer on the
way, and it belongs to the pending call.  A call that gives up earlier leaves
its answer in the stream, where the next call takes it for its own.

`Patient` excludes that step: a call may time out only if nothing has been
written for it and nothing will be.
-/

/-- A call that has written its frame, with the rest of its read. -/
structure Waiting where
  frame : Frame
  read : Pull UInt8 ProtocolError Frame

/-- A call that is over. -/
structure Returned where
  frame : Frame
  result : Except PyError Frame

/-- A frame that reached the session, and what the session wrote for it. -/
structure Served where
  frame : Frame
  replies : List Frame

structure Link where
  session : ServerSession
  listening : Bool
  client : WirelineClient
  pending : Option Waiting
  toServer : Bytes
  toClient : Bytes
  buffer : Bytes
  sent : Nat
  served : List Served
  returned : List Returned

inductive LinkEvent
  | call (msgType : MsgType) (payload : Bytes) (flags : Int)
  | serve
  | arrive (size : Nat)
  | read
  | timeout
  | endOfStream

namespace Link

variable (runtime : Runtime) (secret : Bytes)

/-- A link after the handshake, which took one frame in each direction. -/
def ready (sessionId : SessionId) (clientId : String) (peerNonce : Nonce) : Link where
  session := {
    sessionId := sessionId, state := .ready, clientId := clientId, peerNonce := peerNonce.text,
    outSeq := 1, lastPeerSeq := 0 }
  listening := true
  client := ⟨secret, clientId, true, 1, 0, .ready, some sessionId.text⟩
  pending := none
  toServer := []
  toClient := []
  buffer := []
  sent := 1
  served := []
  returned := []

/-- The handshake leads there. -/
theorem ready_of_handshake (sessionId : SessionId) (clientId : String) (peerNonce nonce : Nonce)
    {client : WirelineClient} {hello : Frame} {data : Bytes}
    (greeted : (WirelineClient.opened secret clientId).hello runtime peerNonce =
      (client, .ok (hello, data))) :
    ∃ ack,
      (({ sessionId := sessionId } : ServerSession).onFrame runtime nonce hello).session =
          (ready secret sessionId clientId peerNonce).session ∧
        (({ sessionId := sessionId } : ServerSession).onFrame runtime nonce hello).result =
          .ok { frames := [ack] } ∧
        (client.receive ack).2 = .ok ack ∧
        (client.receive ack).1.greeted runtime ack = .ok (ready secret sessionId clientId peerNonce).client := by
  rw [WirelineClient.hello, WirelineClient.send, WirelineClient.opened, if_neg nofun] at greeted
  dsimp only at greeted
  cases encoded : encode runtime.toDigests
      ⟨.hello, (0 : Nat), encodeHello clientId peerNonce.text, 0⟩ secret with
  | error raised =>
      rw [encoded] at greeted
      cases greeted
  | ok raw =>
      rw [encoded] at greeted
      cases greeted
      have accepted : (-1 : Int) < (0 : Nat) := by decide
      have counted : (0 + 1) &&& maxSeq = 1 := by decide
      rw [onFrame_welcomed runtime nonce rfl accepted rfl
        (decodeHello_encodeHello runtime clientId peerNonce.text)]
      refine ⟨_, ?_, rfl, ?_, ?_⟩
      · rw [ready, counted]
        rfl
      · rw [WirelineClient.receive, if_neg (Int.not_le_of_gt accepted)]
      · rw [WirelineClient.receive, if_neg (Int.not_le_of_gt accepted), WirelineClient.greeted,
          if_neg nofun, if_neg (not_not.mpr rfl), decodeHelloAck_encodeHelloAck, ready, counted]
        rfl

/-- The pending call ends. -/
def finish (link : Link) (client : WirelineClient) (waiting : Waiting)
    (result : Except PyError Frame) : Link :=
  { link with
    client := client, pending := none, returned := link.returned ++ [⟨waiting.frame, result⟩] }

-- the draw of the handshake, which is over
variable (nonce : Nonce)

/-- One round of the server's loop on a complete frame. -/
def serve (link : Link) : Option Link :=
  if link.listening = false then none
  else
    match (readFrame runtime.toDigests secret).run link.toServer with
    | (.returned frame, rest) =>
        let turn := link.session.onFrame runtime nonce frame
        match turn.result with
        | .error _ =>
            some { link with
              session := turn.session, listening := false, toServer := rest,
              served := link.served ++ [⟨frame, []⟩] }
        | .ok reaction =>
            match join runtime.toDigests secret reaction.frames with
            | .error _ =>
                -- a reaction has one frame at most, so nothing of it was written
                some { link with
                  session := turn.session, listening := false, toServer := rest,
                  served := link.served ++ [⟨frame, []⟩] }
            | .ok data =>
                some { link with
                  session := turn.session, listening := !reaction.close, toServer := rest,
                  toClient := link.toClient ++ data,
                  served := link.served ++ [⟨frame, reaction.frames⟩] }
    | _ => none

def step (link : Link) : LinkEvent -> Option Link
  | .call msgType payload flags =>
      if link.pending.isNone ∧ link.sent < 2 ^ 32 then
        match link.client.request runtime msgType payload flags with
        | (client, .error raised) =>
            some { link with
              client := client, sent := link.sent + 1,
              returned := link.returned ++
                [⟨⟨msgType, link.client.outSeq, payload, flags⟩, .error raised⟩] }
        | (client, .ok (frame, data)) =>
            some { link with
              client := client, sent := link.sent + 1,
              pending := some ⟨frame, readFrame runtime.toDigests secret⟩,
              toServer := link.toServer ++ data }
      else none
  | .serve => link.serve runtime secret nonce
  | .arrive size =>
      some { link with
        toClient := link.toClient.drop size, buffer := link.buffer ++ link.toClient.take size }
  | .read =>
      link.pending.map fun waiting =>
        match waiting.read.advance link.buffer with
        | (.done frame, buffer) =>
            let (client, result) := link.client.receive frame
            { link with buffer := buffer }.finish client waiting result
        | (.fail error, buffer) =>
            { link with buffer := buffer }.finish link.client waiting (.error (.protocolError error))
        | (.readexactly size resume, buffer) =>
            { link with
              buffer := buffer, pending := some ⟨waiting.frame, .readexactly size resume⟩ }
  | .timeout =>
      link.pending.map fun waiting => link.finish link.client waiting (.error .timeoutError)
  | .endOfStream =>
      if link.listening = false ∧ link.toClient = [] then
        link.pending.bind fun waiting =>
          match waiting.read.advance link.buffer with
          | (.readexactly _ _, _) =>
              some ({ link with buffer := [] }.finish link.client waiting
                (.error .incompleteReadError))
          | _ => none
      else none

/-! ## The step that goes wrong -/

/-- The server's loop writes nothing while it reads this stream. -/
def Quiet (link : Link) (stream : Bytes) : Prop :=
  link.listening = true ->
    (WirelineServer.handle runtime secret nonce link.session .endOfStream stream).written = []

/-- A call times out only if the server has answered its frame with nothing,
and answers what is still on the way with nothing. -/
def Patient (link : Link) (event : LinkEvent) : Prop :=
  forall waiting, event = .timeout -> link.pending = some waiting ->
    (forall entry, entry ∈ link.served -> entry.frame = waiting.frame -> entry.replies = []) ∧
      link.Quiet runtime secret nonce link.toServer

/-! ## The steps of a call -/

section

variable {runtime} {secret} {nonce} {link : Link}

theorem step_call (idle : link.pending = none) (room : link.sent < 2 ^ 32)
    (ready : link.client.state = .ready) (connected : link.client.connected = true)
    {msgType : MsgType} {payload data : Bytes} {flags : Int}
    (encoded : encode runtime.toDigests ⟨msgType, link.client.outSeq, payload, flags⟩
      link.client.secret = .ok data) :
    link.step runtime secret nonce (.call msgType payload flags) =
      some { link with
        client := { link.client with outSeq := (link.client.outSeq + 1) &&& maxSeq },
        sent := link.sent + 1,
        pending := some ⟨⟨msgType, link.client.outSeq, payload, flags⟩,
          readFrame runtime.toDigests secret⟩,
        toServer := link.toServer ++ data } := by
  have able : link.pending.isNone ∧ link.sent < 2 ^ 32 := ⟨by rw [idle]; rfl, room⟩
  rw [step, if_pos able, WirelineClient.request, if_neg (not_not.mpr ready), WirelineClient.send,
    if_neg (by rw [connected]; nofun)]
  dsimp only
  rw [encoded]

/-- The echo of a DATA goes on the way. -/
theorem serve_data (listening : link.listening = true) (ready : link.session.state = .ready)
    {frame : Frame} {data reply later : Bytes} (accepted : link.session.lastPeerSeq < frame.seq)
    (kind : frame.msgType = .data) (encoded : encode runtime.toDigests frame secret = .ok data)
    (stream : link.toServer = data ++ later)
    (answered : encode runtime.toDigests ⟨.data, link.session.outSeq, frame.payload, 0⟩ secret =
      .ok reply) :
    link.step runtime secret nonce .serve =
      some { link with
        session := { link.session with
          lastPeerSeq := frame.seq, outSeq := (link.session.outSeq + 1) &&& maxSeq },
        toServer := later, toClient := link.toClient ++ reply,
        served := link.served ++ [⟨frame, [⟨.data, link.session.outSeq, frame.payload, 0⟩]⟩] } := by
  have echoes : echoType frame.msgType = some .data := congrArg echoType kind
  rw [step, serve, if_neg (by rw [listening]; nofun), stream, run_readFrame_encoded _ encoded]
  dsimp only
  rw [onFrame_echoed runtime nonce ready accepted echoes]
  dsimp only
  rw [join_single _ answered, listening]
  rfl

/-- A PONG is taken without an answer. -/
theorem serve_pong (listening : link.listening = true) (ready : link.session.state = .ready)
    {frame : Frame} {data later : Bytes} (accepted : link.session.lastPeerSeq < frame.seq)
    (kind : frame.msgType = .pong) (encoded : encode runtime.toDigests frame secret = .ok data)
    (stream : link.toServer = data ++ later) :
    link.step runtime secret nonce .serve =
      some { link with
        session := { link.session with lastPeerSeq := frame.seq }, toServer := later,
        served := link.served ++ [⟨frame, []⟩] } := by
  rw [step, serve, if_neg (by rw [listening]; nofun), stream, run_readFrame_encoded _ encoded]
  dsimp only
  rw [onFrame_silent runtime nonce ready accepted (.inl kind)]
  dsimp only
  rw [join, listening]
  dsimp only
  rw [List.append_nil]
  rfl

/-- A call that waits at the front of the buffer returns the frame there. -/
theorem step_read {waiting : Waiting} (call : link.pending = some waiting)
    (unread : waiting.read = readFrame runtime.toDigests secret) {reply : Frame} {data later : Bytes}
    (encoded : encode runtime.toDigests reply secret = .ok data)
    (arrived : link.buffer = data ++ later) (fresh : link.client.lastPeerSeq < reply.seq) :
    link.step runtime secret nonce .read =
      some ({ link with buffer := later }.finish { link.client with lastPeerSeq := reply.seq }
        waiting (.ok reply)) := by
  have returned := run_readFrame_encoded runtime.toDigests encoded later
  rw [step, call, Option.map_some, unread, arrived, Pull.advance_of_returned returned]
  dsimp only
  rw [WirelineClient.receive, if_neg (Int.not_le_of_gt fresh)]

end

/-! ## At most one answer is on the way -/

/-- What is on the way, by the progress of the pending call.  `unserved` are
the frames that have not reached the session. -/
inductive Phase (link : Link) (unserved : List Frame) : Prop
  | idle (noCall : link.pending = none) (noAnswer : link.toClient = []) (empty : link.buffer = [])
      (quiet : link.Quiet runtime secret nonce link.toServer)
  | unserved {waiting : Waiting} (call : link.pending = some waiting)
      (unread : waiting.read = readFrame runtime.toDigests secret) (noAnswer : link.toClient = [])
      (empty : link.buffer = []) {earlier : List Frame} {stream : Bytes}
      (last : unserved = earlier ++ [waiting.frame])
      (joined : join runtime.toDigests secret earlier = .ok stream)
      (quiet : link.Quiet runtime secret nonce stream)
  | unanswered {waiting : Waiting} (call : link.pending = some waiting)
      (unread : waiting.read = readFrame runtime.toDigests secret) (noAnswer : link.toClient = [])
      (empty : link.buffer = []) (quiet : link.Quiet runtime secret nonce link.toServer)
  | answered {waiting : Waiting} (call : link.pending = some waiting) {reply : Frame}
      (own : ⟨waiting.frame, [reply]⟩ ∈ link.served)
      (comes : waiting.read.run (link.buffer ++ link.toClient) = (.returned reply, []))
      (quiet : link.Quiet runtime secret nonce link.toServer)

/-- The numbers of the frames on the way, which the session has not seen. -/
structure Numbered (link : Link) (unserved : List Frame) : Prop where
  joined : join runtime.toDigests secret unserved = .ok link.toServer
  increasing : unserved.Pairwise fun earlier later => earlier.seq < later.seq
  fresh : forall frame, frame ∈ unserved ->
    link.session.lastPeerSeq < frame.seq ∧ frame.seq < link.sent
  seen : link.session.lastPeerSeq < link.sent

/-- No two calls have the same number. -/
structure Distinct (link : Link) : Prop where
  returned : link.returned.Pairwise fun earlier later => earlier.frame.seq < later.frame.seq
  counted : forall completion, completion ∈ link.returned -> completion.frame.seq < link.sent
  pending : forall waiting, link.pending = some waiting -> waiting.frame.seq < link.sent ∧
    forall completion, completion ∈ link.returned -> completion.frame.seq < waiting.frame.seq

structure Inv (link : Link) (unserved : List Frame) : Prop where
  phase : Phase runtime secret nonce link unserved
  numbered : Numbered runtime secret link unserved
  distinct : Distinct link
  client : link.client.secret = secret ∧ link.client.connected = true ∧ link.client.state = .ready
  counted : link.client.outSeq = link.sent % 2 ^ 32
  session : link.listening = true -> link.session.state = .ready ∧ link.session.InRange
  echoes : forall entry, entry ∈ link.served -> entry.frame.msgType = .data ->
    forall reply, reply ∈ entry.replies -> reply.payload = entry.frame.payload
  own : forall completion, completion ∈ link.returned -> forall reply, completion.result = .ok reply ->
    ⟨completion.frame, [reply]⟩ ∈ link.served

/-! ## A frame reaches the session -/

/-- What the session makes of a frame: it is silent and the loop ends, or the
replies are those of a reaction. -/
def Reacts (link : Link) (frame : Frame) (replies : List Frame) (stays : Bool) : Prop :=
  (replies = [] ∧ stays = false) ∨ ∃ reaction,
    (link.session.onFrame runtime nonce frame).result = .ok reaction ∧
      replies = reaction.frames ∧ stays = !reaction.close

/-- The link after a frame has been served. -/
def after (link : Link) (frame : Frame) (rest : Bytes) (replies : List Frame) (data : Bytes)
    (stays : Bool) : Link :=
  { link with
    session := (link.session.onFrame runtime nonce frame).session, listening := stays,
    toServer := rest, toClient := link.toClient ++ data,
    served := link.served ++ [⟨frame, replies⟩] }

theorem serve_cases {link next : Link} (served : link.serve runtime secret nonce = some next) :
    link.listening = true ∧ ∃ frame rest replies data stays,
      (readFrame runtime.toDigests secret).run link.toServer = (.returned frame, rest) ∧
      link.Reacts runtime nonce frame replies stays ∧
      join runtime.toDigests secret replies = .ok data ∧
      next = link.after runtime nonce frame rest replies data stays := by
  unfold serve at served
  by_cases deaf : link.listening = false
  · rw [if_pos deaf] at served
    cases served
  · rw [if_neg deaf] at served
    refine ⟨Bool.eq_true_of_not_eq_false deaf, ?_⟩
    have unanswered (frame : Frame) (rest : Bytes) :
        link.after runtime nonce frame rest [] [] false = { link with
          session := (link.session.onFrame runtime nonce frame).session, listening := false,
          toServer := rest, served := link.served ++ [⟨frame, []⟩] } := by
      rw [after, List.append_nil]
    split at served
    · rename_i frame rest read
      dsimp only at served
      split at served
      · cases served
        exact ⟨frame, rest, [], [], false, read, .inl ⟨rfl, rfl⟩, rfl, (unanswered frame rest).symm⟩
      · rename_i reaction result
        split at served
        · cases served
          exact ⟨frame, rest, [], [], false, read, .inl ⟨rfl, rfl⟩, rfl,
            (unanswered frame rest).symm⟩
        · rename_i data joined
          cases served
          exact ⟨frame, rest, reaction.frames, data, !reaction.close, read,
            .inr ⟨reaction, result, rfl, rfl⟩, joined, rfl⟩
    · cases served

section

variable {runtime : Runtime} {secret : Bytes} {nonce : Nonce} {link : Link}

/-- Frame by frame, a quiet stream stays quiet. -/
theorem Quiet.next {stream rest : Bytes} (quiet : link.Quiet runtime secret nonce stream)
    (listening : link.listening = true) (ready : link.session.state = .ready)
    (range : link.session.InRange) {frame : Frame}
    (read : (readFrame runtime.toDigests secret).run stream = (.returned frame, rest))
    {replies : List Frame} {stays : Bool} (reacts : link.Reacts runtime nonce frame replies stays) :
    replies = [] ∧ (stays = true ->
      (WirelineServer.handle runtime secret nonce (link.session.onFrame runtime nonce frame).session
        .endOfStream rest).written = []) := by
  rcases reacts with ⟨rfl, rfl⟩ | ⟨reaction, result, rfl, rfl⟩
  · exact ⟨rfl, nofun⟩
  · have silent := quiet listening
    rw [WirelineServer.handle_returned runtime secret nonce (.inr ready) range .endOfStream read,
      result] at silent
    dsimp only at silent
    cases closes : reaction.close with
    | true =>
        rw [closes, if_pos rfl] at silent
        exact ⟨silent, nofun⟩
    | false =>
        rw [closes, if_neg Bool.false_ne_true] at silent
        rcases List.append_eq_nil_iff.mp silent with ⟨now, later⟩
        exact ⟨now, fun _ => later⟩

theorem quiet_nil (link : Link) : link.Quiet runtime secret nonce [] := by
  intro _
  rw [WirelineServer.handle.eq_def]
  split
  · rfl
  · have nothing : (readFrame runtime.toDigests secret).run [] = (.incomplete, []) := by
      rw [readFrame, Pull.run, if_neg (by decide)]
    split
    · rfl
    · rename_i wrong
      rw [nothing] at wrong
      cases wrong
    · rename_i wrong
      rw [nothing] at wrong
      cases wrong

/-- The loop reads the first frame on the way. -/
theorem Numbered.front {unserved : List Frame} (numbered : Numbered runtime secret link unserved)
    {frame : Frame} {rest : Bytes}
    (read : (readFrame runtime.toDigests secret).run link.toServer = (.returned frame, rest)) :
    ∃ others, unserved = frame :: others ∧ join runtime.toDigests secret others = .ok rest := by
  cases unserved with
  | nil =>
      have empty : link.toServer = [] := (Except.ok.inj numbered.joined).symm
      rw [empty, readFrame, Pull.run, if_neg (by decide)] at read
      cases read
  | cons first others =>
      rcases join_cons _ numbered.joined with ⟨raw, later, encoded, joined, same⟩
      rw [same, run_readFrame_encoded _ encoded] at read
      cases read
      exact ⟨others, rfl, joined⟩

/-- Serving a frame leaves at most one answer on the way. -/
theorem Phase.served {frame : Frame} {others : List Frame}
    (phase : Phase runtime secret nonce link (frame :: others)) (listening : link.listening = true)
    (ready : link.session.state = .ready) (range : link.session.InRange) {rest : Bytes}
    (read : (readFrame runtime.toDigests secret).run link.toServer = (.returned frame, rest))
    (othersJoined : join runtime.toDigests secret others = .ok rest)
    {replies : List Frame} {data : Bytes} {stays : Bool}
    (reacts : link.Reacts runtime nonce frame replies stays)
    (joined : join runtime.toDigests secret replies = .ok data) :
    Phase runtime secret nonce (link.after runtime nonce frame rest replies data stays) others := by
  have silent (quiet : link.Quiet runtime secret nonce link.toServer) :
      data = [] ∧ (link.after runtime nonce frame rest replies data stays).Quiet runtime secret nonce
        rest := by
    rcases quiet.next listening ready range read reacts with ⟨rfl, later⟩
    exact ⟨(Except.ok.inj joined).symm, later⟩
  cases phase with
  | idle noCall noAnswer empty quiet =>
      rcases silent quiet with ⟨rfl, later⟩
      exact .idle noCall (by rw [after, noAnswer, List.append_nil]) empty later
  | unserved call unread noAnswer empty last earlierJoined quiet =>
      rename_i waiting earlier stream
      cases earlier with
      | nil =>
          rcases List.cons.inj last with ⟨rfl, rfl⟩
          cases othersJoined
          have reply := onFrame_handling runtime nonce (.inr ready) waiting.frame
          have single : replies = [] ∨ ∃ reply, replies = [reply] := by
            rcases reacts with ⟨none, _⟩ | ⟨reaction, result, same, _⟩
            · exact .inl none
            · rw [same]
              exact reply.one_reply result
          rcases single with rfl | ⟨answer, rfl⟩
          · cases joined
            exact .unanswered call unread (by rw [after, noAnswer, List.append_nil]) empty
              (quiet_nil _)
          · rcases join_cons _ joined with ⟨raw, tail, encoded, nothing, rfl⟩
            cases nothing
            have own : ⟨waiting.frame, [answer]⟩ ∈ (link.after runtime nonce waiting.frame []
                [answer] (raw ++ []) stays).served :=
              List.mem_append_right _ (List.mem_singleton_self _)
            refine .answered call own ?_ (quiet_nil _)
            rw [after, empty, noAnswer, unread]
            exact run_readFrame_encoded _ encoded []
      | cons first earlier =>
          rcases List.cons.inj last with ⟨rfl, rfl⟩
          rcases join_cons _ earlierJoined with ⟨raw, tail, encoded, tailJoined, rfl⟩
          rcases quiet.next listening ready range (run_readFrame_encoded _ encoded tail) reacts with
            ⟨rfl, later⟩
          cases joined
          exact .unserved call unread (by rw [after, noAnswer, List.append_nil]) empty rfl tailJoined
            later
  | unanswered call unread noAnswer empty quiet =>
      rcases silent quiet with ⟨rfl, later⟩
      exact .unanswered call unread (by rw [after, noAnswer, List.append_nil]) empty later
  | answered call own comes quiet =>
      rcases silent quiet with ⟨rfl, later⟩
      refine .answered call (List.mem_append_left _ own) ?_ later
      rw [after, List.append_nil]
      exact comes

/-- The frames that are left on the way are still new to the session. -/
theorem Numbered.served {frame : Frame} {others : List Frame}
    (numbered : Numbered runtime secret link (frame :: others)) (live : link.session.Open)
    {rest : Bytes} (othersJoined : join runtime.toDigests secret others = .ok rest)
    (replies : List Frame) (data : Bytes) (stays : Bool) :
    Numbered runtime secret (link.after runtime nonce frame rest replies data stays) others := by
  have accepted := (numbered.fresh frame List.mem_cons_self).1
  rcases List.pairwise_cons.mp numbered.increasing with ⟨smallest, increasing⟩
  have seen := (onFrame_handling runtime nonce live frame).lastPeerSeq_eq accepted
  refine ⟨othersJoined, increasing, ?_, ?_⟩
  · intro other member
    refine ⟨?_, (numbered.fresh other (List.mem_cons_of_mem frame member)).2⟩
    rw [after, seen]
    exact smallest other member
  · rw [after, seen]
    exact (numbered.fresh frame List.mem_cons_self).2

/-- A served DATA frame is answered with its own payload. -/
theorem Reacts.echo {frame : Frame} {replies : List Frame} {stays : Bool}
    (reacts : link.Reacts runtime nonce frame replies stays) (ready : link.session.state = .ready)
    (accepted : link.session.lastPeerSeq < frame.seq) (data : frame.msgType = .data) :
    forall reply, reply ∈ replies -> reply.payload = frame.payload := by
  have echoed := onFrame_echoed runtime nonce ready accepted (congrArg echoType data)
  rcases reacts with ⟨rfl, _⟩ | ⟨reaction, result, rfl, _⟩
  · exact nofun
  · rw [echoed] at result
    cases result
    intro reply member
    rw [List.mem_singleton.mp member]

/-- A session that stays in the loop stays ready. -/
theorem Reacts.ready {frame : Frame} {replies : List Frame} {stays : Bool}
    (reacts : link.Reacts runtime nonce frame replies stays) (ready : link.session.state = .ready)
    (range : link.session.InRange) (decoded : Encodable frame) (listening : stays = true) :
    (link.session.onFrame runtime nonce frame).session.state = .ready ∧
      (link.session.onFrame runtime nonce frame).session.InRange := by
  have handling := onFrame_handling runtime nonce (.inr ready) frame
  rcases reacts with ⟨_, rfl⟩ | ⟨reaction, result, _, rfl⟩
  · cases listening
  · exact ⟨(handling.ready_of_open result (Bool.eq_false_of_not_eq_true' listening)).1,
      (handling.encodable range decoded).1⟩

theorem Inv.serve {next : Link} {unserved : List Frame}
    (inv : Inv runtime secret nonce link unserved)
    (served : link.serve runtime secret nonce = some next) :
    ∃ others, Inv runtime secret nonce next others := by
  rcases serve_cases runtime secret nonce served with
    ⟨listening, frame, rest, replies, data, stays, read, reacts, joined, rfl⟩
  rcases inv.session listening with ⟨ready, range⟩
  rcases inv.numbered.front read with ⟨others, rfl, othersJoined⟩
  have accepted := (inv.numbered.fresh frame List.mem_cons_self).1
  refine ⟨others, inv.phase.served listening ready range read othersJoined reacts joined,
    inv.numbered.served (.inr ready) othersJoined replies data stays,
    ⟨inv.distinct.returned, inv.distinct.counted, inv.distinct.pending⟩, inv.client, inv.counted,
    ?_, ?_, ?_⟩
  · exact reacts.ready ready range (WirelineServer.encodable_of_read runtime secret read)
  · intro entry member
    rcases List.mem_append.mp member with old | new
    · exact inv.echoes entry old
    · rw [List.mem_singleton.mp new]
      exact reacts.echo ready accepted
  · intro completion member reply returned
    exact List.mem_append_left _ (inv.own completion member reply returned)

/-! ## A call begins and ends -/

/-- A call that has ended leaves nothing on the way. -/
theorem Inv.finish {unserved : List Frame} (inv : Inv runtime secret nonce link unserved)
    {waiting : Waiting} (call : link.pending = some waiting) (noAnswer : link.toClient = [])
    (quiet : link.Quiet runtime secret nonce link.toServer) (lastPeerSeq : Int)
    {result : Except PyError Frame}
    (own : forall reply, result = .ok reply -> ⟨waiting.frame, [reply]⟩ ∈ link.served) :
    Inv runtime secret nonce ({ link with buffer := [] }.finish
      { link.client with lastPeerSeq := lastPeerSeq } waiting result) unserved := by
  rcases inv.distinct.pending waiting call with ⟨counted, latest⟩
  refine ⟨.idle rfl noAnswer rfl quiet, ⟨inv.numbered.joined, inv.numbered.increasing,
    inv.numbered.fresh, inv.numbered.seen⟩, ⟨?_, ?_, nofun⟩, inv.client, inv.counted, inv.session, inv.echoes, ?_⟩
  · refine List.pairwise_append.mpr ⟨inv.distinct.returned, List.pairwise_singleton _ _, ?_⟩
    intro completion member new single
    rw [List.mem_singleton.mp single]
    exact latest completion member
  · intro completion member
    rcases List.mem_append.mp member with old | new
    · exact inv.distinct.counted completion old
    · rw [List.mem_singleton.mp new]
      exact counted
  · intro completion member reply returned
    rcases List.mem_append.mp member with old | new
    · exact inv.own completion old reply returned
    · rw [List.mem_singleton.mp new] at returned ⊢
      exact own reply returned

/-- The frame that a call writes takes the number of frames sent so far. -/
theorem Inv.request {unserved : List Frame} (inv : Inv runtime secret nonce link unserved)
    (few : link.sent < 2 ^ 32) (msgType : MsgType) (payload : Bytes) (flags : Int) :
    link.client.outSeq = link.sent ∧
      link.client.request runtime msgType payload flags =
        ({ link.client with outSeq := (link.sent + 1) % 2 ^ 32 },
          match encode runtime.toDigests ⟨msgType, link.sent, payload, flags⟩ secret with
          | .error raised => .error (.protocolError raised)
          | .ok data => .ok (⟨msgType, link.sent, payload, flags⟩, data)) := by
  rcases inv.client with ⟨same, connected, ready⟩
  have numbered : link.client.outSeq = link.sent := by
    rw [inv.counted]
    exact Nat.mod_eq_of_lt few
  have masked : (link.sent + 1) &&& maxSeq = (link.sent + 1) % 2 ^ 32 :=
    Nat.and_two_pow_sub_one_eq_mod _ 32
  refine ⟨numbered, ?_⟩
  rw [WirelineClient.request, if_neg (not_not.mpr ready), WirelineClient.send,
    if_neg (by rw [connected]; nofun), numbered, masked]
  subst same
  rfl

theorem Inv.call {next : Link} {unserved : List Frame}
    (inv : Inv runtime secret nonce link unserved) {msgType : MsgType} {payload : Bytes}
    {flags : Int}
    (stepped : link.step runtime secret nonce (.call msgType payload flags) = some next) :
    ∃ others, Inv runtime secret nonce next others := by
  rw [step] at stepped
  by_cases free : link.pending.isNone ∧ link.sent < 2 ^ 32
  · have noCall : link.pending = none := Option.isNone_iff_eq_none.mp free.1
    rcases inv.request free.2 msgType payload flags with ⟨numbered, requested⟩
    rw [if_pos free, requested] at stepped
    have fresh : forall frame, frame ∈ unserved ->
        link.session.lastPeerSeq < frame.seq ∧ frame.seq < (link.sent + 1 : Nat) := by
      intro frame member
      have older := inv.numbered.fresh frame member
      exact ⟨older.1, by omega⟩
    have seen : link.session.lastPeerSeq < (link.sent + 1 : Nat) := by
      have earlier := inv.numbered.seen
      omega
    have counted : forall completion, completion ∈ link.returned -> completion.frame.seq < (link.sent + 1 : Nat) := by
      intro completion member
      have older := inv.distinct.counted completion member
      omega
    cases inv.phase with
    | unserved call _ _ _ _ _ _ | unanswered call _ _ _ _ | answered call _ _ _ =>
        rw [noCall] at call
        cases call
    | idle _ noAnswer empty quiet =>
        cases encoded : encode runtime.toDigests ⟨msgType, link.sent, payload, flags⟩ secret with
        | error raised =>
            rw [encoded] at stepped
            cases stepped
            refine ⟨unserved, .idle noCall noAnswer empty quiet, ⟨inv.numbered.joined,
              inv.numbered.increasing, fresh, seen⟩, ⟨?_, ?_, ?_⟩, inv.client, rfl, inv.session,
              inv.echoes, ?_⟩
            · refine List.pairwise_append.mpr
                ⟨inv.distinct.returned, List.pairwise_singleton _ _, ?_⟩
              intro completion member new single
              rw [List.mem_singleton.mp single, numbered]
              exact inv.distinct.counted completion member
            · intro completion member
              rcases List.mem_append.mp member with old | new
              · exact counted completion old
              · rw [List.mem_singleton.mp new]
                dsimp only
                omega
            · intro waiting call
              rw [noCall] at call
              cases call
            · intro completion member reply returned
              rcases List.mem_append.mp member with old | new
              · exact inv.own completion old reply returned
              · rw [List.mem_singleton.mp new] at returned
                cases returned
        | ok data =>
            rw [encoded] at stepped
            cases stepped
            refine ⟨unserved ++ [⟨msgType, link.sent, payload, flags⟩],
              .unserved rfl rfl noAnswer empty rfl inv.numbered.joined quiet,
              ⟨join_append _ inv.numbered.joined (join_single _ encoded), ?_, ?_, seen⟩,
              ⟨inv.distinct.returned, counted, ?_⟩, inv.client, rfl, inv.session, inv.echoes,
              inv.own⟩
            · refine List.pairwise_append.mpr
                ⟨inv.numbered.increasing, List.pairwise_singleton _ _, ?_⟩
              intro frame member new single
              rw [List.mem_singleton.mp single]
              exact (inv.numbered.fresh frame member).2
            · intro frame member
              rcases List.mem_append.mp member with old | new
              · exact fresh frame old
              · rw [List.mem_singleton.mp new]
                exact ⟨inv.numbered.seen, by dsimp only; omega⟩
            · rintro waiting ⟨⟩
              refine ⟨by dsimp only; omega, ?_⟩
              exact inv.distinct.counted
  · rw [if_neg free] at stepped
    cases stepped

/-- Octets that arrive are on the way until the client reads them. -/
theorem Inv.arrive {unserved : List Frame} (inv : Inv runtime secret nonce link unserved)
    (size : Nat) :
    Inv runtime secret nonce { link with
      toClient := link.toClient.drop size,
      buffer := link.buffer ++ link.toClient.take size } unserved := by
  have nothing (noAnswer : link.toClient = []) : link.toClient.drop size = [] := by
    rw [noAnswer, List.drop_nil]
  have still (noAnswer : link.toClient = []) (empty : link.buffer = []) :
      link.buffer ++ link.toClient.take size = [] := by
    rw [noAnswer, empty, List.take_nil, List.append_nil]
  refine ⟨?_, ⟨inv.numbered.joined, inv.numbered.increasing, inv.numbered.fresh,
    inv.numbered.seen⟩, ⟨inv.distinct.returned, inv.distinct.counted, inv.distinct.pending⟩,
    inv.client, inv.counted, inv.session, inv.echoes, inv.own⟩
  cases inv.phase with
  | idle noCall noAnswer empty quiet =>
      exact .idle noCall (nothing noAnswer) (still noAnswer empty) quiet
  | unserved call unread noAnswer empty last joined quiet =>
      exact .unserved call unread (nothing noAnswer) (still noAnswer empty) last joined quiet
  | unanswered call unread noAnswer empty quiet =>
      exact .unanswered call unread (nothing noAnswer) (still noAnswer empty) quiet
  | answered call own comes quiet =>
      refine .answered call own ?_ quiet
      rw [List.append_assoc, List.take_append_drop]
      exact comes

/-- A read that is not at its end leaves the call pending. -/
theorem read_unread {waiting : Waiting} (call : link.pending = some waiting)
    (unread : waiting.read = readFrame runtime.toDigests secret) (empty : link.buffer = [])
    {next : Link} (stepped : link.step runtime secret nonce .read = some next) : next = link := by
  rw [step, call, Option.map_some, unread, empty, advance_readFrame_nil] at stepped
  have same : ({ link with
      buffer := [],
      pending := some ⟨waiting.frame, readFrame runtime.toDigests secret⟩ } : Link) = link := by
    rw [← unread, ← empty, ← call]
  exact (Option.some.inj stepped).symm.trans same

theorem Inv.read {next : Link} {unserved : List Frame}
    (inv : Inv runtime secret nonce link unserved)
    (stepped : link.step runtime secret nonce .read = some next) :
    Inv runtime secret nonce next unserved := by
  cases inv.phase with
  | idle noCall _ _ _ =>
      rw [step, noCall] at stepped
      cases stepped
  | unserved call unread _ empty _ _ _ | unanswered call unread _ empty _ =>
      rw [read_unread call unread empty stepped]
      exact inv
  | answered call own comes quiet =>
      rename_i waiting reply
      have further := Pull.run_advance waiting.read link.buffer link.toClient
      rw [comes] at further
      rw [step, call, Option.map_some] at stepped
      rcases advanced : waiting.read.advance link.buffer with ⟨pull, rest⟩
      rw [advanced] at stepped further
      cases pull with
      | done frame =>
          rcases Prod.mk.inj further with ⟨same, finished⟩
          rcases List.append_eq_nil_iff.mp finished with ⟨rfl, noAnswer⟩
          cases same
          dsimp only at stepped
          rw [WirelineClient.receive] at stepped
          by_cases stale : reply.seq ≤ link.client.lastPeerSeq
          · rw [if_pos stale] at stepped
            cases stepped
            refine inv.finish call noAnswer quiet link.client.lastPeerSeq ?_
            intro _ impossible
            cases impossible
          · rw [if_neg stale] at stepped
            cases stepped
            refine inv.finish call noAnswer quiet reply.seq ?_
            rintro _ ⟨⟩
            exact own
      | fail error => cases further
      | readexactly size resume =>
          cases stepped
          refine ⟨.answered rfl own further quiet, ⟨inv.numbered.joined, inv.numbered.increasing,
            inv.numbered.fresh, inv.numbered.seen⟩, ⟨inv.distinct.returned, inv.distinct.counted, ?_⟩,
            inv.client, inv.counted, inv.session, inv.echoes, inv.own⟩
          rintro _ ⟨⟩
          exact inv.distinct.pending waiting call

theorem Inv.timeout {next : Link} {unserved : List Frame}
    (inv : Inv runtime secret nonce link unserved)
    (patient : link.Patient runtime secret nonce .timeout)
    (stepped : link.step runtime secret nonce .timeout = some next) :
    Inv runtime secret nonce next unserved := by
  rcases Option.map_eq_some_iff.mp stepped with ⟨waiting, call, rfl⟩
  rcases patient waiting rfl call with ⟨silent, quiet⟩
  have unbuffered (empty : link.buffer = []) : ({ link with buffer := [] } : Link) = link := by
    rw [← empty]
  cases inv.phase with
  | idle noCall _ _ _ =>
      rw [noCall] at call
      cases call
  | unserved _ _ noAnswer empty _ _ _ | unanswered _ _ noAnswer empty _ =>
      have completion := inv.finish call noAnswer quiet link.client.lastPeerSeq
        (nofun : forall reply, Except.error PyError.timeoutError = .ok reply -> _)
      rw [unbuffered empty] at completion
      exact completion
  | answered same own _ _ =>
      rw [call] at same
      cases same
      cases silent _ own rfl

theorem Inv.endOfStream {next : Link} {unserved : List Frame}
    (inv : Inv runtime secret nonce link unserved)
    (stepped : link.step runtime secret nonce .endOfStream = some next) :
    Inv runtime secret nonce next unserved := by
  rw [step] at stepped
  by_cases ended : link.listening = false ∧ link.toClient = []
  · rw [if_pos ended] at stepped
    rcases Option.bind_eq_some_iff.mp stepped with ⟨waiting, call, stuck⟩
    split at stuck
    · rename_i size resume rest advanced
      cases stuck
      refine inv.finish call ended.2 ?_ link.client.lastPeerSeq nofun
      intro listening
      rw [ended.1] at listening
      cases listening
    · cases stuck
  · rw [if_neg ended] at stepped
    cases stepped

theorem Inv.step {next : Link} {unserved : List Frame} {event : LinkEvent}
    (inv : Inv runtime secret nonce link unserved)
    (patient : link.Patient runtime secret nonce event)
    (stepped : link.step runtime secret nonce event = some next) :
    ∃ others, Inv runtime secret nonce next others := by
  cases event with
  | call msgType payload flags => exact inv.call stepped
  | serve => exact inv.serve stepped
  | arrive size =>
      cases stepped
      exact ⟨unserved, inv.arrive size⟩
  | read => exact ⟨unserved, inv.read stepped⟩
  | timeout => exact ⟨unserved, inv.timeout patient stepped⟩
  | endOfStream => exact ⟨unserved, inv.endOfStream stepped⟩

end

theorem inv_ready (sessionId : SessionId) (clientId : String) (peerNonce : Nonce) :
    Inv runtime secret nonce (ready secret sessionId clientId peerNonce) [] := by
  have counted : 1 = 1 % 2 ^ 32 := by decide
  have seen : (0 : Int) < (1 : Nat) := by decide
  have range : 1 ≤ maxSeq ∧ -1 ≤ (0 : Int) ∧ (0 : Int) ≤ maxSeq := by decide
  exact ⟨.idle rfl rfl rfl (quiet_nil _),
    ⟨rfl, .nil, fun _ member => (nomatch member), seen⟩,
    ⟨.nil, fun _ member => (nomatch member), fun _ call => (nomatch call)⟩,
    ⟨rfl, rfl, rfl⟩, counted, fun _ => ⟨rfl, range.1, range.2⟩,
    fun _ member => (nomatch member), fun _ member => (nomatch member)⟩

theorem patient_of_other {link : Link} {event : LinkEvent} (other : event ≠ .timeout) :
    link.Patient runtime secret nonce event := by
  intro waiting same
  exact absurd same other

/-- The link behind a call of PONG, which nobody answers and which timed out. -/
def unanswered (sessionId : SessionId) (clientId : String) (peerNonce : Nonce) : Link where
  session := {
    sessionId := sessionId, state := .ready, clientId := clientId, peerNonce := peerNonce.text,
    outSeq := 1, lastPeerSeq := (1 : Nat) }
  listening := true
  client := ⟨secret, clientId, true, 2, 0, .ready, some sessionId.text⟩
  pending := none
  toServer := []
  toClient := []
  buffer := []
  sent := 2
  served := [⟨⟨.pong, (1 : Nat), [], 0⟩, []⟩]
  returned := [⟨⟨.pong, (1 : Nat), [], 0⟩, .error .timeoutError⟩]

theorem pong_unanswered (sessionId : SessionId) (clientId : String) (peerNonce : Nonce) :
    ∃ link, Execution.run (step runtime secret nonce) (ready secret sessionId clientId peerNonce)
        [.call .pong [] 0, .serve, .timeout] = some link ∧
      link = unanswered secret sessionId clientId peerNonce ∧
      Execution.Along (step runtime secret nonce) (Patient runtime secret nonce)
        (ready secret sessionId clientId peerNonce) [.call .pong [] 0, .serve, .timeout] := by
  have checks : Encodable ⟨.pong, (1 : Nat), [], 0⟩ := by decide
  rcases exists_encode runtime.toDigests checks secret with ⟨pong, encoded⟩
  have room : 1 < 2 ^ 32 := by decide
  have accepted : (0 : Int) < Frame.seq ⟨.pong, (1 : Nat), [], 0⟩ := by decide
  refine Execution.reaches_along_of_step _ (patient_of_other _ _ _ (by nofun))
    (step_call rfl room rfl rfl encoded) ?_
  refine Execution.reaches_along_of_step _ (patient_of_other _ _ _ (by nofun))
    (serve_pong rfl rfl accepted rfl encoded (List.append_nil pong).symm) ?_
  refine Execution.reaches_along_of_step _ ?_ rfl ?_
  · rintro waiting _ ⟨⟩
    refine ⟨?_, quiet_nil _⟩
    intro entry member _
    rw [List.mem_singleton.mp member]
  · refine ⟨_, rfl, ?_, trivial⟩
    have counted : (1 + 1) &&& maxSeq = 2 := by decide
    change Link.mk _ _ ⟨_, _, _, (1 + 1) &&& maxSeq, _, _, _⟩ _ _ _ _ _ _ _ = _
    rw [counted]
    rfl

/-- A DATA that is served at once returns its payload. -/
theorem data_prompt (sessionId : SessionId) (clientId : String) (peerNonce : Nonce)
    {payload : Bytes} (fits : payload.length ≤ maxPayload) :
    ∃ size link, Execution.run (step runtime secret nonce)
        (unanswered secret sessionId clientId peerNonce)
        [.call .data payload 0, .serve, .arrive size, .read] = some link ∧
      link.returned = [⟨⟨.pong, (1 : Nat), [], 0⟩, .error .timeoutError⟩,
        ⟨⟨.data, (2 : Nat), payload, 0⟩, .ok ⟨.data, (1 : Nat), payload, 0⟩⟩] := by
  have checks : Encodable ⟨.data, (2 : Nat), payload, 0⟩ := encodable_plain fits (by decide)
  have answerChecks : Encodable ⟨.data, (1 : Nat), payload, 0⟩ := encodable_plain fits (by decide)
  rcases exists_encode runtime.toDigests checks secret with ⟨data, encoded⟩
  rcases exists_encode runtime.toDigests answerChecks secret with ⟨answer, answered⟩
  have room : 2 < 2 ^ 32 := by decide
  have accepted : ((1 : Nat) : Int) < (2 : Nat) := by decide
  have fresh : (0 : Int) < (1 : Nat) := by decide
  have whole : data = data ++ [] := (List.append_nil data).symm
  have arrived : answer = answer ++ [] := (List.append_nil answer).symm
  refine ⟨answer.length, ?_⟩
  apply Execution.reaches_of_step _ (step_call rfl room rfl rfl encoded)
  apply Execution.reaches_of_step _ (serve_data rfl rfl accepted rfl encoded whole answered)
  apply Execution.reaches_of_step _ rfl
  apply Execution.reaches_of_step _
    (step_read rfl rfl answered ((List.take_length).trans arrived) fresh)
  exact ⟨_, rfl, rfl⟩

/-- A first DATA times out and is answered late; the second call returns the
answer. -/
theorem data_late (sessionId : SessionId) (clientId : String) (peerNonce : Nonce)
    {payload other : Bytes} (fits : payload.length ≤ maxPayload)
    (otherFits : other.length ≤ maxPayload) :
    ∃ size link, Execution.run (step runtime secret nonce)
        (ready secret sessionId clientId peerNonce)
        [.call .data payload 0, .timeout, .call .data other 0, .serve, .arrive size, .read] =
          some link ∧
      link.returned = [⟨⟨.data, (1 : Nat), payload, 0⟩, .error .timeoutError⟩,
        ⟨⟨.data, (2 : Nat), other, 0⟩, .ok ⟨.data, (1 : Nat), payload, 0⟩⟩] := by
  have checks : Encodable ⟨.data, (1 : Nat), payload, 0⟩ := encodable_plain fits (by decide)
  have otherChecks : Encodable ⟨.data, ((1 + 1) &&& maxSeq : Nat), other, 0⟩ :=
    encodable_plain otherFits (by decide)
  rcases exists_encode runtime.toDigests checks secret with ⟨data, encoded⟩
  rcases exists_encode runtime.toDigests otherChecks secret with ⟨otherData, otherEncoded⟩
  have room : 1 < 2 ^ 32 ∧ 1 + 1 < 2 ^ 32 := by decide
  have accepted : (0 : Int) < (1 : Nat) := by decide
  refine ⟨data.length, ?_⟩
  apply Execution.reaches_of_step _ (step_call rfl room.1 rfl rfl encoded)
  apply Execution.reaches_of_step _ rfl
  apply Execution.reaches_of_step _ (step_call rfl room.2 rfl rfl otherEncoded)
  apply Execution.reaches_of_step _ (serve_data rfl rfl accepted rfl encoded rfl encoded)
  apply Execution.reaches_of_step _ rfl
  apply Execution.reaches_of_step _
    (step_read rfl rfl encoded ((List.take_length).trans (List.append_nil data).symm) accepted)
  refine ⟨_, rfl, ?_⟩
  rw [show 2 = (1 + 1) &&& maxSeq by decide]
  rfl

/-- In a run of a ready client whose calls time out only where the server says
nothing, every reply that a call returns is the session's reaction to the
frame of that call, and to no other.  In particular DATA returns its payload. -/
theorem reply_of_patient (sessionId : SessionId) (clientId : String) (peerNonce : Nonce)
    {events : List LinkEvent} {link : Link}
    (reached : Execution.run (step runtime secret nonce)
      (ready secret sessionId clientId peerNonce) events = some link)
    (patient : Execution.Along (step runtime secret nonce) (Patient runtime secret nonce)
      (ready secret sessionId clientId peerNonce) events) :
    link.returned.Pairwise (fun earlier later => earlier.frame.seq < later.frame.seq) ∧
      forall completion, completion ∈ link.returned -> forall reply, completion.result = .ok reply ->
        ⟨completion.frame, [reply]⟩ ∈ link.served ∧
          (completion.frame.msgType = .data -> reply.payload = completion.frame.payload) := by
  have kept {before next : Link} {event : LinkEvent}
      (inv : ∃ unserved, Inv runtime secret nonce before unserved)
      (holds : before.Patient runtime secret nonce event)
      (stepped : before.step runtime secret nonce event = some next) :
      ∃ unserved, Inv runtime secret nonce next unserved := by
    rcases inv with ⟨unserved, inv⟩
    exact inv.step holds stepped
  rcases Execution.run_invariant_along _ kept
    ⟨[], inv_ready runtime secret nonce sessionId clientId peerNonce⟩ patient reached with
    ⟨unserved, inv⟩
  refine ⟨inv.distinct.returned, ?_⟩
  intro completion member reply returned
  have own := inv.own completion member reply returned
  exact ⟨own, fun data => inv.echoes _ own data reply (List.mem_singleton_self _)⟩

/-- A call of PONG, which nobody answers, times out; the DATA behind it returns
its own payload. -/
theorem reply_of_patient_unanswered : ∃ events link,
    Execution.run (step Reference.runtime Reference.secret Reference.nonce)
        (ready Reference.secret Reference.sessionId "client" Reference.nonce) events = some link ∧
      link.returned.map Returned.result =
        [.error .timeoutError, .ok ⟨.data, (1 : Nat), [1, 2, 3], 0⟩] ∧
      ⟨⟨.data, (2 : Nat), [1, 2, 3], 0⟩, [⟨.data, (1 : Nat), [1, 2, 3], 0⟩]⟩ ∈ link.served := by
  have fits : ([1, 2, 3] : Bytes).length ≤ maxPayload := by decide
  rcases pong_unanswered Reference.runtime Reference.secret Reference.nonce Reference.sessionId
    "client" Reference.nonce with ⟨_, timedOut, rfl, patient⟩
  rcases data_prompt Reference.runtime Reference.secret Reference.nonce Reference.sessionId
    "client" Reference.nonce fits with ⟨size, link, prompt, returned⟩
  have later : Execution.Along (step Reference.runtime Reference.secret Reference.nonce)
      (Patient Reference.runtime Reference.secret Reference.nonce)
      (unanswered Reference.secret Reference.sessionId "client" Reference.nonce)
      [.call .data [1, 2, 3] 0, .serve, .arrive size, .read] := by
    apply Execution.along_of_forall
    intro event member link
    apply patient_of_other
    rintro rfl
    simp at member
  have along := Execution.along_append _ patient timedOut later
  have reached := Execution.run_trans _ timedOut prompt
  have member : (⟨⟨.data, (2 : Nat), [1, 2, 3], 0⟩, .ok ⟨.data, (1 : Nat), [1, 2, 3], 0⟩⟩ :
      Returned) ∈ link.returned := by
    rw [returned]
    exact List.mem_cons_of_mem _ List.mem_cons_self
  have own := (reply_of_patient Reference.runtime Reference.secret Reference.nonce
    Reference.sessionId "client" Reference.nonce reached along).2 _ member _ rfl
  refine ⟨_, link, reached, ?_, own.1⟩
  rw [returned]
  rfl

/-- The second call returns the answer to the first, which had timed out. -/
theorem late_answer_returned : ∃ events link,
    Execution.run (step Reference.runtime Reference.secret Reference.nonce)
        (ready Reference.secret Reference.sessionId "client" Reference.nonce) events = some link ∧
      link.returned = [⟨⟨.data, (1 : Nat), [1], 0⟩, .error .timeoutError⟩,
        ⟨⟨.data, (2 : Nat), [2], 0⟩, .ok ⟨.data, (1 : Nat), [1], 0⟩⟩] := by
  have fits : ([1] : Bytes).length ≤ maxPayload ∧ ([2] : Bytes).length ≤ maxPayload := by decide
  rcases data_late Reference.runtime Reference.secret Reference.nonce Reference.sessionId "client"
    Reference.nonce fits.1 fits.2 with ⟨size, late⟩
  exact ⟨_, late⟩

end Link
end Wireline
