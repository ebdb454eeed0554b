import Wireline.Udp.Faultless

namespace Wireline

/-!
# A returned reply answers its own request

An answer starts with the acknowledgement of the request it answers, and its
last frame is the echo of that request or an ERROR.  This holds for every
datagram the server sends and for every reply it stores, whatever copies
reach it, in whatever order, and across all sessions of the address.  The
client returns from a request only on an acknowledgement of its own number,
and the numbers of a run are distinct.
-/

/-- The shape of an answer to a request with this number. -/
def Answers (digests : Digests) (secret : Bytes) (request : Request) (seq : Int)
    (data : Bytes) : Prop :=
  ∃ number replies,
    splitDatagram digests data secret = .ok (⟨.ack, number, encodeAck seq, 0⟩ :: replies) ∧
      forall kind, echoType request.msgType = some kind -> ∃ reply, replies = [reply] ∧
        (reply.msgType = .error ∨ (reply.msgType = kind ∧ reply.payload = request.payload))

/-- A request that asks for an echo gets it, or an ERROR. -/
theorem Handling.echo {runtime : Runtime} {nonce : Nonce} {session : ServerSession} {frame : Frame}
    {turn : Turn} (handling : Handling runtime nonce session frame turn) {reaction : Reaction}
    (result : turn.result = .ok reaction) {kind : MsgType}
    (asks : echoType frame.msgType = some kind) :
    ∃ reply, reaction.frames = [reply] ∧
      (reply.msgType = .error ∨ (reply.msgType = kind ∧ reply.payload = frame.payload)) := by
  cases handling with
  | stale late =>
      cases result
      exact ⟨_, rfl, .inl rfl⟩
  | refused accepted refuses handler ran =>
      cases result
      exact ⟨_, rfl, .inl rfl⟩
  | escaped accepted escapes handler ran => cases result
  | welcomed accepted fresh hello wellFormed => simp [hello, echoType] at asks
  | echoed accepted ready echo =>
      cases result
      rw [asks] at echo
      cases echo
      exact ⟨_, rfl, .inr ⟨rfl, rfl⟩⟩
  | ignored accepted ready silent => rcases silent with kind | kind <;> simp [kind, echoType] at asks
  | farewell accepted ready bye => simp [bye, echoType] at asks
  | reported accepted ready report decoded => simp [report, echoType] at asks

/-- A frame that asks for an acknowledgement is answered by a datagram that
starts with it. -/
theorem answers_of_join {digests : Digests} {runtime : Runtime} {nonce : Nonce} {secret : Bytes}
    {session : ServerSession} {frame : Frame} {turn : Turn}
    (handling : Handling runtime nonce (UdpServer.acks session frame).2 frame turn)
    {reaction : Reaction} (result : turn.result = .ok reaction) {issued : List Request} {seq : Nat}
    {request : Request} (copy : World.IsCopy issued seq request frame) {reply : Bytes}
    (joined : join digests secret ((UdpServer.acks session frame).1 ++ reaction.frames) = .ok reply) :
    Answers digests secret request seq reply := by
  have split := splitDatagram_join digests joined
  have acked : (UdpServer.acks session frame).1 = [⟨.ack, session.outSeq, encodeAck seq, 0⟩] := by
    rw [UdpServer.acks, if_pos copy.asks, copy.number]
    rfl
  rw [acked] at split
  refine ⟨session.outSeq, reaction.frames, split, ?_⟩
  intro kind asks
  rw [← copy.kind] at asks
  rw [← copy.payload]
  exact handling.echo result asks

theorem Answers.ne_nil {digests : Digests} {secret : Bytes} {request : Request} {seq : Int}
    {data : Bytes} (answers : Answers digests secret request seq data) : data ≠ [] := by
  rintro rfl
  rcases answers with ⟨number, replies, split, _⟩
  rw [splitDatagram_join digests (rfl : join digests secret [] = .ok [])] at split
  cases split

/-- An answer acknowledges one number. -/
theorem Answers.seq_eq {runtime : Runtime} {secret : Bytes} {request : Request} {seq other : Int}
    {data : Bytes} (answers : Answers runtime.toDigests secret request seq data)
    (range : 0 ≤ seq ∧ seq ≤ maxSeq) {first : Frame} {rest : List Frame}
    (split : splitDatagram runtime.toDigests data secret = .ok (first :: rest))
    (own : UdpClient.answersSeq runtime other first = .ok true) : seq = other := by
  rcases answers with ⟨number, replies, sameSplit, _⟩
  rw [split] at sameSplit
  cases sameSplit
  rw [UdpClient.answersSeq, if_pos rfl, decodeAck_encodeAck runtime range] at own
  have decided : decide (seq = other) = true := Except.ok.inj own
  exact of_decide_eq_true decided

namespace World

variable {Addr : Type} (runtime : Runtime) (deployment : Deployment Addr)

/-- What the server stores and sends are answers, what the client holds comes
from the server, and what it has returned started with its own number. -/
structure Paired (world : World Addr) : Prop where
  cached : forall {peer}, world.server.peers deployment.addr = some peer ->
    forall entry, entry ∈ peer.dedup.entries -> ∃ seq request, entry.1 = ((seq : Nat) : Int) ∧
      world.issued[seq]? = some request ∧
        Answers runtime.toDigests deployment.secret request seq entry.2
  sent : forall answer, answer ∈ world.toClient -> ∃ frame seq request,
    decode runtime.toDigests answer.cause (some deployment.secret) = .ok frame ∧
      IsCopy world.issued seq request frame ∧
        Answers runtime.toDigests deployment.secret request seq answer.data
  queued : forall data, data ∈ world.client.queue ->
    ∃ answer, answer ∈ world.toClient ∧ answer.data = data
  returned : forall completion, completion ∈ world.completed -> forall reply, completion.result = .ok reply ->
    world.issued[completion.seq]? = some completion.request ∧ ∃ answer first rest,
      answer ∈ world.toClient ∧ completion.source = some answer.data ∧
      splitDatagram runtime.toDigests answer.data deployment.secret = .ok (first :: rest) ∧
      UdpClient.answersSeq runtime completion.seq first = .ok true ∧
      reply = rest.getLastD first ∧ reply.msgType ≠ .error

variable {runtime} {deployment} [DecidableEq Addr]

theorem Paired.deliver {world : World Addr} (paired : Paired runtime deployment world)
    (traffic : Traffic runtime deployment world) {data : Bytes} (sent : data ∈ world.toServer)
    (draw : Draw) : Paired runtime deployment (world.deliver runtime deployment data draw) := by
  rcases traffic.copies data sent with ⟨frame, seq, request, decoded, copy⟩
  have treatment := traffic.treatment draw decoded
  have extend (more : List Answer) (answers : forall answer, answer ∈ more -> ∃ frame seq request,
        decode runtime.toDigests answer.cause (some deployment.secret) = .ok frame ∧
          IsCopy world.issued seq request frame ∧
            Answers runtime.toDigests deployment.secret request seq answer.data)
      (answer : Answer) (member : answer ∈ world.toClient ++ more) : ∃ frame seq request,
        decode runtime.toDigests answer.cause (some deployment.secret) = .ok frame ∧
          IsCopy world.issued seq request frame ∧
            Answers runtime.toDigests deployment.secret request seq answer.data := by
    rcases List.mem_append.mp member with old | new
    · exact paired.sent answer old
    · exact answers answer new
  have queued (more : List Answer) (datagram : Bytes) (member : datagram ∈ world.client.queue) :
      ∃ answer, answer ∈ world.toClient ++ more ∧ answer.data = datagram := by
    rcases paired.queued datagram member with ⟨answer, old, same⟩
    exact ⟨answer, List.mem_append_left more old, same⟩
  have returned (more : List Answer) (completion : Completed) (member : completion ∈ world.completed)
      (reply : Frame) (result : completion.result = .ok reply) :
      world.issued[completion.seq]? = some completion.request ∧ ∃ answer first rest,
        answer ∈ world.toClient ++ more ∧ completion.source = some answer.data ∧
        splitDatagram runtime.toDigests answer.data deployment.secret = .ok (first :: rest) ∧
        UdpClient.answersSeq runtime completion.seq first = .ok true ∧
        reply = rest.getLastD first ∧ reply.msgType ≠ .error := by
    rcases paired.returned completion member reply result with ⟨issued, answer, first, rest, old, parts⟩
    exact ⟨issued, answer, first, rest, List.mem_append_left more old, parts⟩
  rw [World.deliver]
  generalize world.server.onDatagram runtime data deployment.addr draw = delivery at treatment
  cases treatment with
  | replayed known hit =>
      refine ⟨paired.cached, extend _ ?_, queued _, returned _⟩
      rcases paired.cached known _ (DedupWindow.mem_of_get hit) with
        ⟨number, original, same, issued, answers⟩
      have numbers : number = seq := by
        have natural : ((number : Nat) : Int) = seq := same.symm.trans copy.number
        omega
      rw [numbers, copy.issued] at issued
      cases issued
      rw [numbers] at answers
      rw [if_pos answers.ne_nil]
      intro answer member
      rw [List.mem_singleton.mp member]
      exact ⟨frame, seq, request, decoded, copy, answers⟩
  | raised missed handling result =>
      refine ⟨?_, extend _ (fun _ member => by cases member), queued _, returned _⟩
      intro stored known entry member
      dsimp only at known
      rw [UdpServer.peers_setPeer_self] at known
      cases known
      cases found : world.server.peers deployment.addr with
      | none =>
          rw [UdpServer.peer_of_unknown found] at member
          cases member
      | some peer =>
          rw [UdpServer.peer_of_known found] at member
          exact paired.cached found entry member
  | answered missed handling result joined =>
      rw [traffic.serverSecret] at joined
      have answers := answers_of_join handling result copy joined
      refine ⟨?_, extend _ ?_, queued _, returned _⟩
      · intro stored known entry member
        rcases UdpServer.settle_known known with ⟨closes, rfl⟩
        rcases DedupWindow.mem_put member with old | new
        · cases found : world.server.peers deployment.addr with
          | none =>
              rw [UdpServer.peer_of_unknown found] at old
              cases old
          | some peer =>
              rw [UdpServer.peer_of_known found] at old
              exact paired.cached found entry old
        · rw [new]
          exact ⟨seq, request, copy.number, copy.issued, answers⟩
      · rw [if_pos answers.ne_nil]
        intro answer member
        rw [List.mem_singleton.mp member]
        exact ⟨frame, seq, request, decoded, copy, answers⟩

theorem Paired.step {world next : World Addr} {event : Event}
    (paired : Paired runtime deployment world) (traffic : Traffic runtime deployment world)
    (stepped : world.step runtime deployment event = some next) :
    Paired runtime deployment next := by
  rcases step_server stepped with ⟨index, draw, data, rfl, found, rfl⟩ | ⟨server, toClient, _, _, _⟩
  · exact paired.deliver traffic (List.mem_of_getElem? found) draw
  · rcases step_client stepped with ⟨more, finished, issued, completed, queue, ended⟩
    have older {seq : Nat} {request : Request} (held : world.issued[seq]? = some request) :
        next.issued[seq]? = some request := by
      have inside := (List.getElem?_eq_some_iff.mp held).1
      rw [issued, List.getElem?_append_left inside]
      exact held
    constructor
    · intro peer known entry member
      rw [server] at known
      rcases paired.cached known entry member with ⟨seq, request, number, held, answers⟩
      exact ⟨seq, request, number, older held, answers⟩
    · intro answer member
      rw [toClient] at member
      rcases paired.sent answer member with ⟨frame, seq, request, decoded, copy, answers⟩
      refine ⟨frame, seq, request, decoded, ?_, answers⟩
      rw [issued]
      exact copy.mono more
    · intro data member
      rw [toClient]
      rcases queue data member with old | new
      · exact paired.queued data old
      · exact new
    · intro completion member reply result
      rw [completed] at member
      rw [toClient]
      rcases List.mem_append.mp member with old | new
      · rcases paired.returned completion old reply result with ⟨held, parts⟩
        exact ⟨older held, parts⟩
      · rcases ended completion new reply result with ⟨pending, data, current, rfl, queued, judged⟩
        rw [traffic.clientSecret] at judged
        rcases UdpClient.judge_returned judged with ⟨first, rest, split, own, last, harmless⟩
        rcases paired.queued data queued with ⟨answer, sent, rfl⟩
        exact ⟨older (traffic.current pending current),
          answer, first, rest, sent, rfl, split, own, last, harmless⟩

theorem paired_of_run {events : List Event} {world : World Addr}
    (reached : Execution.run (World.step runtime deployment) (start deployment) events = some world) :
    Traffic runtime deployment world ∧ Paired runtime deployment world := by
  have kept {before : World Addr} {event : Event} {after : World Addr}
      (holds : Traffic runtime deployment before ∧ Paired runtime deployment before)
      (stepped : before.step runtime deployment event = some after) :
      Traffic runtime deployment after ∧ Paired runtime deployment after :=
    ⟨holds.1.step stepped, holds.2.step holds.1 stepped⟩
  exact Execution.run_invariant _ kept
    ⟨traffic_start runtime deployment, ⟨fun known => (nomatch known), fun _ member => (nomatch member),
      fun _ member => (nomatch member), fun _ member => (nomatch member)⟩⟩ reached

/-- A request that returns, returns the echo of its own payload: DATA for
DATA and PONG for PING.  The datagram that carried it was sent in answer to
copies of this request only. -/
theorem returned_reply_answers {events : List Event} {world : World Addr}
    (reached : Execution.run (World.step runtime deployment) (start deployment) events = some world)
    {completion : Completed} (member : completion ∈ world.completed) {reply : Frame}
    (result : completion.result = .ok reply) :
    world.issued[completion.seq]? = some completion.request ∧
      (completion.request.msgType = .data ->
        reply.msgType = .data ∧ reply.payload = completion.request.payload) ∧
      (completion.request.msgType = .ping ->
        reply.msgType = .pong ∧ reply.payload = completion.request.payload) ∧
      ∃ data, completion.source = some data ∧ (∃ answer, answer ∈ world.toClient ∧ answer.data = data) ∧
        forall answer, answer ∈ world.toClient -> answer.data = data ->
          ∃ frame, decode runtime.toDigests answer.cause (some deployment.secret) = .ok frame ∧
            IsCopy world.issued completion.seq completion.request frame := by
  have paired := (paired_of_run reached).2
  rcases paired.returned completion member reply result with
    ⟨issued, source, first, rest, sent, came, split, own, last, harmless⟩
  -- every answer with these octets was caused by a copy of this request
  have caused (answer : Answer) (from_server : answer ∈ world.toClient)
      (same : answer.data = source.data) :
      ∃ frame, decode runtime.toDigests answer.cause (some deployment.secret) = .ok frame ∧
        IsCopy world.issued completion.seq completion.request frame ∧
        Answers runtime.toDigests deployment.secret completion.request completion.seq answer.data := by
    rcases paired.sent answer from_server with ⟨frame, seq, request, decoded, copy, answers⟩
    have range := (encodable_of_decode runtime.toDigests decoded).seq
    rw [copy.number] at range
    rw [← same] at split
    have numbers := answers.seq_eq range split own
    have natural : seq = completion.seq := by omega
    subst natural
    have requests := copy.issued.symm.trans issued
    cases requests
    exact ⟨frame, decoded, copy, answers⟩
  have echo (kind : MsgType) (asks : echoType completion.request.msgType = some kind) :
      reply.msgType = kind ∧ reply.payload = completion.request.payload := by
    rcases caused source sent rfl with ⟨_, _, _, number, replies, sameSplit, echoed⟩
    rw [split] at sameSplit
    cases sameSplit
    rcases echoed kind asks with ⟨answer, rfl, error | good⟩
    · rw [last] at harmless
      exact absurd error harmless
    · rw [last]
      exact good
  refine ⟨issued, ?_, ?_, source.data, came, ⟨source, sent, rfl⟩, ?_⟩
  · intro data
    exact echo .data (by rw [data]; rfl)
  · intro ping
    exact echo .pong (by rw [ping]; rfl)
  · intro answer from_server same
    rcases caused answer from_server same with ⟨frame, decoded, copy, _⟩
    exact ⟨frame, decoded, copy⟩

/-- A DATA over a network without faults. -/
theorem returned_reply_answers_data : ∃ events, ∃ world : World Nat, ∃ completion reply,
    Execution.run (World.step Reference.runtime Reference.deployment) (start Reference.deployment)
        events = some world ∧
      completion ∈ world.completed ∧ completion.result = .ok reply ∧ completion.request = ⟨.data, [1, 2, 3]⟩ ∧
      reply.msgType = .data ∧ reply.payload = [1, 2, 3] := by
  have fits : ([1, 2, 3] : Bytes).length ≤ maxPayload := by decide
  rcases data_faultless Reference.runtime Reference.deployment Reference.nonce Reference.draw
    Reference.hello_fits (by decide) fits with
    ⟨world, _, _, outSeq, _, greeting, stored, reached, _, _, _, _, _, _, _, _, completed⟩
  have member : (⟨⟨.data, [1, 2, 3]⟩, 1, some stored, .ok ⟨.data, outSeq, [1, 2, 3], 0⟩⟩ : Completed) ∈
      world.completed := by
    rw [completed]
    exact List.mem_cons_of_mem greeting (List.mem_singleton_self _)
  have echo := (returned_reply_answers reached member rfl).2.1 rfl
  exact ⟨_, world, _, _, reached, member, rfl, rfl, echo⟩

end World
end Wireline
