import Wireline.Udp.AtMostOnce

namespace Wireline

/-!
# What late frames do to a session

A late frame meets a ready session in one of three ways.  Its number may be
in the window, and then it is answered from it.  Its number may be new, and
then it is handled.  Or it lies at or below the last accepted number and the
window does not hold it: the window has forgotten it, or a later request has
overtaken it.  Such a frame closes the session.

So a session survives a run exactly if every frame that reaches it is
`Covered`.
-/

/-- A datagram without an ERROR frame. -/
def Clean (digests : Digests) (secret data : Bytes) : Prop :=
  forall frames, splitDatagram digests data secret = .ok frames ->
    forall frame, frame ∈ frames -> frame.msgType ≠ .error

theorem clean_of_join {digests : Digests} {secret data : Bytes} {frames : List Frame}
    (joined : join digests secret frames = .ok data)
    (clean : forall frame, frame ∈ frames -> frame.msgType ≠ .error) :
    Clean digests secret data := by
  intro others split
  rw [splitDatagram_join digests joined] at split
  cases split
  exact clean

theorem UdpServer.kind_of_acks {session : ServerSession} {frame ack : Frame}
    (member : ack ∈ (UdpServer.acks session frame).1) : ack.msgType = .ack := by
  rw [UdpServer.acks] at member
  by_cases asked : Int.land frame.flags flagRequireAck ≠ 0
  · rw [if_pos asked] at member
    rw [List.mem_singleton.mp member]
    rfl
  · rw [if_neg asked] at member
    cases member

/-- A reaction that stays open reports no error. -/
theorem Handling.clean_of_open {runtime : Runtime} {nonce : Nonce} {session : ServerSession}
    {frame : Frame} {turn : Turn} (handling : Handling runtime nonce session frame turn)
    {reaction : Reaction} (result : turn.result = .ok reaction) (stays : reaction.close = false) :
    forall reply, reply ∈ reaction.frames -> reply.msgType ≠ .error := by
  intro reply member
  cases handling with
  | welcomed accepted fresh hello wellFormed =>
      cases result
      rw [List.mem_singleton.mp member]
      nofun
  | echoed accepted ready echo =>
      cases result
      rw [List.mem_singleton.mp member]
      cases kind : frame.msgType <;> simp [kind, echoType] at echo <;> simp [← echo]
  | ignored accepted ready silent =>
      cases result
      cases member
  | escaped accepted escapes handler ran => cases result
  | stale _ | refused _ _ _ _ | farewell _ _ _ | reported _ _ _ _ =>
      cases result
      cases stays

/-- A ready session stays open on a DATA or a PING with a new number. -/
theorem Handling.open_of_request {runtime : Runtime} {nonce : Nonce} {session : ServerSession}
    {frame : Frame} {turn : Turn} (handling : Handling runtime nonce session frame turn)
    (ready : session.state = .ready) (accepted : session.lastPeerSeq < frame.seq)
    (kind : frame.msgType = .data ∨ frame.msgType = .ping) {reaction : Reaction}
    (result : turn.result = .ok reaction) : reaction.close = false := by
  cases handling with
  | stale late => omega
  | refused _ refuses _ _ =>
      rw [ready] at refuses
      cases refuses with
      | beforeHandshake fresh _ | malformedHello fresh _ _ => cases fresh
      | secondHello _ other | helloAck _ other | malformedError _ other _ =>
          simp [other] at kind
  | escaped _ _ _ _ => cases result
  | welcomed _ _ _ _ | echoed _ _ _ | ignored _ _ _ =>
      cases result
      rfl
  | farewell _ _ other | reported _ _ other _ => simp [other] at kind

/-- What is joined for a reaction that stays open reports no error. -/
theorem Handling.clean_reply {runtime : Runtime} {nonce : Nonce} {session : ServerSession}
    {frame : Frame} {turn : Turn} (handling : Handling runtime nonce session frame turn)
    {reaction : Reaction} (result : turn.result = .ok reaction) (stays : reaction.close = false)
    {before : ServerSession} {secret reply : Bytes}
    (joined : join runtime.toDigests secret
      ((UdpServer.acks before frame).1 ++ reaction.frames) = .ok reply) :
    Clean runtime.toDigests secret reply := by
  apply clean_of_join joined
  intro other member
  rcases List.mem_append.mp member with ack | answer
  · rw [UdpServer.kind_of_acks ack]
    decide
  · exact handling.clean_of_open result stays other answer

namespace World

variable {Addr : Type} (runtime : Runtime) (deployment : Deployment Addr)

/-- The session of the client's address is ready. -/
def Ready (world : World Addr) : Prop :=
  ∃ peer, world.server.peers deployment.addr = some peer ∧ peer.session.state = .ready

/-- Every frame that reaches the session is in the window or new. -/
def Covered (world : World Addr) (event : Event) : Prop :=
  forall index draw data frame peer, event = .deliver index draw ->
    world.toServer[index]? = some data ->
    decode runtime.toDigests data (some deployment.secret) = .ok frame ->
    world.server.peers deployment.addr = some peer ->
    (∃ cached, peer.dedup.get frame.seq = some cached) ∨ peer.session.lastPeerSeq < frame.seq

variable [DecidableEq Addr]

/-- The server answers without an ERROR, keeps the session, and hands it no
frame that it has already handled. -/
def Undisturbed (world : World Addr) (event : Event) : Prop :=
  forall index draw data, event = .deliver index draw -> world.toServer[index]? = some data ->
    let delivery := world.server.onDatagram runtime data deployment.addr draw
    (forall sent, sent ∈ delivery.sent -> Clean runtime.toDigests deployment.secret sent.1) ∧
      (∃ peer, delivery.server.peers deployment.addr = some peer) ∧
      forall frame, delivery.handed = some frame ->
        forall earlier, earlier ∈ world.handed -> earlier.seq ≠ frame.seq

omit [DecidableEq Addr] in
/-- The sessions that a client of DATA and PING leaves in the table. -/
structure Settled (world : World Addr) : Prop where
  ready : forall {peer}, world.server.peers deployment.addr = some peer ->
    peer.session.state = .ready
  begun : forall {peer}, world.server.peers deployment.addr = some peer ->
    0 ≤ peer.session.lastPeerSeq
  handled : forall {peer}, world.server.peers deployment.addr = some peer ->
    forall frame, frame ∈ world.handed -> frame.seq ≤ peer.session.lastPeerSeq
  clean : forall {peer}, world.server.peers deployment.addr = some peer ->
    forall entry, entry ∈ peer.dedup.entries -> Clean runtime.toDigests deployment.secret entry.2

variable {runtime} {deployment}

theorem Settled.deliver {world : World Addr} (settled : Settled runtime deployment world)
    (traffic : Traffic runtime deployment world)
    (requests : forall kind, kind ∈ deployment.requests -> kind ≠ .hello ∧ kind ≠ .error)
    {data : Bytes} (sent : data ∈ world.toServer) (draw : Draw) :
    Settled runtime deployment (world.deliver runtime deployment data draw) := by
  rcases traffic.copies data sent with ⟨frame, seq, request, decoded, copy⟩
  have honest := traffic.honest requests copy
  have number := (encodable_of_decode runtime.toDigests decoded).seq.1
  have treatment := traffic.treatment draw decoded
  rw [World.deliver]
  generalize world.server.onDatagram runtime data deployment.addr draw = delivery at treatment
  cases treatment with
  | replayed known hit =>
      refine ⟨settled.ready, settled.begun, ?_, settled.clean⟩
      intro peer found earlier member
      rw [known, Option.isNone_some, if_neg Bool.false_ne_true] at member
      rcases List.mem_append.mp member with old | new
      · exact settled.handled found earlier old
      · cases new
  | raised missed handling result => exact (handling.not_raised_of_honest honest result).elim
  | answered missed handling result joined =>
      rename_i turn reaction reply
      constructor
      · intro stored known
        rcases UdpServer.settle_known known with ⟨closes, rfl⟩
        exact (handling.ready_of_open result closes).1
      · intro stored known
        rcases UdpServer.settle_known known with ⟨closes, rfl⟩
        rw [(handling.ready_of_open result closes).2.1]
        exact number
      · intro stored known earlier member
        rcases UdpServer.settle_known known with ⟨closes, rfl⟩
        rcases handling.ready_of_open result closes with ⟨_, last, accepted⟩
        rw [UdpServer.lastPeerSeq_acks] at accepted
        rw [last]
        rcases List.mem_append.mp member with old | new
        · cases found : world.server.peers deployment.addr with
          | none =>
              rw [found, Option.isNone_none, if_pos rfl] at old
              cases old
          | some peer =>
              rw [found, Option.isNone_some, if_neg Bool.false_ne_true] at old
              rw [UdpServer.peer_of_known found] at accepted
              exact Int.le_of_lt (Int.lt_of_le_of_lt (settled.handled found earlier old) accepted)
        · exact Int.le_of_eq (congrArg Frame.seq (List.mem_singleton.mp new))
      · intro stored known entry member
        rcases UdpServer.settle_known known with ⟨closes, rfl⟩
        rcases DedupWindow.mem_put member with old | new
        · cases found : world.server.peers deployment.addr with
          | none =>
              rw [UdpServer.peer_of_unknown found] at old
              cases old
          | some peer =>
              rw [UdpServer.peer_of_known found] at old
              exact settled.clean found entry old
        · rw [new]
          rw [traffic.serverSecret] at joined
          exact handling.clean_reply result closes joined

theorem Settled.step {world next : World Addr} {event : Event}
    (settled : Settled runtime deployment world) (traffic : Traffic runtime deployment world)
    (requests : forall kind, kind ∈ deployment.requests -> kind ≠ .hello ∧ kind ≠ .error)
    (stepped : world.step runtime deployment event = some next) :
    Settled runtime deployment next := by
  rcases step_server stepped with
    ⟨index, draw, data, rfl, found, rfl⟩ | ⟨server, _, handed, _, _⟩
  · exact settled.deliver traffic requests (List.mem_of_getElem? found) draw
  · rcases settled with ⟨ready, begun, handled, clean⟩
    exact ⟨by rwa [server], by rwa [server], by rwa [server, handed], by rwa [server]⟩

/-- A frame that is not covered closes the session. -/
theorem covered_of_undisturbed {world : World Addr} {event : Event}
    (traffic : Traffic runtime deployment world)
    (requests : forall kind, kind ∈ deployment.requests -> kind ≠ .hello ∧ kind ≠ .error)
    (undisturbed : Undisturbed runtime deployment world event) :
    Covered runtime deployment world event := by
  rintro index draw data frame peer rfl sent decoded known
  have built : world.server.peer deployment.addr draw = peer := UdpServer.peer_of_known known draw
  rcases traffic.copies data (List.mem_of_getElem? sent) with
    ⟨original, seq, request, originalDecoded, copy⟩
  rw [decoded] at originalDecoded
  cases originalDecoded
  have honest := traffic.honest requests copy
  have treatment := traffic.treatment draw decoded
  rcases undisturbed index draw data rfl sent with ⟨_, ⟨stored, kept⟩, _⟩
  generalize world.server.onDatagram runtime data deployment.addr draw = delivery at treatment kept
  cases treatment with
  | replayed sameKnown hit =>
      rw [known] at sameKnown
      cases sameKnown
      exact .inl ⟨_, hit⟩
  | raised missed handling result => exact (handling.not_raised_of_honest honest result).elim
  | answered missed handling result joined =>
      have accepted := (handling.ready_of_open result (UdpServer.settle_known kept).1).2.2
      rw [UdpServer.lastPeerSeq_acks, built] at accepted
      exact .inr accepted

omit [DecidableEq Addr] in
/-- What reaches a session that has accepted a number is no HELLO, which has
number 0, unless it is late. -/
theorem Settled.kind_of_new {world : World Addr} (settled : Settled runtime deployment world)
    (traffic : Traffic runtime deployment world)
    (requests : forall kind, kind ∈ deployment.requests -> kind = .data ∨ kind = .ping)
    {peer : Peer} (known : world.server.peers deployment.addr = some peer) {frame : Frame}
    {seq : Nat} {request : Request} (copy : IsCopy world.issued seq request frame)
    (accepted : peer.session.lastPeerSeq < frame.seq) :
    frame.msgType = .data ∨ frame.msgType = .ping := by
  rw [copy.kind]
  cases seq with
  | zero =>
      have begun := settled.begun known
      have number := copy.number
      omega
  | succ earlier => exact requests _ (traffic.others earlier request copy.issued)

/-- On a covered frame the ready session answers an echo, or the window
answers. -/
theorem undisturbed_of_covered {world : World Addr} {event : Event}
    (settled : Settled runtime deployment world) (traffic : Traffic runtime deployment world)
    (requests : forall kind, kind ∈ deployment.requests -> kind = .data ∨ kind = .ping)
    {peer : Peer} (known : world.server.peers deployment.addr = some peer)
    (covered : Covered runtime deployment world event) :
    Undisturbed runtime deployment world event := by
  rintro index draw data rfl sent
  have built : world.server.peer deployment.addr draw = peer := UdpServer.peer_of_known known draw
  rcases traffic.copies data (List.mem_of_getElem? sent) with ⟨frame, seq, request, decoded, copy⟩
  have cover := covered index draw data frame peer rfl sent decoded known
  have treatment := traffic.treatment draw decoded
  dsimp only
  generalize world.server.onDatagram runtime data deployment.addr draw = delivery at treatment
  cases treatment with
  | replayed sameKnown hit =>
      refine ⟨?_, ⟨_, sameKnown⟩, nofun⟩
      rename_i cached
      intro answer member
      by_cases spoken : cached ≠ []
      · rw [if_pos spoken] at member
        rw [List.mem_singleton.mp member]
        exact settled.clean sameKnown _ (DedupWindow.mem_of_get hit)
      · rw [if_neg spoken] at member
        cases member
  | raised missed handling result =>
      have honest : Honest runtime frame := by
        apply traffic.honest _ copy
        intro kind member
        rcases requests kind member with rfl | rfl <;> decide
      exact (handling.not_raised_of_honest honest result).elim
  | answered missed handling result joined =>
      rename_i turn reaction reply
      rw [built] at missed
      have accepted : peer.session.lastPeerSeq < frame.seq := by
        rcases cover with ⟨cached, hit⟩ | accepted
        · rw [missed] at hit
          cases hit
        · exact accepted
      have stays : reaction.close = false := by
        have kind := settled.kind_of_new traffic requests known copy accepted
        apply handling.open_of_request _ _ kind result
        · rw [UdpServer.state_acks, built, settled.ready known]
        · rwa [UdpServer.lastPeerSeq_acks, built]
      refine ⟨?_, ⟨⟨turn.session,
        (world.server.peer deployment.addr draw).dedup.put frame.seq reply⟩, ?_⟩, ?_⟩
      · intro answer member
        by_cases spoken : reply ≠ []
        · rw [if_pos spoken] at member
          rw [List.mem_singleton.mp member]
          rw [traffic.serverSecret] at joined
          exact handling.clean_reply result stays joined
        · rw [if_neg spoken] at member
          cases member
      · rw [UdpServer.peers_settle, Function.update_self, stays]
        rfl
      · rintro handed ⟨⟩ earlier member
        have before := settled.handled known earlier member
        exact Int.ne_of_lt (Int.lt_of_le_of_lt before accepted)

theorem undisturbed_iff_covered {world : World Addr} {event : Event}
    (settled : Settled runtime deployment world) (traffic : Traffic runtime deployment world)
    (requests : forall kind, kind ∈ deployment.requests -> kind = .data ∨ kind = .ping)
    (isReady : Ready deployment world) :
    Undisturbed runtime deployment world event <-> Covered runtime deployment world event := by
  rcases isReady with ⟨peer, known, _⟩
  constructor
  · apply covered_of_undisturbed traffic
    intro kind member
    rcases requests kind member with rfl | rfl <;> decide
  · exact undisturbed_of_covered settled traffic requests known

/-- With a window of one entry, a copy of the HELLO is late after one DATA. -/
theorem disturbed_by_late_hello (runtime : Runtime) (deployment : Deployment Addr)
    (single : deployment.dedupWindow = 1) (nonce : Nonce) (draw : Draw)
    (greets : (encodeHello deployment.clientId nonce.text).length ≤ maxPayload)
    (own : .data ∈ deployment.requests) {payload : Bytes} (fits : payload.length ≤ maxPayload) :
    ¬ Execution.Since (World.step runtime deployment) (Ready deployment)
      (Undisturbed runtime deployment) (start deployment)
      (faultless (.connect nonce) 0 draw ++ faultless (.request .data payload) 1 draw ++
        [.deliver 0 draw]) := by
  rcases data_faultless runtime deployment nonce draw greets own fits with
    ⟨world, hello, data, _, peer, _, _, reached, idle, attended, sized, toServer, greeting, _⟩
  intro since
  have undisturbed := (since _ _ world rfl reached ⟨peer, attended.known, attended.ready⟩).1
  rcases undisturbed 0 draw hello rfl (by rw [toServer]; rfl) with ⟨_, ⟨kept, known⟩, _⟩
  have last := attended.last
  have missed : peer.dedup.get ((0 : Nat) : Int) = none := by
    cases hit : peer.dedup.get ((0 : Nat) : Int) with
    | none => rfl
    | some stored =>
        rcases attended.newest with ⟨newest, also⟩
        have same := DedupWindow.eq_of_single (sized.trans single) hit also
        omega
  have late : ((0 : Nat) : Int) ≤ peer.session.lastPeerSeq := by omega
  rw [← idle.serverSecret] at greeting
  have gone := UdpServer.onDatagram_late runtime idle.sound attended.known greeting (Pending.asks _)
    missed late draw
  rw [gone] at known
  cases known

/-- The handshake delivers to a server that keeps no session yet. -/
theorem covered_greeting (runtime : Runtime) (deployment : Deployment Addr) (nonce : Nonce)
    (draw : Draw) :
    Execution.Along (World.step runtime deployment) (Covered runtime deployment) (start deployment)
      (faultless (.connect nonce) 0 draw) := by
  refine ⟨?_, ?_⟩
  · intro index later data frame peer same
    cases same
  intro next stepped
  refine ⟨?_, fun _ _ => ⟨?_, fun _ _ => ⟨?_, fun _ _ => trivial⟩⟩⟩
  · intro index later data frame peer _ _ _ known
    rcases step_server stepped with ⟨index, draw, _, same, _⟩ | ⟨server, _, _, _, _⟩
    · cases same
    · rw [server] at known
      cases known
  · intro index later data frame peer same
    cases same
  · intro index later data frame peer same
    cases same

/-- A session that is ready stays undisturbed for the rest of the run exactly
if every later frame that reaches it is in the window or new. -/
theorem since_ready_undisturbed_iff
    (requests : forall kind, kind ∈ deployment.requests -> kind = .data ∨ kind = .ping)
    (events : List Event) :
    Execution.Since (World.step runtime deployment) (Ready deployment)
        (Undisturbed runtime deployment) (start deployment) events <->
      Execution.Since (World.step runtime deployment) (Ready deployment)
        (Covered runtime deployment) (start deployment) events := by
  have honestRequests (kind : MsgType) (member : kind ∈ deployment.requests) :
      kind ≠ .hello ∧ kind ≠ .error := by
    rcases requests kind member with rfl | rfl <;> decide
  have invariant {world : World Addr} {event : Event} {next : World Addr}
      (holds : Traffic runtime deployment world ∧ Settled runtime deployment world)
      (stepped : world.step runtime deployment event = some next) :
      Traffic runtime deployment next ∧ Settled runtime deployment next :=
    ⟨holds.1.step stepped, holds.2.step holds.1 honestRequests stepped⟩
  have kept {world : World Addr} {event : Event} {next : World Addr}
      (holds : Traffic runtime deployment world ∧ Settled runtime deployment world)
      (isReady : Ready deployment world) (undisturbed : Undisturbed runtime deployment world event)
      (stepped : world.step runtime deployment event = some next) : Ready deployment next := by
    have settled := (invariant holds stepped).2
    rcases step_server stepped with ⟨index, draw, data, rfl, found, rfl⟩ | ⟨server, _, _, _, _⟩
    · rcases undisturbed index draw data rfl found with ⟨_, ⟨stored, known⟩, _⟩
      exact ⟨stored, known, settled.ready known⟩
    · rw [Ready, server]
      exact isReady
  exact Execution.since_iff _ invariant
    (fun holds isReady => undisturbed_iff_covered holds.2 holds.1 requests isReady) kept
    ⟨traffic_start runtime deployment, ⟨nofun, nofun, nofun, nofun⟩⟩ events

/-- A copy of the HELLO right behind the handshake is answered from the
window. -/
theorem since_ready_undisturbed_iff_copy :
    (∃ world, Execution.run (World.step Reference.runtime Reference.echoes)
        (start Reference.echoes) (faultless (.connect Reference.nonce) 0 Reference.draw) =
          some world ∧ Ready Reference.echoes world) ∧
      Execution.Since (World.step Reference.runtime Reference.echoes) (Ready Reference.echoes)
        (Undisturbed Reference.runtime Reference.echoes) (start Reference.echoes)
        (faultless (.connect Reference.nonce) 0 Reference.draw ++ [.deliver 0 Reference.draw]) := by
  rcases connect_faultless Reference.runtime Reference.echoes Reference.nonce Reference.draw
    Reference.hello_fits with ⟨world, hello, _, peer, connected, greeted, attended, _⟩
  refine ⟨⟨world, connected, peer, attended.known, attended.ready⟩, ?_⟩
  have requests : forall kind, kind ∈ Reference.echoes.requests -> kind = .data ∨ kind = .ping := by
    intro kind member
    rcases List.mem_cons.mp member with data | other
    · exact .inl data
    · exact .inr (List.mem_singleton.mp other)
  have first := covered_greeting Reference.runtime Reference.echoes Reference.nonce Reference.draw
  have second : Covered Reference.runtime Reference.echoes world (.deliver 0 Reference.draw) := by
    rintro index draw data frame other ⟨⟩ found decoded known
    rw [greeted.toServer] at found
    cases found
    rw [greeted.decoded] at decoded
    cases decoded
    rw [attended.known] at known
    cases known
    rcases attended.newest with ⟨stored, newest⟩
    have last : peer.session.lastPeerSeq = ((0 : Nat) : Int) := by
      have next := attended.last
      omega
    rw [last] at newest
    exact .inl ⟨stored, newest⟩
  apply (since_ready_undisturbed_iff requests _).mpr
  exact Execution.since_of_along _
    (Execution.along_append _ first connected ⟨second, fun _ _ => trivial⟩)

/-- A late copy of the HELLO tears the session down. -/
theorem late_hello_disturbs : ∃ events,
    ¬ Execution.Since (World.step Reference.runtime Reference.echoes) (Ready Reference.echoes)
      (Undisturbed Reference.runtime Reference.echoes) (start Reference.echoes) events :=
  ⟨_, disturbed_by_late_hello Reference.runtime Reference.echoes rfl Reference.nonce Reference.draw
    Reference.hello_fits (by decide) (show ([1, 2, 3] : Bytes).length ≤ maxPayload by decide)⟩

end World
end Wireline
