import Wireline.Udp.Faultless

namespace Wireline

/-!
# When a request is executed at most once

Within one session an executed request is never executed again: its number is
accepted once, and the number stays below the last accepted one even after
the window has forgotten it.  What the numbers do not survive is the session.
A reaction that closes takes the session and its window away, and a copy of
the HELLO that arrives afterwards opens another session, which accepts the
old numbers again.

`NoLateHello` excludes that one step.  Along every run whose steps satisfy
it, over any number of sessions, the executed numbers increase.
-/

/-- The numbers of the frames given to the application handler, in order. -/
def executed (calls : List Call) : List Int :=
  calls.filterMap fun
    | .onData frame => some frame.seq
    | _ => none

/-- How often the application handler was given a frame with this number. -/
def executions (seq : Int) (calls : List Call) : Nat :=
  calls.countP fun
    | .onData frame => frame.seq = seq
    | _ => false

theorem executions_eq_count (seq : Int) (calls : List Call) :
    executions seq calls = (executed calls).count seq := by
  induction calls with
  | nil => rfl
  | cons call calls ih =>
      cases call with
      | dispatch frame => simpa [executions, executed] using ih
      | onHello frame => simpa [executions, executed] using ih
      | onData frame =>
          rw [executions, executed] at ih
          by_cases same : frame.seq = seq
          · simp [executions, executed, same, ih]
          · simp [executions, executed, same, ih]

@[simp] theorem executed_append (before after : List Call) :
    executed (before ++ after) = executed before ++ executed after := List.filterMap_append

/-- A frame that an honest client sends: a HELLO can be read, and an ERROR is
never reported. -/
structure Honest (runtime : Runtime) (frame : Frame) : Prop where
  greets : frame.msgType = .hello -> ∃ fields, decodeHello runtime frame.payload = .ok fields
  silent : frame.msgType ≠ .error

section

variable {runtime : Runtime} {nonce : Nonce} {session : ServerSession} {frame : Frame} {turn : Turn}

theorem Handling.result_of_honest (handling : Handling runtime nonce session frame turn)
    (honest : Honest runtime frame) : ∃ reaction, turn.result = .ok reaction := by
  cases handling with
  | escaped accepted escapes handler ran =>
      cases escapes with
      | hello fresh hello escaping unhandled =>
          rcases honest.greets hello with ⟨fields, wellFormed⟩
          rw [wellFormed] at escaping
          cases escaping
      | report ready report escaping unhandled => exact absurd report honest.silent
  | stale _ | refused _ _ _ _ | welcomed _ _ _ _ | echoed _ _ _ | ignored _ _ _ | farewell _ _ _
  | reported _ _ _ _ => exact ⟨_, rfl⟩

theorem Handling.not_raised_of_honest (handling : Handling runtime nonce session frame turn)
    (honest : Honest runtime frame) {raised : PyError} (result : turn.result = .error raised) :
    False := by
  rcases handling.result_of_honest honest with ⟨reaction, succeeded⟩
  rw [result] at succeeded
  cases succeeded

/-- A turn executes its own frame or nothing, and only a ready session
executes. -/
theorem Handling.executed (handling : Handling runtime nonce session frame turn) :
    executed turn.calls = [] ∨ (executed turn.calls = [frame.seq] ∧ session.state = .ready ∧
      session.lastPeerSeq < frame.seq) := by
  cases handling with
  | stale late => exact .inl rfl
  | refused accepted refuses handler ran | escaped accepted escapes handler ran =>
      rcases ran with rfl | rfl <;> exact .inl rfl
  | welcomed accepted fresh hello wellFormed => exact .inl rfl
  | echoed accepted ready echo =>
      by_cases data : frame.msgType = .data
      · rw [if_pos data]
        exact .inr ⟨rfl, ready, accepted⟩
      · rw [if_neg data]
        exact .inl rfl
  | ignored accepted ready silent => exact .inl rfl
  | farewell accepted ready bye => exact .inl rfl
  | reported accepted ready report decoded => exact .inl rfl

end

namespace World

variable {Addr : Type} {runtime : Runtime} {deployment : Deployment Addr}

theorem Traffic.honest {world : World Addr} (traffic : Traffic runtime deployment world)
    (requests : forall kind, kind ∈ deployment.requests -> kind ≠ .hello ∧ kind ≠ .error)
    {seq : Nat} {request : Request} {frame : Frame}
    (copy : IsCopy world.issued seq request frame) : Honest runtime frame := by
  cases seq with
  | zero =>
      rcases traffic.greeting request copy.issued with ⟨clientId, nonce, rfl⟩
      constructor
      · intro hello
        rw [copy.payload]
        exact ⟨_, decodeHello_encodeHello runtime clientId nonce⟩
      · rw [copy.kind]
        nofun
  | succ index =>
      have kinds := requests _ (traffic.others index request copy.issued)
      rw [← copy.kind] at kinds
      exact ⟨fun hello => absurd hello kinds.1, kinds.2⟩

/-- The step that goes wrong: a copy of a HELLO reaches a server that has
executed requests of this client and keeps no session for it any more. -/
def NoLateHello (runtime : Runtime) (deployment : Deployment Addr) (world : World Addr)
    (event : Event) : Prop :=
  forall index draw data frame, event = .deliver index draw -> world.toServer[index]? = some data ->
    decode runtime.toDigests data (some deployment.secret) = .ok frame -> frame.msgType = .hello ->
    world.server.peers deployment.addr = none -> executed world.calls = []

/-- The executed numbers increase, up to the last number that the session at
the address has accepted. -/
structure Ordered (deployment : Deployment Addr) (world : World Addr) : Prop where
  increasing : (executed world.calls).Pairwise (fun earlier later => earlier < later)
  ready : forall {peer}, world.server.peers deployment.addr = some peer ->
    peer.session.state = .ready
  covered : forall {peer}, world.server.peers deployment.addr = some peer ->
    forall seq, seq ∈ executed world.calls -> seq ≤ peer.session.lastPeerSeq

variable [DecidableEq Addr]

theorem Ordered.deliver {world : World Addr} (ordered : Ordered deployment world)
    (traffic : Traffic runtime deployment world)
    (requests : forall kind, kind ∈ deployment.requests -> kind ≠ .hello ∧ kind ≠ .error)
    {data : Bytes} (sent : data ∈ world.toServer) (draw : Draw)
    (noLateHello : forall frame,
      decode runtime.toDigests data (some deployment.secret) = .ok frame ->
      frame.msgType = .hello -> world.server.peers deployment.addr = none ->
      executed world.calls = []) :
    Ordered deployment (world.deliver runtime deployment data draw) := by
  rcases traffic.copies data sent with ⟨frame, seq, request, decoded, copy⟩
  have honest := traffic.honest requests copy
  have treatment := traffic.treatment draw decoded
  rw [World.deliver]
  generalize world.server.onDatagram runtime data deployment.addr draw = delivery at treatment
  cases treatment with
  | replayed known hit =>
      refine ⟨?_, ordered.ready, ?_⟩
      · rw [List.append_nil]
        exact ordered.increasing
      · rw [List.append_nil]
        exact ordered.covered
  | raised missed handling result => exact (handling.not_raised_of_honest honest result).elim
  | answered missed handling result joined =>
      rename_i turn reaction reply
      have ran := handling.executed
      rw [UdpServer.state_acks, UdpServer.lastPeerSeq_acks] at ran
      -- what a session in the table has executed lies below its last number
      have below : forall earlier, earlier ∈ executed world.calls ->
          (world.server.peer deployment.addr draw).session.state = .ready ->
          earlier ≤ (world.server.peer deployment.addr draw).session.lastPeerSeq := by
        intro earlier member ready
        cases known : world.server.peers deployment.addr with
        | none =>
            rw [UdpServer.peer_of_unknown known] at ready
            cases ready
        | some peer =>
            rw [UdpServer.peer_of_known known]
            exact ordered.covered known earlier member
      constructor
      · rw [executed_append]
        rcases ran with nothing | ⟨own, ready, accepted⟩
        · rw [nothing, List.append_nil]
          exact ordered.increasing
        · rw [own, List.pairwise_append]
          refine ⟨ordered.increasing, List.pairwise_singleton _ _, ?_⟩
          intro earlier member later same
          rw [List.mem_singleton.mp same]
          exact Int.lt_of_le_of_lt (below earlier member ready) accepted
      · intro stored known
        rcases UdpServer.settle_known known with ⟨closes, rfl⟩
        exact (handling.ready_of_open result closes).1
      · intro stored known earlier member
        rcases UdpServer.settle_known known with ⟨closes, rfl⟩
        rcases handling.ready_of_open result closes with ⟨_, last, accepted⟩
        rw [UdpServer.lastPeerSeq_acks] at accepted
        rw [last]
        rw [executed_append] at member
        rcases List.mem_append.mp member with old | new
        · by_cases ready : (world.server.peer deployment.addr draw).session.state = .ready
          · exact Int.le_of_lt (Int.lt_of_le_of_lt (below earlier old ready) accepted)
          · -- a session that is not ready has just been built, for a HELLO
            have unknown : world.server.peers deployment.addr = none := by
              cases found : world.server.peers deployment.addr with
              | none => rfl
              | some peer =>
                  rw [UdpServer.peer_of_known found] at ready
                  exact absurd (ordered.ready found) ready
            have hello := handling.hello_of_open result closes
              (by rw [UdpServer.state_acks]; exact ready)
            rw [noLateHello frame decoded hello unknown] at old
            cases old
        · rcases ran with nothing | ⟨own, _, _⟩
          · rw [nothing] at new
            cases new
          · rw [own] at new
            exact Int.le_of_eq (List.mem_singleton.mp new)

theorem ordered_of_run
    (requests : forall kind, kind ∈ deployment.requests -> kind ≠ .hello ∧ kind ≠ .error)
    {events : List Event} {world : World Addr}
    (along : Execution.Along (World.step runtime deployment) (NoLateHello runtime deployment)
      (start deployment) events)
    (reached : Execution.run (World.step runtime deployment) (start deployment) events = some world) :
    Traffic runtime deployment world ∧ Ordered deployment world := by
  have kept {before : World Addr} {event : Event} {after : World Addr}
      (holds : Traffic runtime deployment before ∧ Ordered deployment before)
      (noLateHello : NoLateHello runtime deployment before event)
      (stepped : before.step runtime deployment event = some after) :
      Traffic runtime deployment after ∧ Ordered deployment after := by
    refine ⟨holds.1.step stepped, ?_⟩
    rcases step_server stepped with ⟨index, draw, data, rfl, found, rfl⟩ | ⟨server, _, _, calls, _⟩
    · apply holds.2.deliver holds.1 requests (List.mem_of_getElem? found) draw
      intro frame
      exact noLateHello index draw data frame rfl found
    · rcases holds.2 with ⟨increasing, ready, covered⟩
      exact ⟨by rwa [calls], by rwa [server], by rwa [server, calls]⟩
  exact Execution.run_invariant_along _ kept
    ⟨traffic_start runtime deployment, ⟨List.Pairwise.nil, nofun, nofun⟩⟩ along reached

/-- An exchange without faults starts with the client, and delivers while the
server keeps the session or has executed nothing yet. -/
theorem noLateHello_faultless {world : World Addr}
    (safe : world.server.peers deployment.addr = none -> executed world.calls = [])
    {start : Event} (own : forall index draw, start ≠ .deliver index draw) (number : Nat)
    (draw : Draw) :
    Execution.Along (World.step runtime deployment) (NoLateHello runtime deployment) world
      (faultless start number draw) := by
  refine ⟨?_, ?_⟩
  · intro index later data frame same
    exact absurd same (own index later)
  intro next stepped
  refine ⟨?_, fun _ _ => ⟨?_, fun _ _ => ⟨?_, fun _ _ => trivial⟩⟩⟩
  · intro index later data frame _ _ _ _ unknown
    rcases step_server stepped with ⟨index, draw, _, same, _⟩ | ⟨server, _, _, calls, _⟩
    · exact absurd same (own index draw)
    · rw [calls]
      exact safe (by rw [← server]; exact unknown)
  · intro index later data frame same
    cases same
  · intro index later data frame same
    cases same

/-- The handshake, one DATA and a BYE without faults, and then copies of the
first two. -/
theorem executed_twice (runtime : Runtime) (deployment : Deployment Addr) (nonce : Nonce)
    (draw : Draw) (greets : (encodeHello deployment.clientId nonce.text).length ≤ maxPayload)
    (data : .data ∈ deployment.requests) (bye : .bye ∈ deployment.requests) {payload : Bytes}
    (fits : payload.length ≤ maxPayload) :
    ∃ world,
      Execution.run (World.step runtime deployment) (start deployment)
          (faultless (.connect nonce) 0 draw ++ faultless (.request .data payload) 1 draw ++
            faultless (.request .bye []) 2 draw ++ [.deliver 0 draw, .deliver 1 draw]) =
        some world ∧
      world.issued[1]? = some ⟨.data, payload⟩ ∧ executions 1 world.calls = 2 := by
  rcases data_faultless runtime deployment nonce draw greets data fits with
    ⟨middle, hello, request, outSeq, peer, _, _, began, idle, attended, sized, toServer, greeting,
      decoded, issued, calls, _⟩
  rcases attended.farewell runtime idle (by decide) (by decide) bye draw with
    ⟨closed, last, number, ended, returned, gone⟩
  have secret := returned.idle.serverSecret
  have sound := returned.idle.sound
  rw [← secret] at greeting decoded
  -- the copy of the HELLO opens a session, and the session accepts that of the DATA
  rcases UdpServer.onDatagram_hello runtime sound gone greeting (Pending.asks _) rfl
    (decodeHello_encodeHello runtime deployment.clientId nonce.text) draw with
    ⟨opened, stored, known, ready, accepted, dedup, welcomed⟩
  have receipt := UdpServer.onDatagram_receipt runtime sound hello deployment.addr draw
  rw [← receipt.secret] at decoded
  have missed : opened.dedup.get (1 : Nat) = none := by
    rw [dedup]
    exact DedupWindow.get_put_empty _ (show ((1 : Nat) : Int) ≠ (0 : Nat) by decide) stored
  have newer : opened.session.lastPeerSeq < ((1 : Nat) : Int) := by
    rw [accepted]
    exact (show ((0 : Nat) : Int) < (1 : Nat) by decide)
  have executes := UdpServer.onDatagram_data runtime (receipt.sound sound) known ready decoded
    (Pending.asks _) rfl missed newer draw
  have copies : closed.toServer = [hello, request, last] := by
    rw [returned.toServer, toServer]
    rfl
  refine ⟨(closed.deliver runtime deployment hello draw).deliver runtime deployment request draw,
    ?_, ?_, ?_⟩
  · apply Execution.run_trans _ (Execution.run_trans _ began ended)
    simp only [Execution.run, World.step, World.deliver, copies]
    rfl
  · change closed.issued[1]? = _
    rw [returned.issued, issued]
    rfl
  · have ran : ((closed.deliver runtime deployment hello draw).deliver runtime deployment request
        draw).calls = closed.calls ++ _ ++ _ := congrArg₂ (closed.calls ++ · ++ ·) welcomed executes
    rw [ran, returned.calls, calls]
    rfl

/-- For every request, the application handler runs at most once, counting
all sessions of the address. -/
theorem executions_le_one
    (mix : forall kind, kind ∈ deployment.requests -> kind = .data ∨ kind = .ping ∨ kind = .bye)
    {events : List Event} {world : World Addr}
    (along : Execution.Along (World.step runtime deployment) (NoLateHello runtime deployment)
      (start deployment) events)
    (reached : Execution.run (World.step runtime deployment) (start deployment) events = some world)
    {seq : Nat} {request : Request} (_issued : world.issued[seq]? = some request)
    (_data : request.msgType = .data) : executions seq world.calls ≤ 1 := by
  have requests (kind : MsgType) (member : kind ∈ deployment.requests) :
      kind ≠ .hello ∧ kind ≠ .error := by
    rcases mix kind member with rfl | rfl | rfl <;> decide
  have ordered := (ordered_of_run requests along reached).2
  have distinct : (executed world.calls).Nodup := ordered.increasing.imp fun less => Int.ne_of_lt less
  rw [executions_eq_count]
  exact List.nodup_iff_count_le_one.mp distinct seq

/-- The handshake and one DATA over a network without faults, and then copies
of the HELLO and of the DATA. -/
theorem executions_le_one_copies : ∃ events, ∃ world : World Nat,
    Execution.Along (World.step Reference.runtime Reference.deployment)
        (NoLateHello Reference.runtime Reference.deployment) (start Reference.deployment)
        (events ++ [.deliver 0 Reference.draw, .deliver 1 Reference.draw]) ∧
      Execution.run (World.step Reference.runtime Reference.deployment)
        (start Reference.deployment)
        (events ++ [.deliver 0 Reference.draw, .deliver 1 Reference.draw]) = some world ∧
      world.issued[1]? = some ⟨.data, [1, 2, 3]⟩ ∧ executions 1 world.calls ≤ 1 := by
  have own : .data ∈ Reference.deployment.requests := List.mem_cons_self
  have fits : ([1, 2, 3] : Bytes).length ≤ maxPayload := by decide
  rcases connect_faultless Reference.runtime Reference.deployment Reference.nonce Reference.draw
    Reference.hello_fits with ⟨middle, hello, _, peer, connected, greeted, attended, sized⟩
  have window : 0 < peer.dedup.size := by
    rw [sized]
    exact Nat.one_pos
  rcases attended.echo Reference.runtime greeted.idle window Nat.one_pos (by decide) rfl own fits
    Reference.draw with ⟨world, data, _, after, requested, returned, attends, _⟩
  have first : Execution.Along (World.step Reference.runtime Reference.deployment)
      (NoLateHello Reference.runtime Reference.deployment) (start Reference.deployment)
      (faultless (.connect Reference.nonce) 0 Reference.draw) := by
    refine noLateHello_faultless (fun _ => rfl) ?_ 0 Reference.draw
    intro index draw same
    cases same
  have second : Execution.Along (World.step Reference.runtime Reference.deployment)
      (NoLateHello Reference.runtime Reference.deployment) middle
      (faultless (.request .data [1, 2, 3]) 1 Reference.draw) := by
    refine noLateHello_faultless ?_ ?_ 1 Reference.draw
    · intro unknown
      rw [attended.known] at unknown
      cases unknown
    · intro index draw same
      cases same
  have copies : world.toServer = [hello, data] := by
    rw [returned.toServer, greeted.toServer]
    rfl
  have third : Execution.Along (World.step Reference.runtime Reference.deployment)
      (NoLateHello Reference.runtime Reference.deployment) world
      [.deliver 0 Reference.draw, .deliver 1 Reference.draw] := by
    refine ⟨?_, fun next stepped => ⟨?_, fun _ _ => trivial⟩⟩
    · intro index draw raw frame _ _ _ _ unknown
      rw [attends.known] at unknown
      cases unknown
    · rintro index draw raw frame ⟨⟩ found decoded greets
      have kept : next.toServer = [hello, data] := by
        rw [World.step, copies] at stepped
        cases stepped
        exact copies
      rw [kept] at found
      cases found
      rw [returned.decoded] at decoded
      cases decoded
      cases greets
  have along := Execution.along_append _ (Execution.along_append _ first connected second)
    (Execution.run_trans _ connected requested) third
  have delivered : ∃ last : World Nat, Execution.run
      (World.step Reference.runtime Reference.deployment) world
      [.deliver 0 Reference.draw, .deliver 1 Reference.draw] = some last ∧
        last.issued = world.issued := by
    simp only [Execution.run, World.step, World.deliver, copies]
    exact ⟨_, rfl, rfl⟩
  rcases delivered with ⟨last, delivered, same⟩
  have reached := Execution.run_trans _ (Execution.run_trans _ connected requested) delivered
  have issued : last.issued[1]? = some ⟨.data, [1, 2, 3]⟩ := by
    rw [same, returned.issued, greeted.issued]
    rfl
  exact ⟨_, last, along, reached, issued, executions_le_one (by decide) along reached issued rfl⟩

/-- A late copy of the HELLO opens the way for a late copy of a DATA. -/
theorem data_executed_twice : ∃ events, ∃ world : World Nat,
    Execution.run (World.step Reference.runtime Reference.deployment) (start Reference.deployment)
        events = some world ∧
      world.issued[1]? = some ⟨.data, [1, 2, 3]⟩ ∧ executions 1 world.calls = 2 :=
  ⟨_, executed_twice Reference.runtime Reference.deployment Reference.nonce
    Reference.draw Reference.hello_fits (by decide) (by decide) (by decide)⟩

end World
end Wireline
