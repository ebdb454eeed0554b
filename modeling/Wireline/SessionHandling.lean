import Wireline.Session

namespace Wireline

open Json

/-!
# What one frame can do to a session

`Handling` lists the outcomes of `onFrame` on a session that is still open,
with the complete turn in each case.  It is the only place where the branches
of the state machine are taken apart; every invariant over sessions, servers
and whole runs is a case analysis of this list.
-/

namespace ServerSession

/-- The states that a session of a live peer can be in. -/
def Open (session : ServerSession) : Prop := session.state = .new ∨ session.state = .ready

instance (session : ServerSession) : Decidable session.Open := by
  unfold Open
  infer_instance

/-- The turn of a call that ends in an ERROR reaction. -/
def refuse (session : ServerSession) (error : ProtocolError) (calls : List Call) : Turn :=
  ⟨{ session with state := .closed, outSeq := (session.outSeq + 1) &&& maxSeq },
    .ok ⟨[⟨.error, session.outSeq, encodeError error.code error.message, 0⟩], true,
      some s!"{error.code.name}: {error.message}"⟩, calls⟩

end ServerSession

/-- The echo of a PING or of DATA. -/
def echoType : MsgType -> Option MsgType
  | .ping => some .pong
  | .data => some .data
  | _ => none

section

variable (runtime : Runtime) (nonce : Nonce)

/-- The errors that a session's handlers raise for an accepted frame. -/
inductive Refuses (state : State) (frame : Frame) : ProtocolError -> Prop
  | beforeHandshake (fresh : state = .new) (other : frame.msgType ≠ .hello) :
      Refuses state frame
        ⟨.errState, s!"{frame.msgType.name} is not allowed before the handshake"⟩
  | malformedHello (fresh : state = .new) (hello : frame.msgType = .hello) {error : ProtocolError}
      (malformed : decodeHello runtime frame.payload = .error (.protocolError error)) :
      Refuses state frame error
  | secondHello (ready : state = .ready) (hello : frame.msgType = .hello) :
      Refuses state frame ⟨.errState, "handshake already completed"⟩
  | helloAck (ready : state = .ready) (helloAck : frame.msgType = .helloAck) :
      Refuses state frame ⟨.errState, "hello_ack is server to client"⟩
  | malformedError (ready : state = .ready) (report : frame.msgType = .error)
      {error : ProtocolError}
      (malformed : decodeError runtime frame.payload = .error (.protocolError error)) :
      Refuses state frame error

/-- The exceptions of a decoder that the session does not handle. -/
inductive Escapes (state : State) (frame : Frame) : PyError -> Prop
  | hello (fresh : state = .new) (hello : frame.msgType = .hello) {raised : PyError}
      (escaping : decodeHello runtime frame.payload = .error raised)
      (unhandled : forall error, raised ≠ .protocolError error) : Escapes state frame raised
  | report (ready : state = .ready) (report : frame.msgType = .error) {raised : PyError}
      (escaping : decodeError runtime frame.payload = .error raised)
      (unhandled : forall error, raised ≠ .protocolError error) : Escapes state frame raised

/-- The turns of an open session on one frame. -/
inductive Handling (session : ServerSession) (frame : Frame) : Turn -> Prop
  | stale (late : frame.seq ≤ session.lastPeerSeq) :
      Handling session frame (session.refuse ⟨.errSeq,
        s!"seq {frame.seq} not greater than last accepted {session.lastPeerSeq}"⟩ [])
  | refused (accepted : session.lastPeerSeq < frame.seq) {error : ProtocolError}
      (refuses : Refuses runtime session.state frame error) (handler : List Call)
      (ran : handler = [] ∨ handler = [.onHello frame]) :
      Handling session frame
        ({ session with lastPeerSeq := frame.seq }.refuse error (.dispatch frame :: handler))
  | escaped (accepted : session.lastPeerSeq < frame.seq) {raised : PyError}
      (escapes : Escapes runtime session.state frame raised) (handler : List Call)
      (ran : handler = [] ∨ handler = [.onHello frame]) :
      Handling session frame
        ⟨{ session with lastPeerSeq := frame.seq }, .error raised, .dispatch frame :: handler⟩
  | welcomed (accepted : session.lastPeerSeq < frame.seq) (fresh : session.state = .new)
      (hello : frame.msgType = .hello) {clientId peerNonce : String}
      (wellFormed : decodeHello runtime frame.payload = .ok (clientId, peerNonce)) :
      Handling session frame
        ⟨{ session with
            lastPeerSeq := frame.seq, clientId := clientId, peerNonce := peerNonce,
            state := .ready, outSeq := (session.outSeq + 1) &&& maxSeq },
          .ok { frames := [⟨.helloAck, session.outSeq,
            encodeHelloAck session.sessionId.text nonce.text, 0⟩] },
          [.dispatch frame, .onHello frame]⟩
  | echoed (accepted : session.lastPeerSeq < frame.seq) (ready : session.state = .ready)
      {reply : MsgType} (echo : echoType frame.msgType = some reply) :
      Handling session frame
        ⟨{ session with
            lastPeerSeq := frame.seq, outSeq := (session.outSeq + 1) &&& maxSeq },
          .ok { frames := [⟨reply, session.outSeq, frame.payload, 0⟩] },
          .dispatch frame :: if frame.msgType = .data then [.onData frame] else []⟩
  | ignored (accepted : session.lastPeerSeq < frame.seq) (ready : session.state = .ready)
      (silent : frame.msgType = .pong ∨ frame.msgType = .ack) :
      Handling session frame
        ⟨{ session with lastPeerSeq := frame.seq }, .ok {}, [.dispatch frame]⟩
  | farewell (accepted : session.lastPeerSeq < frame.seq) (ready : session.state = .ready)
      (bye : frame.msgType = .bye) :
      Handling session frame
        ⟨{ session with
            lastPeerSeq := frame.seq, state := .closed,
            outSeq := (session.outSeq + 1) &&& maxSeq },
          .ok ⟨[⟨.bye, session.outSeq, [], 0⟩], true, some "peer said bye"⟩, [.dispatch frame]⟩
  | reported (accepted : session.lastPeerSeq < frame.seq) (ready : session.state = .ready)
      (report : frame.msgType = .error) {code : ErrorCode} {message : String}
      (decoded : decodeError runtime frame.payload = .ok (code, message)) :
      Handling session frame
        ⟨{ session with lastPeerSeq := frame.seq, state := .closed },
          .ok ⟨[], true, some s!"peer reported {code.name}: {message}"⟩, [.dispatch frame]⟩

/-- A reaction closes exactly when it leaves the session closed, and an
exception leaves it open. -/
theorem Handling.live {runtime : Runtime} {nonce : Nonce} {session : ServerSession} {frame : Frame}
    {turn : Turn} (handling : Handling runtime nonce session frame turn) (live : session.Open) :
    match turn.result with
    | .error _ => turn.session.state = session.state
    | .ok reaction =>
        if reaction.close then turn.session.state = .closed else turn.session.Open := by
  cases handling with
  | stale late => rfl
  | refused accepted refuses handler ran => rfl
  | escaped accepted escapes handler ran => rfl
  | welcomed accepted fresh hello wellFormed => exact .inr rfl
  | echoed accepted ready echo => exact live
  | ignored accepted ready silent => exact live
  | farewell accepted ready bye => rfl
  | reported accepted ready report decoded => rfl

section

variable {runtime : Runtime} {nonce : Nonce} {session : ServerSession} {frame : Frame} {turn : Turn}

/-- A turn that stays open leaves the session ready, with the frame's number
as the last accepted one. -/
theorem Handling.ready_of_open (handling : Handling runtime nonce session frame turn)
    {reaction : Reaction} (result : turn.result = .ok reaction) (stays : reaction.close = false) :
    turn.session.state = .ready ∧ turn.session.lastPeerSeq = frame.seq ∧
      session.lastPeerSeq < frame.seq := by
  cases handling with
  | stale late =>
      cases result
      cases stays
  | refused accepted refuses handler ran =>
      cases result
      cases stays
  | escaped accepted escapes handler ran => cases result
  | welcomed accepted fresh hello wellFormed => exact ⟨rfl, rfl, accepted⟩
  | echoed accepted ready echo => exact ⟨ready, rfl, accepted⟩
  | ignored accepted ready silent => exact ⟨ready, rfl, accepted⟩
  | farewell accepted ready bye =>
      cases result
      cases stays
  | reported accepted ready report decoded =>
      cases result
      cases stays

/-- Only a HELLO opens a session that is not ready yet. -/
theorem Handling.hello_of_open (handling : Handling runtime nonce session frame turn)
    {reaction : Reaction} (result : turn.result = .ok reaction) (stays : reaction.close = false)
    (unready : session.state ≠ .ready) : frame.msgType = .hello := by
  cases handling with
  | welcomed accepted fresh hello wellFormed => exact hello
  | echoed accepted ready echo => exact absurd ready unready
  | ignored accepted ready silent => exact absurd ready unready
  | escaped accepted escapes handler ran => cases result
  | stale _ | refused _ _ _ _ | farewell _ _ _ | reported _ _ _ _ =>
      cases result
      cases stays

/-- The frames given to `_dispatch`: those whose number was accepted. -/
def dispatched (calls : List Call) : List Frame :=
  calls.filterMap fun
    | .dispatch frame => some frame
    | _ => none

@[simp] theorem dispatched_append (before after : List Call) :
    dispatched (before ++ after) = dispatched before ++ dispatched after := List.filterMap_append

theorem dispatched_handler {handler : List Call} (ran : handler = [] ∨ handler = [.onHello frame]) :
    dispatched (.dispatch frame :: handler) = [frame] := by
  rcases ran with rfl | rfl <;> rfl

/-- The handlers of an echo. -/
def echoCalls (frame : Frame) : List Call :=
  .dispatch frame :: if frame.msgType = .data then [.onData frame] else []

theorem dispatched_echoCalls (frame : Frame) : dispatched (echoCalls frame) = [frame] := by
  rw [echoCalls]
  by_cases data : frame.msgType = .data
  · rw [if_pos data]
    rfl
  · rw [if_neg data]
    rfl

/-- A frame is given to `_dispatch` once, or its number is stale, the session
closes and the frame is not given at all. -/
theorem Handling.dispatches (handling : Handling runtime nonce session frame turn) :
    dispatched turn.calls = [frame] ∨
      dispatched turn.calls = [] ∧ ∃ reaction, turn.result = .ok reaction ∧ reaction.close = true := by
  cases handling with
  | stale late => exact .inr ⟨rfl, _, rfl, rfl⟩
  | refused accepted refuses handler ran | escaped accepted escapes handler ran =>
      exact .inl (dispatched_handler ran)
  | echoed accepted ready echo => exact .inl (dispatched_echoCalls frame)
  | welcomed _ _ _ _ | ignored _ _ _ | farewell _ _ _ | reported _ _ _ _ => exact .inl rfl

/-- What is dispatched in a turn stands in front of what was read for it. -/
theorem Handling.dispatched_prefix (handling : Handling runtime nonce session frame turn) :
    dispatched turn.calls <+: [frame] ∧ [frame].length ≤ (dispatched turn.calls).length + 1 := by
  rcases handling.dispatches with ran | ⟨ran, _⟩
  · rw [ran]
    exact ⟨List.prefix_rfl, Nat.le_succ 1⟩
  · rw [ran]
    exact ⟨List.nil_prefix, Nat.le_refl 1⟩

/-- A session that stays open has been given the frame. -/
theorem Handling.dispatches_open (handling : Handling runtime nonce session frame turn)
    {reaction : Reaction} (result : turn.result = .ok reaction) (stays : reaction.close = false) :
    dispatched turn.calls = [frame] := by
  rcases handling.dispatches with ran | ⟨_, closing, same, closes⟩
  · exact ran
  · rw [same] at result
    cases result
    rw [stays] at closes
    cases closes

/-- The turns that leave a ready session open: an echo, or silence. -/
theorem Handling.continues (handling : Handling runtime nonce session frame turn)
    (ready : session.state = .ready) {reaction : Reaction} (result : turn.result = .ok reaction)
    (stays : reaction.close = false) :
    dispatched turn.calls = [frame] ∧
      ((∃ reply, echoType frame.msgType = some reply ∧
          reaction.frames = [⟨reply, session.outSeq, frame.payload, 0⟩] ∧
          turn.session.outSeq = (session.outSeq + 1) &&& maxSeq) ∨
        (echoType frame.msgType = none ∧ reaction.frames = [] ∧
          turn.session.outSeq = session.outSeq)) := by
  refine ⟨handling.dispatches_open result stays, ?_⟩
  cases handling with
  | echoed accepted _ echo =>
      cases result
      exact .inl ⟨_, echo, rfl, rfl⟩
  | ignored accepted _ silent =>
      cases result
      refine .inr ⟨?_, rfl, rfl⟩
      rcases silent with kind | kind <;> rw [kind] <;> rfl
  | welcomed accepted fresh hello wellFormed =>
      rw [ready] at fresh
      cases fresh
  | escaped accepted escapes handler ran => cases result
  | stale _ | refused _ _ _ _ | farewell _ _ _ | reported _ _ _ _ =>
      cases result
      cases stays

theorem Handling.lastPeerSeq_eq (handling : Handling runtime nonce session frame turn)
    (accepted : session.lastPeerSeq < frame.seq) : turn.session.lastPeerSeq = frame.seq := by
  cases handling with
  | stale late => omega
  | refused _ _ _ _ | escaped _ _ _ _ | welcomed _ _ _ _ | echoed _ _ _ | ignored _ _ _
  | farewell _ _ _ | reported _ _ _ _ => rfl

/-- A reaction is one frame at most. -/
theorem Handling.one_reply (handling : Handling runtime nonce session frame turn)
    {reaction : Reaction} (result : turn.result = .ok reaction) :
    reaction.frames = [] ∨ ∃ reply, reaction.frames = [reply] := by
  cases handling with
  | escaped _ _ _ _ => cases result
  | ignored _ _ _ | reported _ _ _ _ =>
      cases result
      exact .inl rfl
  | stale _ | refused _ _ _ _ | welcomed _ _ _ _ | echoed _ _ _ | farewell _ _ _ =>
      cases result
      exact .inr ⟨_, rfl⟩

end

/-- An exception in a handler either becomes an ERROR or passes through. -/
private theorem raised_handling {session : ServerSession} {frame : Frame} {raised : PyError}
    (accepted : session.lastPeerSeq < frame.seq) (handler : List Call)
    (ran : handler = [] ∨ handler = [.onHello frame])
    (refuses : forall error, raised = .protocolError error ->
      Refuses runtime session.state frame error)
    (escapes : (forall error, raised ≠ .protocolError error) ->
      Escapes runtime session.state frame raised) :
    Handling runtime nonce session frame
      (ServerSession.catchProtocolError ⟨{ session with lastPeerSeq := frame.seq },
        .error raised, .dispatch frame :: handler⟩) := by
  cases raised with
  | protocolError error => exact .refused accepted (refuses error rfl) handler ran
  | valueError text => exact .escaped accepted (escapes nofun) handler ran
  | recursionError => exact .escaped accepted (escapes nofun) handler ran
  | indexError => exact .escaped accepted (escapes nofun) handler ran
  | incompleteReadError => exact .escaped accepted (escapes nofun) handler ran
  | timeoutError => exact .escaped accepted (escapes nofun) handler ran

/-- A handler that raises a `ProtocolError` by itself. -/
private theorem refused_handling (session : ServerSession) {frame : Frame}
    (error : ProtocolError) (accepted : session.lastPeerSeq < frame.seq)
    (refuses : Refuses runtime session.state frame error) :
    Handling runtime nonce session frame
      (ServerSession.catchProtocolError ⟨{ session with lastPeerSeq := frame.seq },
        raiseError error.code error.message, [.dispatch frame]⟩) :=
  .refused accepted refuses [] (.inl rfl)

/-- Every turn of an open session is in the list. -/
theorem onFrame_handling {session : ServerSession} (live : session.Open) (frame : Frame) :
    Handling runtime nonce session frame (session.onFrame runtime nonce frame) := by
  rcases session with ⟨sessionId, state, clientId, peerNonce, outSeq, lastPeerSeq⟩
  have notClosed : ¬ (state = .closing ∨ state = .closed) := by
    rcases live with same | same <;> simp_all
  rw [ServerSession.onFrame, if_neg notClosed]
  by_cases late : frame.seq ≤ lastPeerSeq
  · rw [if_pos late]
    exact .stale late
  · rw [if_neg late]
    have accepted : lastPeerSeq < frame.seq := Int.lt_of_not_ge late
    dsimp only [ServerSession.dispatch, ServerSession.react]
    rcases live with fresh | ready
    · dsimp only at fresh
      subst fresh
      rw [if_pos rfl]
      by_cases hello : frame.msgType = .hello
      · rw [if_neg (not_not.mpr hello), ServerSession.onHello]
        cases decoded : decodeHello runtime frame.payload with
        | ok fields => exact .welcomed accepted rfl hello decoded
        | error raised =>
            apply raised_handling runtime nonce accepted [.onHello frame] (.inr rfl)
            · rintro error rfl
              exact .malformedHello rfl hello decoded
            · exact .hello rfl hello decoded
      · rw [if_pos hello]
        have refused := refused_handling runtime nonce
          ⟨sessionId, .new, clientId, peerNonce, outSeq, lastPeerSeq⟩ _ accepted
          (.beforeHandshake rfl hello)
        exact refused
    · dsimp only at ready
      subst ready
      rw [if_neg nofun]
      have echoed_handling {reply : MsgType} (accepted : lastPeerSeq < frame.seq)
          (echo : echoType frame.msgType = some reply) :
          Handling runtime nonce ⟨sessionId, .ready, clientId, peerNonce, outSeq, lastPeerSeq⟩
            frame _ :=
        .echoed accepted rfl echo
      cases kind : frame.msgType with
      | hello =>
          have refused := refused_handling runtime nonce
            ⟨sessionId, .ready, clientId, peerNonce, outSeq, lastPeerSeq⟩ _ accepted
            (.secondHello rfl kind)
          exact refused
      | helloAck =>
          have refused := refused_handling runtime nonce
            ⟨sessionId, .ready, clientId, peerNonce, outSeq, lastPeerSeq⟩ _ accepted
            (.helloAck rfl kind)
          exact refused
      | ping =>
          have turn := echoed_handling accepted (congrArg echoType kind)
          rwa [if_neg (by rw [kind]; nofun)] at turn
      | pong => exact .ignored accepted rfl (.inl kind)
      | data =>
          have turn := echoed_handling accepted (congrArg echoType kind)
          rwa [if_pos kind] at turn
      | ack => exact .ignored accepted rfl (.inr kind)
      | bye => exact .farewell accepted rfl kind
      | error =>
          dsimp only
          cases decoded : decodeError runtime frame.payload with
          | ok fields => exact .reported accepted rfl kind decoded
          | error raised =>
              apply raised_handling runtime nonce accepted [] (.inl rfl)
              · rintro error rfl
                exact .malformedError rfl kind decoded
              · exact .report rfl kind decoded

/-! ## The turns of known frames -/

variable {session : ServerSession} {frame : Frame}

theorem onFrame_stale (live : session.Open) (late : frame.seq ≤ session.lastPeerSeq) :
    session.onFrame runtime nonce frame = session.refuse ⟨.errSeq,
      s!"seq {frame.seq} not greater than last accepted {session.lastPeerSeq}"⟩ [] := by
  have notClosed : ¬ (session.state = .closing ∨ session.state = .closed) := by
    rcases live with same | same <;> rw [same] <;> decide
  rw [ServerSession.onFrame, if_neg notClosed, if_pos late]
  rfl

theorem onFrame_welcomed (fresh : session.state = .new) (accepted : session.lastPeerSeq < frame.seq)
    (hello : frame.msgType = .hello) {clientId peerNonce : String}
    (wellFormed : decodeHello runtime frame.payload = .ok (clientId, peerNonce)) :
    session.onFrame runtime nonce frame =
      ⟨{ session with
          lastPeerSeq := frame.seq, clientId := clientId, peerNonce := peerNonce,
          state := .ready, outSeq := (session.outSeq + 1) &&& maxSeq },
        .ok { frames := [⟨.helloAck, session.outSeq,
          encodeHelloAck session.sessionId.text nonce.text, 0⟩] },
        [.dispatch frame, .onHello frame]⟩ := by
  rw [ServerSession.onFrame, if_neg (by rw [fresh]; decide), if_neg (Int.not_le_of_gt accepted),
    ServerSession.dispatch, ServerSession.react, if_pos fresh, if_neg (not_not.mpr hello),
    ServerSession.onHello, wellFormed]
  rfl

theorem onFrame_beforeHandshake (fresh : session.state = .new)
    (accepted : session.lastPeerSeq < frame.seq) (other : frame.msgType ≠ .hello) :
    session.onFrame runtime nonce frame = { session with lastPeerSeq := frame.seq }.refuse
      ⟨.errState, s!"{frame.msgType.name} is not allowed before the handshake"⟩
      [.dispatch frame] := by
  rw [ServerSession.onFrame, if_neg (by rw [fresh]; decide), if_neg (Int.not_le_of_gt accepted),
    ServerSession.dispatch, ServerSession.react, if_pos fresh, if_pos other]
  rfl

section

variable (ready : session.state = .ready) (accepted : session.lastPeerSeq < frame.seq)
include ready accepted

theorem onFrame_react : session.onFrame runtime nonce frame =
    ServerSession.catchProtocolError
      ({ session with lastPeerSeq := frame.seq }.dispatch runtime nonce frame) := by
  rw [ServerSession.onFrame, if_neg (by rw [ready]; decide), if_neg (Int.not_le_of_gt accepted)]

theorem onFrame_echoed {reply : MsgType} (asks : echoType frame.msgType = some reply) :
    session.onFrame runtime nonce frame =
      ⟨{ session with lastPeerSeq := frame.seq, outSeq := (session.outSeq + 1) &&& maxSeq },
        .ok { frames := [⟨reply, session.outSeq, frame.payload, 0⟩] },
        .dispatch frame :: if frame.msgType = .data then [.onData frame] else []⟩ := by
  rw [onFrame_react runtime nonce ready accepted, ServerSession.dispatch, ServerSession.react,
    if_neg (by rw [ready]; decide)]
  cases kind : frame.msgType with
  | ping | data =>
      rw [kind] at asks
      cases asks
      rfl
  | hello | helloAck | pong | ack | error | bye =>
      rw [kind] at asks
      cases asks

theorem onFrame_silent (quiet : frame.msgType = .pong ∨ frame.msgType = .ack) :
    session.onFrame runtime nonce frame =
      ⟨{ session with lastPeerSeq := frame.seq }, .ok {}, [.dispatch frame]⟩ := by
  rw [onFrame_react runtime nonce ready accepted, ServerSession.dispatch, ServerSession.react,
    if_neg (by rw [ready]; decide)]
  rcases quiet with pong | ack
  · rw [pong]
    rfl
  · rw [ack]
    rfl

theorem onFrame_farewell (bye : frame.msgType = .bye) :
    session.onFrame runtime nonce frame =
      ⟨{ session with
          lastPeerSeq := frame.seq, state := .closed, outSeq := (session.outSeq + 1) &&& maxSeq },
        .ok ⟨[⟨.bye, session.outSeq, [], 0⟩], true, some "peer said bye"⟩, [.dispatch frame]⟩ := by
  rw [onFrame_react runtime nonce ready accepted, ServerSession.dispatch, ServerSession.react,
    if_neg (by rw [ready]; decide), bye]
  rfl

end

end
end Wireline
