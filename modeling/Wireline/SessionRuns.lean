import Wireline.Library.Execution
import Wireline.Library.Sequences
import Wireline.Reference
import Wireline.SessionHandling

namespace Wireline

open Sequences

/-!
# Runs of a session

The methods of a session are called in any order and with any frames.  The
state, the two counters and the peer's identity move together: one invariant
over a session and its past is carried from call to call, and what a single
call may change is read off the list of turns.

A decoder can fail with an exception that the session does not expect.  It is
found exactly where `Chokes` says, and the runs below exclude it with a benign
runtime wherever that matters.
-/

/-- A call of one of the session's methods. -/
inductive SessionEvent
  | onFrame (frame : Frame) (nonce : Nonce)
  | onProtocolError (raised : ProtocolError)
  | onIdleTimeout
  | ack (peerSeq : Int)

/-- The frames that a turn hands out. -/
def Turn.handed (turn : Turn) : List Frame :=
  match turn.result with
  | .error _ => []
  | .ok reaction => reaction.frames

/-- A session with its past: the frames that advanced `lastPeerSeq`, the
handlers that ran, and the frames handed out, in the order of their creation. -/
structure SessionLog where
  session : ServerSession
  accepted : List Frame := []
  calls : List Call := []
  handed : List Frame := []

namespace SessionLog

def init (sessionId : SessionId) : SessionLog := { session := { sessionId := sessionId } }

section

variable (runtime : Runtime)

def next (log : SessionLog) : SessionEvent -> SessionLog
  | .onFrame frame nonce =>
      let turn := log.session.onFrame runtime nonce frame
      { session := turn.session
        accepted :=
          if turn.session.lastPeerSeq = log.session.lastPeerSeq then log.accepted
          else log.accepted ++ [frame]
        calls := log.calls ++ turn.calls
        handed := log.handed ++ turn.handed }
  | .onProtocolError raised =>
      let (reaction, session) := log.session.onProtocolError raised
      { log with session := session, handed := log.handed ++ reaction.frames }
  | .onIdleTimeout =>
      let (reaction, session) := log.session.onIdleTimeout
      { log with session := session, handed := log.handed ++ reaction.frames }
  | .ack peerSeq =>
      let (ack, session) := log.session.ack peerSeq
      { log with session := session, handed := log.handed ++ [ack] }

def step (log : SessionLog) (event : SessionEvent) : Option SessionLog :=
  some (log.next runtime event)

end
end SessionLog

/-! ## Frames that a session cannot digest -/

section

variable (runtime : Runtime)

/-- An accepted HELLO or ERROR whose decoder fails with an exception that is
not a `ProtocolError`. -/
def ServerSession.Chokes (session : ServerSession) (frame : Frame) : Prop :=
  session.lastPeerSeq < frame.seq ∧
    ((session.state = .new ∧ frame.msgType = .hello ∧ runtime.Unloadable frame.payload) ∨
      (session.state = .ready ∧ frame.msgType = .error ∧
        (runtime.Unloadable frame.payload ∨ runtime.Unprintable frame.payload)))

/-- A HELLO or an ERROR whose payload its decoder does not return from. -/
def Frame.Malformed (frame : Frame) : Prop :=
  (frame.msgType = .hello ∧ forall fields, decodeHello runtime frame.payload ≠ .ok fields) ∨
    (frame.msgType = .error ∧ forall fields, decodeError runtime frame.payload ≠ .ok fields)

/-- A reaction that consists of an ERROR and closes. -/
def Reaction.Refusal (reaction : Reaction) : Prop :=
  (∃ reply, reaction.frames = [reply] ∧ reply.msgType = .error) ∧ reaction.close = true

end

/-- An exception that the session does not handle is no refusal. -/
theorem Escapes.not_refuses {runtime : Runtime} {state : State} {frame : Frame} {raised : PyError}
    (escapes : Escapes runtime state frame raised) {error : ProtocolError} :
    ¬ Refuses runtime state frame error := by
  intro refuses
  cases escapes with
  | hello fresh hello escaping unhandled =>
      cases refuses with
      | beforeHandshake _ other => exact other hello
      | malformedHello _ _ malformed =>
          rw [escaping] at malformed
          exact unhandled error (Except.error.inj malformed)
      | secondHello ready _ | helloAck ready _ | malformedError ready _ _ =>
          rw [fresh] at ready
          cases ready
  | report ready report escaping unhandled =>
      cases refuses with
      | beforeHandshake fresh _ | malformedHello fresh _ _ =>
          rw [ready] at fresh
          cases fresh
      | secondHello _ other | helloAck _ other =>
          rw [report] at other
          cases other
      | malformedError _ _ malformed =>
          rw [escaping] at malformed
          exact unhandled error (Except.error.inj malformed)

/-- A handler escapes exactly where the session chokes. -/
theorem escapes_iff {runtime : Runtime} {session : ServerSession} {frame : Frame} :
    (∃ raised, Escapes runtime session.state frame raised) <->
      ((session.state = .new ∧ frame.msgType = .hello ∧ runtime.Unloadable frame.payload) ∨
        (session.state = .ready ∧ frame.msgType = .error ∧
          (runtime.Unloadable frame.payload ∨ runtime.Unprintable frame.payload))) := by
  rw [← decodeError_unhandled_iff]
  constructor
  · rintro ⟨raised, escapes⟩
    cases escapes with
    | hello fresh hello escaping unhandled =>
        exact .inl ⟨fresh, hello,
          (decodeHello_unhandled_iff runtime _).mp ⟨raised, escaping, unhandled⟩⟩
    | report ready report escaping unhandled =>
        exact .inr ⟨ready, report, raised, escaping, unhandled⟩
  · rintro (⟨fresh, hello, unloadable⟩ | ⟨ready, report, raised, escaping, unhandled⟩)
    · rcases (decodeHello_unhandled_iff runtime _).mpr unloadable with
        ⟨raised, escaping, unhandled⟩
      exact ⟨raised, .hello fresh hello escaping unhandled⟩
    · exact ⟨raised, .report ready report escaping unhandled⟩

theorem Runtime.Benign.digests {runtime : Runtime} (benign : runtime.Benign)
    (session : ServerSession) (frame : Frame) : ¬ session.Chokes runtime frame := by
  rintro ⟨_, ⟨_, _, unloadable⟩ | ⟨_, _, unloadable | unprintable⟩⟩
  · exact benign.loadable _ unloadable
  · exact benign.loadable _ unloadable
  · exact benign.printable _ unprintable

/-! ## What one frame changes -/

section

variable {runtime : Runtime} {nonce : Nonce} {session : ServerSession} {frame : Frame} {turn : Turn}

/-- The number of a frame is accepted and the frame dispatched, or neither. -/
theorem Handling.accepts (handling : Handling runtime nonce session frame turn) :
    (turn.session.lastPeerSeq = session.lastPeerSeq ∧ dispatched turn.calls = []) ∨
      (session.lastPeerSeq < frame.seq ∧ turn.session.lastPeerSeq = frame.seq ∧
        dispatched turn.calls = [frame]) := by
  cases handling with
  | stale late => exact .inl ⟨rfl, rfl⟩
  | refused accepted refuses handler ran => exact .inr ⟨accepted, rfl, dispatched_handler ran⟩
  | escaped accepted escapes handler ran => exact .inr ⟨accepted, rfl, dispatched_handler ran⟩
  | welcomed accepted fresh hello wellFormed => exact .inr ⟨accepted, rfl, rfl⟩
  | echoed accepted ready echo =>
      refine .inr ⟨accepted, rfl, ?_⟩
      by_cases data : frame.msgType = .data
      · rw [if_pos data]
        rfl
      · rw [if_neg data]
        rfl
  | ignored accepted ready silent => exact .inr ⟨accepted, rfl, rfl⟩
  | farewell accepted ready bye => exact .inr ⟨accepted, rfl, rfl⟩
  | reported accepted ready report decoded => exact .inr ⟨accepted, rfl, rfl⟩

/-- A turn hands out a frame with the next number, or no frame. -/
theorem Handling.numbers (handling : Handling runtime nonce session frame turn) :
    (turn.handed = [] ∧ turn.session.outSeq = session.outSeq) ∨
      ∃ reply, turn.handed = [reply] ∧ reply.seq = session.outSeq ∧
        turn.session.outSeq = (session.outSeq + 1) &&& maxSeq := by
  cases handling with
  | escaped _ _ _ _ | ignored _ _ _ | reported _ _ _ _ => exact .inl ⟨rfl, rfl⟩
  | stale _ | refused _ _ _ _ | welcomed _ _ _ _ | echoed _ _ _ | farewell _ _ _ =>
      exact .inr ⟨_, rfl, rfl, rfl⟩

/-- A reaction closes, or leaves a ready session as it is, or welcomes the
peer. -/
theorem Handling.moves (handling : Handling runtime nonce session frame turn) {reaction : Reaction}
    (result : turn.result = .ok reaction) :
    (reaction.close = true ∧ turn.session.state = .closed ∧
        turn.session.clientId = session.clientId ∧ turn.session.peerNonce = session.peerNonce) ∨
      (reaction.close = false ∧ session.state = .ready ∧ turn.session.state = .ready ∧
        turn.session.clientId = session.clientId ∧ turn.session.peerNonce = session.peerNonce) ∨
      (reaction.close = false ∧ session.state = .new ∧ turn.session.state = .ready ∧
        session.lastPeerSeq < frame.seq ∧ frame.msgType = .hello ∧ ∃ clientId peerNonce,
          decodeHello runtime frame.payload = .ok (clientId, peerNonce) ∧
            turn.session.clientId = some clientId ∧ turn.session.peerNonce = some peerNonce) := by
  cases handling with
  | stale _ | refused _ _ _ _ | farewell _ _ _ | reported _ _ _ _ =>
      cases result
      exact .inl ⟨rfl, rfl, rfl, rfl⟩
  | escaped _ _ _ _ => cases result
  | echoed accepted ready echo =>
      cases result
      exact .inr (.inl ⟨rfl, ready, ready, rfl, rfl⟩)
  | ignored accepted ready silent =>
      cases result
      exact .inr (.inl ⟨rfl, ready, ready, rfl, rfl⟩)
  | welcomed accepted fresh hello wellFormed =>
      cases result
      exact .inr (.inr ⟨rfl, fresh, rfl, accepted, hello, _, _, wellFormed, rfl, rfl⟩)

/-- A turn raises exactly if a handler escapes. -/
theorem Handling.returned_iff (handling : Handling runtime nonce session frame turn) :
    (∃ reaction, turn.result = .ok reaction) <-> ¬ session.Chokes runtime frame := by
  rw [ServerSession.Chokes, ← escapes_iff]
  constructor
  · rintro ⟨reaction, result⟩ ⟨accepted, raised, escapes⟩
    cases handling with
    | stale late => omega
    | refused _ refuses _ _ => exact escapes.not_refuses refuses
    | escaped _ _ _ _ => cases result
    | welcomed _ fresh hello wellFormed =>
        cases escapes with
        | hello _ _ escaping _ =>
            rw [wellFormed] at escaping
            cases escaping
        | report ready _ _ _ =>
            rw [fresh] at ready
            cases ready
    | reported _ ready report decoded =>
        cases escapes with
        | hello fresh _ _ _ =>
            rw [ready] at fresh
            cases fresh
        | report _ _ escaping _ =>
            rw [decoded] at escaping
            cases escaping
    | echoed _ _ echo =>
        cases escapes with
        | hello _ kind _ _ | report _ kind _ _ =>
            rw [kind] at echo
            cases echo
    | ignored _ _ silent =>
        cases escapes with
        | hello _ kind _ _ | report _ kind _ _ =>
            rw [kind] at silent
            rcases silent with other | other <;> cases other
    | farewell _ _ bye =>
        cases escapes with
        | hello _ kind _ _ | report _ kind _ _ =>
            rw [kind] at bye
            cases bye
  · intro digestible
    cases result : turn.result with
    | ok reaction => exact ⟨reaction, rfl⟩
    | error raised =>
        cases handling with
        | escaped accepted escapes _ _ => exact absurd ⟨accepted, _, escapes⟩ digestible
        | stale _ | refused _ _ _ _ | welcomed _ _ _ _ | echoed _ _ _ | ignored _ _ _
        | farewell _ _ _ | reported _ _ _ _ => cases result

/-- What its decoder does not return from is refused, if it is not raised. -/
theorem Handling.malformed_refused (handling : Handling runtime nonce session frame turn)
    (malformed : frame.Malformed runtime) {reaction : Reaction} (result : turn.result = .ok reaction) :
    reaction.Refusal ∧ turn.session.state = .closed := by
  cases handling with
  | stale _ | refused _ _ _ _ =>
      cases result
      exact ⟨⟨⟨_, rfl, rfl⟩, rfl⟩, rfl⟩
  | escaped _ _ _ _ => cases result
  | welcomed _ fresh hello wellFormed =>
      rcases malformed with ⟨_, unread⟩ | ⟨other, _⟩
      · exact absurd wellFormed (unread _)
      · rw [hello] at other
        cases other
  | reported _ ready report decoded =>
      rcases malformed with ⟨other, _⟩ | ⟨_, unread⟩
      · rw [report] at other
        cases other
      · exact absurd decoded (unread _)
  | echoed _ _ echo =>
      rcases malformed with ⟨kind, _⟩ | ⟨kind, _⟩ <;> rw [kind] at echo <;> cases echo
  | ignored _ _ silent =>
      rcases malformed with ⟨kind, _⟩ | ⟨kind, _⟩ <;> rw [kind] at silent <;>
        rcases silent with other | other <;> cases other
  | farewell _ _ bye =>
      rcases malformed with ⟨kind, _⟩ | ⟨kind, _⟩ <;> rw [kind] at bye <;> cases bye

end

theorem onFrame_closed (runtime : Runtime) (nonce : Nonce) {session : ServerSession}
    (closed : session.state = .closed) (frame : Frame) :
    session.onFrame runtime nonce frame =
      ⟨session, .ok ⟨[], true, some "frame after close"⟩, []⟩ := by
  rw [ServerSession.onFrame, if_pos (.inr closed)]

/-- A HELLO that exhausts the reader's stack. -/
theorem onFrame_recursion (runtime : Runtime) (nonce : Nonce) {session : ServerSession}
    {frame : Frame} (fresh : session.state = .new) (accepted : session.lastPeerSeq < frame.seq)
    (hello : frame.msgType = .hello)
    (unread : decodeHello runtime frame.payload = .error .recursionError) :
    (session.onFrame runtime nonce frame).result = .error .recursionError := by
  rw [ServerSession.onFrame, if_neg (by rw [fresh]; decide), if_neg (Int.not_le_of_gt accepted),
    ServerSession.dispatch, ServerSession.react, if_pos fresh, if_neg (not_not.mpr hello),
    ServerSession.onHello, unread]
  rfl

/-! ## Runs -/

namespace SessionLog

variable (runtime : Runtime)

/-- The states that a session can be in. -/
def Settled (log : SessionLog) : Prop := log.session.Open ∨ log.session.state = .closed

variable {runtime} in
theorem Settled.next {log : SessionLog} (settled : log.Settled) (event : SessionEvent) :
    (log.next runtime event).Settled := by
  cases event with
  | onFrame frame nonce =>
      rcases settled with live | closed
      · have state := (onFrame_handling runtime nonce live frame).live live
        rw [Settled, SessionLog.next]
        cases result : (log.session.onFrame runtime nonce frame).result with
        | error raised =>
            rw [result] at state
            rw [ServerSession.Open, state]
            exact .inl live
        | ok reaction =>
            rw [result] at state
            dsimp only at state
            cases closes : reaction.close with
            | true =>
                rw [closes] at state
                exact .inr state
            | false =>
                rw [closes] at state
                exact .inl state
      · rw [Settled, SessionLog.next, onFrame_closed runtime nonce closed]
        exact .inr closed
  | onProtocolError raised => exact .inr rfl
  | onIdleTimeout => exact .inr rfl
  | ack peerSeq => exact settled

/-- Frames that are numbered 0, 1, 2, ... modulo 2^32, and the number of the
next one. -/
def Numbered (handed : List Frame) (outSeq : Nat) : Prop :=
  handed.map Frame.seq =
      (List.range handed.length).map (fun position => ((position % 2 ^ 32 : Nat) : Int)) ∧
    outSeq = handed.length % 2 ^ 32

theorem Numbered.append {handed : List Frame} {outSeq : Nat} (numbered : Numbered handed outSeq)
    {reply : Frame} (next : reply.seq = outSeq) :
    Numbered (handed ++ [reply]) ((outSeq + 1) &&& maxSeq) := by
  have limit : maxSeq = 2 ^ 32 - 1 := rfl
  constructor
  · rw [List.length_append, List.length_singleton, List.range_succ, List.map_append, List.map_append,
      numbered.1, List.map_singleton, List.map_singleton, next, numbered.2]
  · rw [limit, Nat.and_two_pow_sub_one_eq_mod, numbered.2, List.length_append,
      List.length_singleton]
    omega

/-- What a session has been through.  The numbers it has accepted grow, each
accepted frame was dispatched once and nothing else was, and what it handed
out is numbered from 0 on. -/
structure Orderly (log : SessionLog) : Prop where
  state : log.session.state = .new ∨ log.session.state = .ready ∨ log.session.state = .closed
  increasing : IncreasingBy Frame.seq log.accepted
  newest : log.session.lastPeerSeq = (log.accepted.map Frame.seq).getLastD (-1)
  dispatched : dispatched log.calls = log.accepted
  numbered : Numbered log.handed log.session.outSeq
  fresh : log.session.state = .new ->
    log.accepted = [] ∧ log.session.clientId = none ∧ log.session.peerNonce = none
  known : log.session.state = .ready ->
    log.session.clientId ≠ none ∧ log.session.peerNonce ≠ none

/-- What a call may change.  The session opens once, with a HELLO that reads
well and is the first frame it accepts; the identity is set then and at no
other time; and a reaction to a frame closes exactly if the session is closed
after it. -/
structure Conforms (log : SessionLog) (event : SessionEvent) : Prop where
  moves : (log.next runtime event).session.state = log.session.state ∨
    (log.session.state = .new ∧ (log.next runtime event).session.state = .ready) ∨
    (log.session.state = .new ∧ (log.next runtime event).session.state = .closed) ∨
    (log.session.state = .ready ∧ (log.next runtime event).session.state = .closed)
  opens : log.session.state ≠ .ready -> (log.next runtime event).session.state = .ready ->
    ∃ frame nonce clientId peerNonce, event = .onFrame frame nonce ∧ frame.msgType = .hello ∧
      decodeHello runtime frame.payload = .ok (clientId, peerNonce) ∧
      log.accepted = [] ∧ (log.next runtime event).accepted = [frame] ∧
      log.session.clientId = none ∧ log.session.peerNonce = none ∧
      (log.next runtime event).session.clientId = some clientId ∧
      (log.next runtime event).session.peerNonce = some peerNonce
  keeps : log.session.state = .ready ∨ (log.next runtime event).session.state ≠ .ready ->
    (log.next runtime event).session.clientId = log.session.clientId ∧
      (log.next runtime event).session.peerNonce = log.session.peerNonce
  reacts : forall frame nonce, event = .onFrame frame nonce ->
    ∃ reaction, (log.session.onFrame runtime nonce frame).result = .ok reaction ∧
      (reaction.close = true <-> (log.next runtime event).session.state = .closed)

theorem orderly_init (sessionId : SessionId) : (init sessionId).Orderly where
  state := .inl rfl
  increasing := List.Pairwise.nil
  newest := rfl
  dispatched := rfl
  numbered := ⟨rfl, rfl⟩
  fresh := fun _ => ⟨rfl, rfl, rfl⟩
  known := by
    intro ready
    cases ready

variable {runtime}

/-- The past of a turn that continues an orderly one. -/
theorem Orderly.handled {log : SessionLog} (orderly : log.Orderly) {frame : Frame} {nonce : Nonce}
    {turn : Turn} (turned : log.session.onFrame runtime nonce frame = turn)
    (handling : Handling runtime nonce log.session frame turn) :
    IncreasingBy Frame.seq (log.next runtime (.onFrame frame nonce)).accepted ∧
      turn.session.lastPeerSeq =
        ((log.next runtime (.onFrame frame nonce)).accepted.map Frame.seq).getLastD (-1) ∧
      Wireline.dispatched (log.next runtime (.onFrame frame nonce)).calls =
        (log.next runtime (.onFrame frame nonce)).accepted ∧
      Numbered (log.next runtime (.onFrame frame nonce)).handed turn.session.outSeq := by
  rw [next, turned]
  dsimp only
  refine and_assoc.mp (and_assoc.mp ⟨?_, ?_⟩)
  · rcases handling.accepts with ⟨same, nothing⟩ | ⟨accepted, last, once⟩
    · rw [if_pos same, same, dispatched_append, nothing, List.append_nil]
      exact ⟨⟨orderly.increasing, orderly.newest⟩, orderly.dispatched⟩
    · rw [if_neg (by rw [last]; exact ne_of_gt accepted), dispatched_append, once,
        orderly.dispatched, last, List.map_append, List.map_singleton, List.getLastD_concat]
      refine ⟨⟨orderly.increasing.append ?_, rfl⟩, rfl⟩
      intro earlier member
      have below := orderly.increasing.le_getLastD (-1) member
      rw [← orderly.newest] at below
      exact lt_of_le_of_lt below accepted
  · rcases handling.numbers with ⟨nothing, same⟩ | ⟨reply, one, number, counted⟩
    · rw [nothing, same, List.append_nil]
      exact orderly.numbered
    · rw [one, counted]
      exact orderly.numbered.append number

/-- Where a session can go when it closes. -/
theorem Orderly.closes {log : SessionLog} (orderly : log.Orderly) {state : State}
    (closed : state = .closed) :
    state = log.session.state ∨ (log.session.state = .new ∧ state = .ready) ∨
      (log.session.state = .new ∧ state = .closed) ∨
      (log.session.state = .ready ∧ state = .closed) := by
  rcases orderly.state with fresh | ready | already
  · exact .inr (.inr (.inl ⟨fresh, closed⟩))
  · exact .inr (.inr (.inr ⟨ready, closed⟩))
  · exact .inl (closed.trans already.symm)

/-- One frame on an open session. -/
theorem Orderly.frame_open {log : SessionLog} (orderly : log.Orderly) (benign : runtime.Benign)
    (live : log.session.Open) (frame : Frame) (nonce : Nonce) :
    (log.next runtime (.onFrame frame nonce)).Orderly ∧
      Conforms runtime log (.onFrame frame nonce) := by
  have handling := onFrame_handling runtime nonce live frame
  generalize turned : log.session.onFrame runtime nonce frame = turn at handling
  rcases handling.returned_iff.mpr (benign.digests log.session frame) with ⟨reaction, result⟩
  rcases orderly.handled turned handling with ⟨increasing, newest, dispatched, numbered⟩
  have after : (log.next runtime (.onFrame frame nonce)).session = turn.session := by
    rw [← turned]
    rfl
  rw [← after] at newest numbered
  have reacts (same : reaction.close = true <->
      (log.next runtime (.onFrame frame nonce)).session.state = .closed) (other : Frame)
      (draw : Nonce) (event : SessionEvent.onFrame frame nonce = .onFrame other draw) :
      ∃ reaction, (log.session.onFrame runtime draw other).result = .ok reaction ∧
        (reaction.close = true <->
          (log.next runtime (.onFrame frame nonce)).session.state = .closed) := by
    cases event
    exact ⟨reaction, by rw [turned, result], same⟩
  rcases handling.moves result with ⟨closes, closed, sameClient, sameNonce⟩ |
    ⟨stays, ready, stillReady, sameClient, sameNonce⟩ |
    ⟨stays, fresh, opened, accepted, hello, clientId, peerNonce, wellFormed, client, peer⟩
  · rw [← after] at closed sameClient sameNonce
    refine ⟨⟨.inr (.inr closed), increasing, newest, dispatched, numbered, ?_, ?_⟩,
      ⟨?_, ?_, fun _ => ⟨sameClient, sameNonce⟩, ?_⟩⟩
    · intro fresh
      rw [closed] at fresh
      cases fresh
    · intro ready
      rw [closed] at ready
      cases ready
    · exact orderly.closes closed
    · intro _ ready
      rw [closed] at ready
      cases ready
    · exact reacts ⟨fun _ => closed, fun _ => closes⟩
  · rw [← after] at stillReady sameClient sameNonce
    refine ⟨⟨.inr (.inl stillReady), increasing, newest, dispatched, numbered, ?_, ?_⟩,
      ⟨.inl (stillReady.trans ready.symm), ?_, fun _ => ⟨sameClient, sameNonce⟩, ?_⟩⟩
    · intro fresh
      rw [stillReady] at fresh
      cases fresh
    · intro _
      rw [sameClient, sameNonce]
      exact orderly.known ready
    · intro unready _
      exact absurd ready unready
    · apply reacts
      rw [stays, stillReady]
      decide
  · rw [← after] at opened client peer
    refine ⟨⟨.inr (.inl opened), increasing, newest, dispatched, numbered, ?_, ?_⟩,
      ⟨.inr (.inl ⟨fresh, opened⟩), ?_, ?_, ?_⟩⟩
    · intro fresh
      rw [opened] at fresh
      cases fresh
    · intro _
      rw [client, peer]
      exact ⟨Option.some_ne_none clientId, Option.some_ne_none peerNonce⟩
    · intro _ _
      rcases orderly.fresh fresh with ⟨first, noClient, noNonce⟩
      have advanced : turn.session.lastPeerSeq ≠ log.session.lastPeerSeq := by
        rw [handling.lastPeerSeq_eq accepted]
        exact ne_of_gt accepted
      refine ⟨frame, nonce, clientId, peerNonce, rfl, hello, wellFormed, first, ?_, noClient, noNonce,
        client, peer⟩
      rw [next, turned]
      dsimp only
      rw [if_neg advanced, first, List.nil_append]
    · rintro (ready | unready)
      · rw [fresh] at ready
        cases ready
      · exact absurd opened unready
    · apply reacts
      rw [stays, opened]
      decide

/-- A call without a frame that closes the session. -/
theorem Orderly.closing {log : SessionLog} (orderly : log.Orderly) {event : SessionEvent}
    (unframed : forall frame nonce, event ≠ .onFrame frame nonce) {outSeq : Nat}
    {handed : List Frame} (numbered : Numbered handed outSeq)
    (closes : log.next runtime event =
      { log with session := { log.session with state := .closed, outSeq := outSeq },
                 handed := handed }) :
    (log.next runtime event).Orderly ∧ Conforms runtime log event := by
  rw [closes]
  refine ⟨⟨.inr (.inr rfl), orderly.increasing, orderly.newest, orderly.dispatched, numbered, ?_,
    ?_⟩, ⟨?_, ?_, ?_, ?_⟩⟩
  · rintro ⟨⟩
  · rintro ⟨⟩
  · rw [closes]
    exact orderly.closes rfl
  · intro _ ready
    rw [closes] at ready
    cases ready
  · intro _
    rw [closes]
    exact ⟨rfl, rfl⟩
  · intro frame nonce framed
    exact absurd framed (unframed frame nonce)

/-- Every call keeps a session orderly and changes only what it may. -/
theorem Orderly.next {log : SessionLog} (orderly : log.Orderly) (benign : runtime.Benign)
    (event : SessionEvent) : (log.next runtime event).Orderly ∧ Conforms runtime log event := by
  cases event with
  | onFrame frame nonce =>
      rcases orderly.state with fresh | ready | closed
      · exact orderly.frame_open benign (.inl fresh) frame nonce
      · exact orderly.frame_open benign (.inr ready) frame nonce
      · have same : log.next runtime (.onFrame frame nonce) = log := by
          rw [SessionLog.next, onFrame_closed runtime nonce closed]
          simp [Turn.handed]
        rw [same]
        refine ⟨orderly, ⟨.inl (by rw [same]), ?_, ?_, ?_⟩⟩
        · intro _ ready
          rw [same, closed] at ready
          cases ready
        · intro _
          rw [same]
          exact ⟨rfl, rfl⟩
        · rintro other draw ⟨⟩
          rw [same, onFrame_closed runtime nonce closed]
          exact ⟨_, rfl, fun _ => closed, fun _ => rfl⟩
  | onProtocolError raised =>
      exact orderly.closing (by rintro _ _ ⟨⟩) (orderly.numbered.append rfl) rfl
  | onIdleTimeout =>
      apply orderly.closing (by rintro _ _ ⟨⟩) orderly.numbered
      simp [SessionLog.next, ServerSession.onIdleTimeout]
  | ack peerSeq =>
      refine ⟨⟨orderly.state, orderly.increasing, orderly.newest, orderly.dispatched,
        orderly.numbered.append rfl, orderly.fresh, orderly.known⟩, ⟨.inl rfl, ?_, ?_, ?_⟩⟩
      · intro unready ready
        exact absurd ready unready
      · exact fun _ => ⟨rfl, rfl⟩
      · rintro _ _ ⟨⟩

variable (runtime) in
/-- Every run of a fresh session is orderly, and each of its calls conforms. -/
theorem run_orderly (benign : runtime.Benign) (sessionId : SessionId)
    (events : List SessionEvent) :
    Execution.Along (step runtime) (Conforms runtime) (init sessionId) events ∧
      ∃ log, Execution.run (step runtime) (init sessionId) events = some log ∧ log.Orderly := by
  have kept {log : SessionLog} {event : SessionEvent} {after : SessionLog} (orderly : log.Orderly)
      (stepped : step runtime log event = some after) : after.Orderly := by
    cases stepped
    exact (orderly.next benign event).1
  constructor
  · exact Execution.along_of_invariant _ kept (fun orderly => (orderly.next benign _).2)
      (orderly_init sessionId) events
  · rcases Execution.run_total (fun log event => ⟨log.next runtime event, rfl⟩) (init sessionId)
      events with ⟨log, reached⟩
    exact ⟨log, reached, Execution.run_invariant _ kept (orderly_init sessionId) reached⟩

theorem run_orderly_tolerant :
    Execution.Along (step Reference.tolerant) (Conforms Reference.tolerant)
        (init Reference.sessionId)
        [.onFrame ⟨.hello, 0, Reference.hello, 0⟩ Reference.nonce, .ack 0, .onIdleTimeout] ∧
      ∃ log, Execution.run (step Reference.tolerant) (init Reference.sessionId)
        [.onFrame ⟨.hello, 0, Reference.hello, 0⟩ Reference.nonce, .ack 0, .onIdleTimeout] =
          some log ∧ log.Orderly :=
  run_orderly Reference.tolerant Reference.tolerant_benign Reference.sessionId _

variable (runtime) in
/-- A reachable session returns a reaction to every frame, which refuses what
is malformed, except where it chokes. -/
theorem onFrame_returns_iff (sessionId : SessionId) (events : List SessionEvent) {log : SessionLog}
    (reached : Execution.run (step runtime) (init sessionId) events = some log) (nonce : Nonce)
    (frame : Frame) :
    (∃ reaction, (log.session.onFrame runtime nonce frame).result = .ok reaction ∧
        (frame.Malformed runtime ->
          reaction.close = true ∧
            (log.session.onFrame runtime nonce frame).session.state = .closed ∧
            (log.session.state ≠ .closed -> reaction.Refusal))) <->
      ¬ log.session.Chokes runtime frame := by
  have kept {log : SessionLog} {event : SessionEvent} {after : SessionLog} (settled : log.Settled)
      (stepped : step runtime log event = some after) : after.Settled := by
    cases stepped
    exact settled.next event
  have settled : log.Settled := Execution.run_invariant _ kept (.inl (.inl rfl)) reached
  rcases settled with live | closed
  · have handling := onFrame_handling runtime nonce live frame
    rw [← handling.returned_iff]
    constructor
    · rintro ⟨reaction, result, _⟩
      exact ⟨reaction, result⟩
    · rintro ⟨reaction, result⟩
      refine ⟨reaction, result, ?_⟩
      intro malformed
      have refused := handling.malformed_refused malformed result
      exact ⟨refused.1.2, refused.2, fun _ => refused.1⟩
  · rw [onFrame_closed runtime nonce closed]
    constructor
    · rintro _ ⟨_, ⟨fresh, _⟩ | ⟨ready, _⟩⟩
      · rw [closed] at fresh
        cases fresh
      · rw [closed] at ready
        cases ready
    · intro _
      exact ⟨_, rfl, fun _ => ⟨rfl, closed, fun live => absurd closed live⟩⟩

/-- After the handshake, an ERROR whose payload is not UTF-8 is refused. -/
theorem onFrame_returns_iff_greeted : ∃ log : SessionLog,
    Execution.run (step Reference.runtime) (init Reference.sessionId)
        [.onFrame ⟨.hello, 0, Reference.hello, 0⟩ Reference.nonce] = some log ∧
      log.session.state = .ready ∧
      ∃ reaction, (log.session.onFrame Reference.runtime Reference.nonce
          ⟨.error, 1, [0xFF], 0⟩).result = .ok reaction ∧ reaction.Refusal := by
  rcases Reference.loads_invalid with ⟨text, unread⟩
  -- nothing else is needed of the runtime, and nothing of it is to be computed
  generalize Reference.runtime = runtime at unread ⊢
  have fresh : ({ sessionId := Reference.sessionId } : ServerSession).state = .new := rfl
  have accepted : ({ sessionId := Reference.sessionId } : ServerSession).lastPeerSeq <
      Frame.seq ⟨.hello, 0, Reference.hello, 0⟩ := show (-1 : Int) < 0 by decide
  have turn := onFrame_welcomed runtime Reference.nonce fresh accepted rfl
    (decodeHello_encodeHello runtime "client" Reference.nonce.text)
  let log := (init Reference.sessionId).next runtime
    (.onFrame ⟨.hello, 0, Reference.hello, 0⟩ Reference.nonce)
  have ready : log.session.state = .ready := congrArg (fun turn => turn.session.state) turn
  have malformed : (⟨.error, 1, [0xFF], 0⟩ : Frame).Malformed runtime := by
    refine .inr ⟨rfl, ?_⟩
    intro fields decoded
    rw [decodeError, load, unread] at decoded
    cases decoded
  have digests : ¬ log.session.Chokes runtime ⟨.error, 1, [0xFF], 0⟩ := by
    rintro ⟨_, ⟨new, _, _⟩ | ⟨_, _, (⟨_, failed⟩ | failed) | ⟨_, loaded, _⟩⟩⟩
    · rw [ready] at new
      cases new
    · cases unread.symm.trans failed
    · cases unread.symm.trans failed
    · cases unread.symm.trans loaded
  rcases (onFrame_returns_iff runtime Reference.sessionId
    [.onFrame ⟨.hello, 0, Reference.hello, 0⟩ Reference.nonce] rfl Reference.nonce
    ⟨.error, 1, [0xFF], 0⟩).mpr digests with ⟨reaction, result, refused⟩
  have live : State.ready ≠ .closed := by decide
  exact ⟨log, rfl, ready, reaction, result, (refused malformed).2.2 (by rw [ready]; exact live)⟩

/-- A HELLO of opening brackets is not answered: the reader's exception leaves
`on_frame`. -/
theorem onFrame_raises :
    Reference.deep.length ≤ maxPayload ∧
      ((init Reference.sessionId).session.onFrame Reference.runtime Reference.nonce
        ⟨.hello, 0, Reference.deep, 0⟩).result = .error .recursionError := by
  have unread : decodeHello Reference.runtime Reference.deep = .error .recursionError := by
    rw [decodeHello, load, Reference.loads_deep]
    rfl
  exact ⟨Reference.deep_fits, onFrame_recursion Reference.runtime Reference.nonce rfl (by decide)
    rfl unread⟩

end SessionLog

end Wireline
