import Wireline.SessionOutput

namespace Wireline

/-!
# What a session does not look at

The identifier of a session, its nonce and its own numbers appear in what it
says and decide nothing.  Two sessions in the same state that accepted the
same number last react to a frame alike, each in its own name and from its
own counter.
-/

/-- Two sessions that differ at most in their names and in their counters. -/
structure Counterpart (first second : ServerSession) : Prop where
  state : second.state = first.state
  lastPeerSeq : second.lastPeerSeq = first.lastPeerSeq

/-- What one turn leaves of a session's name and counter. -/
structure Keeps (before after : ServerSession) (outSeq : Nat) : Prop where
  sessionId : after.sessionId = before.sessionId
  outSeq : after.outSeq = outSeq

/-- Two turns that say the same: only the words of a HELLO_ACK depend on the
name and on the nonce. -/
inductive Parallel (first second : ServerSession) (nonce other : Nonce) : Turn -> Turn -> Prop
  | raised {left right : ServerSession} (pair : Counterpart left right)
      (one : Keeps first left first.outSeq) (two : Keeps second right second.outSeq)
      (error : PyError) (calls : List Call) :
      Parallel first second nonce other ⟨left, .error error, calls⟩ ⟨right, .error error, calls⟩
  | silent {left right : ServerSession} (pair : Counterpart left right)
      (one : Keeps first left first.outSeq) (two : Keeps second right second.outSeq) (close : Bool)
      (reason : Option String) (calls : List Call) :
      Parallel first second nonce other ⟨left, .ok ⟨[], close, reason⟩, calls⟩
        ⟨right, .ok ⟨[], close, reason⟩, calls⟩
  | spoken {left right : ServerSession} (pair : Counterpart left right)
      (one : Keeps first left ((first.outSeq + 1) &&& maxSeq))
      (two : Keeps second right ((second.outSeq + 1) &&& maxSeq)) {kind : MsgType}
      (words : SessionId -> Nonce -> Bytes)
      (fixed : kind ≠ .helloAck -> forall id nonce id' nonce', words id nonce = words id' nonce')
      (close : Bool) (reason : Option String) (calls : List Call) :
      Parallel first second nonce other
        ⟨left, .ok ⟨[⟨kind, first.outSeq, words first.sessionId nonce, 0⟩], close, reason⟩, calls⟩
        ⟨right, .ok ⟨[⟨kind, second.outSeq, words second.sessionId other, 0⟩], close, reason⟩, calls⟩

section

variable (runtime : Runtime) (nonce other : Nonce)

/-- A refusal has the same code and text in both sessions. -/
private theorem refusal_parallel {first second : ServerSession} (error : ProtocolError)
    (calls : List Call) {left right : ServerSession} (pair : Counterpart left right)
    (one : Keeps first left first.outSeq) (two : Keeps second right second.outSeq) :
    Parallel first second nonce other
      ⟨(left.error error.code error.message).2, .ok (left.error error.code error.message).1, calls⟩
      ⟨(right.error error.code error.message).2, .ok (right.error error.code error.message).1,
        calls⟩ := by
  have paired : Counterpart (left.error error.code error.message).2
      (right.error error.code error.message).2 := ⟨rfl, pair.lastPeerSeq⟩
  have kept {session named : ServerSession} (own : Keeps named session named.outSeq) :
      Keeps named (session.error error.code error.message).2 ((named.outSeq + 1) &&& maxSeq) := by
    refine ⟨own.sessionId, ?_⟩
    rw [← own.outSeq]
    rfl
  have spoken : Parallel first second nonce other _ _ := .spoken paired (kept one) (kept two)
    (fun (_ : SessionId) (_ : Nonce) => encodeError error.code error.message)
    (fun (_ : MsgType.error ≠ .helloAck) _ _ _ _ => rfl) true
    (some s!"{error.code.name}: {error.message}") calls
  rw [← one.outSeq, ← two.outSeq] at spoken
  exact spoken

/-- An exception of a handler becomes the same ERROR, or escapes from both. -/
private theorem raised_parallel {first second : ServerSession} (raised : PyError) (calls : List Call)
    {left right : ServerSession} (pair : Counterpart left right)
    (one : Keeps first left first.outSeq) (two : Keeps second right second.outSeq) :
    Parallel first second nonce other
      (ServerSession.catchProtocolError ⟨left, .error raised, calls⟩)
      (ServerSession.catchProtocolError ⟨right, .error raised, calls⟩) := by
  cases raised with
  | protocolError error => exact refusal_parallel nonce other error calls pair one two
  | valueError _ | recursionError | indexError | incompleteReadError | timeoutError =>
      exact .raised pair one two _ calls

/-- Two counterparts react to a frame alike. -/
theorem onFrame_parallel {first second : ServerSession} (pair : Counterpart first second)
    (frame : Frame) :
    Parallel first second nonce other (first.onFrame runtime nonce frame)
      (second.onFrame runtime other frame) := by
  rcases first with ⟨sessionId, _, clientId, peerNonce, outSeq, _⟩
  rcases second with ⟨sessionId', state, clientId', peerNonce', outSeq', last⟩
  rcases pair with ⟨rfl, rfl⟩
  rw [ServerSession.onFrame, ServerSession.onFrame]
  dsimp only
  by_cases ended : state = .closing ∨ state = .closed
  · rw [if_pos ended, if_pos ended]
    refine .silent ?_ ?_ ?_ true (some "frame after close") [] <;> exact ⟨rfl, rfl⟩
  · rw [if_neg ended, if_neg ended]
    by_cases late : frame.seq ≤ last
    · rw [if_pos late, if_pos late]
      exact refusal_parallel nonce other
        ⟨.errSeq, s!"seq {frame.seq} not greater than last accepted {last}"⟩ [] ⟨rfl, rfl⟩ ⟨rfl, rfl⟩
        ⟨rfl, rfl⟩
    · rw [if_neg late, if_neg late, ServerSession.dispatch, ServerSession.dispatch,
        ServerSession.react, ServerSession.react]
      dsimp only
      by_cases fresh : state = .new
      · rw [if_pos fresh, if_pos fresh]
        by_cases hello : frame.msgType ≠ .hello
        · rw [if_pos hello, if_pos hello]
          exact raised_parallel nonce other _ _ ⟨rfl, rfl⟩ ⟨rfl, rfl⟩ ⟨rfl, rfl⟩
        · rw [if_neg hello, if_neg hello, ServerSession.onHello, ServerSession.onHello]
          cases decodeHello runtime frame.payload with
          | error raised => exact raised_parallel nonce other _ _ ⟨rfl, rfl⟩ ⟨rfl, rfl⟩ ⟨rfl, rfl⟩
          | ok fields =>
              refine .spoken ?_ ?_ ?_
                (fun sessionId nonce => encodeHelloAck sessionId.text nonce.text)
                (fun different => absurd rfl different) false none _ <;> exact ⟨rfl, rfl⟩
      · rw [if_neg fresh, if_neg fresh]
        cases frame.msgType with
        | hello | helloAck => exact raised_parallel nonce other _ _ ⟨rfl, rfl⟩ ⟨rfl, rfl⟩ ⟨rfl, rfl⟩
        | ping | data =>
            refine .spoken ?_ ?_ ?_ (fun _ _ => frame.payload)
              (fun _ _ _ _ _ => rfl) false none _ <;> exact ⟨rfl, rfl⟩
        | pong | ack => refine .silent ?_ ?_ ?_ false none _ <;> exact ⟨rfl, rfl⟩
        | bye =>
            refine .spoken ?_ ?_ ?_ (fun _ _ => []) (fun _ _ _ _ _ => rfl) true
              (some "peer said bye") _ <;> exact ⟨rfl, rfl⟩
        | error =>
            dsimp only
            cases decodeError runtime frame.payload with
            | error raised => exact raised_parallel nonce other _ _ ⟨rfl, rfl⟩ ⟨rfl, rfl⟩ ⟨rfl, rfl⟩
            | ok fields => refine .silent ?_ ?_ ?_ true _ _ <;> exact ⟨rfl, rfl⟩

end
end Wireline
