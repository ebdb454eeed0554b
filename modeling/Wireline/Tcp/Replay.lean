import Wireline.SessionIdentity
import Wireline.Tcp.Server

namespace Wireline

open ExactReader

/-!
# A recorded stream on another connection

Every frame is signed with the same key, and every connection counts from 0.
The octets of one connection are therefore read, accepted and executed on any
other.  The identifier of the new session and its nonce show up in the
payload of the HELLO_ACK, and nowhere else.
-/

/-- A frame without the words that name a session. -/
def Frame.unnamed (frame : Frame) : Frame :=
  if frame.msgType = .helloAck then { frame with payload := [] } else frame

namespace WirelineServer

section

variable (runtime : Runtime) (secret : Bytes) (nonce : Nonce) {session : ServerSession}
  (live : session.Open) (cut : Cut) {stream rest : Bytes}
include live

/-- A stream that ends inside a frame is left without a word. -/
theorem handle_incomplete (read : (readFrame runtime.toDigests secret).run stream = (.incomplete, rest)) :
    handle runtime secret nonce session cut stream = {} := by
  have notClosed : ¬ (session.state = .closing ∨ session.state = .closed) := by
    rcases live with same | same <;> rw [same] <;> decide
  rw [handle.eq_def, if_neg notClosed]
  split
  · cases cut <;> rfl
  · rename_i wrong
    rw [read] at wrong
    cases wrong
  · rename_i wrong
    rw [read] at wrong
    cases wrong

/-- Octets that are no frame are answered with their error. -/
theorem handle_broken (range : session.InRange) {error : ProtocolError}
    (read : (readFrame runtime.toDigests secret).run stream = (.raised error, rest)) :
    handle runtime secret nonce session cut stream =
      { written := [⟨.error, session.outSeq, encodeError error.code error.message, 0⟩] } := by
  have notClosed : ¬ (session.state = .closing ∨ session.state = .closed) := by
    rcases live with same | same <;> rw [same] <;> decide
  have encodable (reply : Frame) (member : reply ∈ (session.onProtocolError error).1.frames) :
      Encodable reply := by
    rw [List.mem_singleton.mp member]
    exact encodable_answer range.outSeq
      (length_encodeError_le error.code (short_of_read runtime secret read))
  rw [handle.eq_def, if_neg notClosed]
  split
  · rename_i wrong
    rw [read] at wrong
    cases wrong
  · rename_i found left same
    rw [read] at same
    cases same
    rw [apply_encodable runtime secret encodable]
    rfl
  · rename_i wrong
    rw [read] at wrong
    cases wrong

end

variable (runtime : Runtime) (secret : Bytes)

/-- Two counterparts with the same counter hold the same conversation. -/
theorem handle_counterpart {first second : ServerSession} (pair : Counterpart first second)
    (numbered : second.outSeq = first.outSeq) (live : first.Open) (range : first.InRange)
    (nonce other : Nonce) (cut later : Cut) (stream : Bytes) :
    (handle runtime secret other second later stream).inbound =
        (handle runtime secret nonce first cut stream).inbound ∧
      (handle runtime secret other second later stream).calls =
        (handle runtime secret nonce first cut stream).calls ∧
      (handle runtime secret other second later stream).written.map Frame.unnamed =
        (handle runtime secret nonce first cut stream).written.map Frame.unnamed := by
  have alive : second.Open := by
    rw [ServerSession.Open, pair.state]
    exact live
  have ranged : second.InRange := by
    refine ⟨?_, ?_⟩
    · rw [numbered]
      exact range.outSeq
    · rw [pair.lastPeerSeq]
      exact range.lastPeerSeq
  rcases read : (readFrame runtime.toDigests secret).run stream with ⟨ended, rest⟩
  cases ended with
  | incomplete =>
      rw [handle_incomplete runtime secret nonce live cut read,
        handle_incomplete runtime secret other alive later read]
      exact ⟨rfl, rfl, rfl⟩
  | raised error =>
      rw [handle_broken runtime secret nonce live cut range read,
        handle_broken runtime secret other alive later ranged read, numbered]
      exact ⟨rfl, rfl, rfl⟩
  | returned frame =>
      have shorter := (readFrame_implements runtime.toDigests secret).consuming stream frame rest read
      have handling := onFrame_handling runtime nonce live frame
      have turnRange := (handling.encodable range (encodable_of_read runtime secret read)).1
      have state := handling.live live
      have parallel := onFrame_parallel runtime nonce other pair frame
      rw [handle_returned runtime secret nonce live range cut read,
        handle_returned runtime secret other alive ranged later read]
      generalize first.onFrame runtime nonce frame = turn at parallel handling state turnRange
      generalize second.onFrame runtime other frame = answer at parallel
      cases parallel with
      | raised together one two error calls => exact ⟨rfl, rfl, rfl⟩
      | silent together one two close reason calls =>
          cases close with
          | true =>
              dsimp only
              rw [if_pos rfl, if_pos rfl]
              exact ⟨rfl, rfl, rfl⟩
          | false =>
              have same := two.outSeq.trans (numbered.trans one.outSeq.symm)
              have tail := handle_counterpart together same state turnRange nonce other cut later rest
              dsimp only
              rw [if_neg Bool.false_ne_true, if_neg Bool.false_ne_true, tail.1, tail.2.1,
                List.nil_append, List.nil_append]
              exact ⟨rfl, rfl, tail.2.2⟩
      | spoken together one two words fixed close reason calls =>
          rename_i left right kind
          have unnamed : Frame.unnamed ⟨kind, second.outSeq, words second.sessionId other, 0⟩ =
              Frame.unnamed ⟨kind, first.outSeq, words first.sessionId nonce, 0⟩ := by
            rw [Frame.unnamed, Frame.unnamed, numbered]
            by_cases greeting : kind = .helloAck
            · rw [if_pos greeting, if_pos greeting]
            · rw [if_neg greeting, if_neg greeting, fixed greeting]
          cases close with
          | true =>
              dsimp only
              rw [if_pos rfl, if_pos rfl]
              exact ⟨rfl, rfl, congrArg (fun reply => [reply]) unnamed⟩
          | false =>
              have counter : right.outSeq = left.outSeq := by
                rw [two.outSeq, one.outSeq, numbered]
              have tail := handle_counterpart together counter state turnRange nonce other cut later rest
              dsimp only
              rw [if_neg Bool.false_ne_true, if_neg Bool.false_ne_true, tail.1, tail.2.1,
                List.singleton_append, List.singleton_append, List.map_cons, List.map_cons, unnamed,
                tail.2.2]
              exact ⟨rfl, rfl, rfl⟩
termination_by stream.length

/-- Whatever octets one connection received, another connection that receives
them reads the same frames, runs the same handlers, and writes the same frames
up to the payload of its HELLO_ACK. -/
theorem handle_replayed (sessionId laterId : SessionId) (nonce laterNonce : Nonce) (cut later : Cut)
    (stream : Bytes) :
    let recorded := handle runtime secret nonce { sessionId := sessionId } cut stream
    let replayed := handle runtime secret laterNonce { sessionId := laterId } later stream
    replayed.inbound = recorded.inbound ∧ replayed.calls = recorded.calls ∧
      replayed.written.map Frame.unnamed = recorded.written.map Frame.unnamed := by
  have pair : Counterpart { sessionId := sessionId } { sessionId := laterId } := ⟨rfl, rfl⟩
  exact handle_counterpart runtime secret pair rfl (.inl rfl) (ServerSession.inRange_init sessionId)
    nonce laterNonce cut later stream

end WirelineServer
end Wireline
