import Wireline.Protocol.ErrorTexts
import Wireline.SessionHandling

namespace Wireline

open Json

/-!
# What a session says can be encoded

The encoder refuses a payload over the limit and a `seq` outside 32 bits.  An
echoed payload has passed the decoder, a counter is masked, and an error
message is built from short texts and numbers that fit the wire.  Together
these give an encodable frame for every reaction to a decoded frame, so no
reply is ever lost in the encoder.
-/

/-- A text is bounded by its punctuation, the digits of its integers and six
characters for each character of its strings. -/
theorem length_encodeError_le (code : ErrorCode) {message : String} (short : ShortText message) :
    (encodeError code message).length ≤ maxPayload := by
  have limit : message.length ≤ 2000 := short
  have number : (toString (code.value : Int)).toList.length ≤ 10 := by
    rw [String.length_toList]
    exact length_toString_le (value_le_maxSeq code)
  have codeKey := length_quote_le "code"
  have messageKey := length_quote_le "message"
  have quoted := length_quote_le message
  have codeLength : "code".length = 4 := rfl
  have messageLength : "message".length = 7 := rfl
  have chars : (dumps [("code", .int code.value), ("message", .str message)]).length ≤ 13000 := by
    simp only [dumps, members, Scalar.text, List.length_cons, List.length_append,
      List.length_nil]
    omega
  have octets := length_utf8_le (dumps [("code", .int code.value), ("message", .str message)])
  have large : maxPayload = 1048576 := by decide
  rw [large, encodeError, dump]
  omega

theorem length_encodeAck_le {ackSeq : Int} (range : 0 ≤ ackSeq ∧ ackSeq ≤ maxSeq) :
    (encodeAck ackSeq).length ≤ maxPayload := by
  have number : (toString ackSeq).toList.length ≤ 10 := by
    rw [String.length_toList]
    exact length_toString_le range
  have key := length_quote_le "ack_seq"
  have keyLength : "ack_seq".length = 7 := rfl
  have chars : (dumps [("ack_seq", .int ackSeq)]).length ≤ 100 := by
    simp only [dumps, members, Scalar.text, List.length_cons, List.length_append,
      List.length_nil]
    omega
  have octets := length_utf8_le (dumps [("ack_seq", .int ackSeq)])
  have large : maxPayload = 1048576 := by decide
  rw [large, encodeAck, dump]
  omega

theorem length_encodeHelloAck_le (sessionId : SessionId) (nonce : Nonce) :
    (encodeHelloAck sessionId.text nonce.text).length ≤ maxPayload := by
  have sessionKey := length_quote_le "session_id"
  have nonceKey := length_quote_le "nonce"
  have sessionText := length_quote_le sessionId.text
  have nonceText := length_quote_le nonce.text
  have sessionKeyLength : "session_id".length = 10 := rfl
  have nonceKeyLength : "nonce".length = 5 := rfl
  have sessionLength := sessionId.length_text
  have nonceLength := nonce.length_text
  have chars : (dumps [("session_id", .str sessionId.text),
      ("nonce", .str nonce.text)]).length ≤ 1000 := by
    simp only [dumps, members, Scalar.text, List.length_cons, List.length_append,
      List.length_nil]
    omega
  have octets := length_utf8_le
    (dumps [("session_id", .str sessionId.text), ("nonce", .str nonce.text)])
  have large : maxPayload = 1048576 := by decide
  rw [large, encodeHelloAck, dump]
  omega

/-! ## The messages of a session are short -/

theorem shortText_stale {seq last : Int} (seqRange : -1 ≤ seq ∧ seq ≤ maxSeq)
    (lastRange : -1 ≤ last ∧ last ≤ maxSeq) :
    ShortText s!"seq {seq} not greater than last accepted {last}" :=
  shortText_pair (by decide) (Nat.le_trans (length_toString_seq_le seqRange) (by decide))
    (by decide) (Nat.le_trans (length_toString_seq_le lastRange) (by decide))

theorem Refuses.short {runtime : Runtime} {state : State} {frame : Frame} {error : ProtocolError}
    (refuses : Refuses runtime state frame error) (sized : frame.payload.length ≤ maxPayload) :
    ShortText error.message := by
  cases refuses with
  | beforeHandshake fresh other =>
      have name := frame.msgType.length_name_le
      exact Nat.le_trans (length_append_le name (show " is not allowed before the handshake".length ≤
        100 by decide)) (by decide)
  | malformedHello fresh hello malformed =>
      rcases decodeHello_malformed runtime malformed with unread | rfl
      · exact load_short runtime sized unread
      · decide
  | secondHello ready hello => decide
  | helloAck ready helloAck => decide
  | malformedError ready report malformed =>
      rcases decodeError_malformed runtime malformed with unread | rfl
      · exact load_short runtime sized unread
      · decide

/-! ## Encodable reactions -/

namespace ServerSession

/-- The counters of a session that has seen decoded frames only. -/
structure InRange (session : ServerSession) : Prop where
  outSeq : session.outSeq ≤ maxSeq
  lastPeerSeq : -1 ≤ session.lastPeerSeq ∧ session.lastPeerSeq ≤ maxSeq

theorem inRange_init (sessionId : SessionId) : InRange { sessionId := sessionId } :=
  ⟨Nat.zero_le _, show -1 ≤ (-1 : Int) ∧ (-1 : Int) ≤ maxSeq by decide⟩

end ServerSession

theorem masked_le (seq : Nat) : seq &&& maxSeq ≤ maxSeq := Nat.and_le_right

/-- Up to its last value the counter counts. -/
theorem masked_succ {seq : Nat} (below : seq < maxSeq) : (seq + 1) &&& maxSeq = seq + 1 := by
  have limit : maxSeq = 2 ^ 32 - 1 := rfl
  rw [limit] at below ⊢
  rw [Nat.and_two_pow_sub_one_eq_mod]
  exact Nat.mod_eq_of_lt (by omega)

theorem encodable_answer {msgType : MsgType} {outSeq : Nat} {payload : Bytes}
    (numbered : outSeq ≤ maxSeq) (sized : payload.length ≤ maxPayload) :
    Encodable ⟨msgType, outSeq, payload, 0⟩ :=
  ⟨sized, ⟨Int.natCast_nonneg outSeq, Int.ofNat_le.mpr numbered⟩,
    (unknownFlags_eq_zero_iff 0).mpr (by decide)⟩

/-- A session in range stays in range, and everything it says is encodable. -/
theorem Handling.encodable {runtime : Runtime} {nonce : Nonce} {session : ServerSession}
    {frame : Frame} {turn : Turn} (handling : Handling runtime nonce session frame turn)
    (range : session.InRange) (decoded : Encodable frame) :
    turn.session.InRange ∧ forall reaction, turn.result = .ok reaction ->
      forall reply, reply ∈ reaction.frames -> Encodable reply := by
  have seqRange : -1 ≤ frame.seq ∧ frame.seq ≤ maxSeq := ⟨by have := decoded.seq.1; omega,
    decoded.seq.2⟩
  have single {msgType : MsgType} {payload : Bytes} (sized : payload.length ≤ maxPayload) :
      forall reply, reply ∈ [(⟨msgType, session.outSeq, payload, 0⟩ : Frame)] -> Encodable reply := by
    intro reply member
    rw [List.mem_singleton.mp member]
    exact encodable_answer range.outSeq sized
  cases handling with
  | stale late =>
      refine ⟨⟨masked_le _, range.lastPeerSeq⟩, ?_⟩
      rintro reaction ⟨⟩
      exact single (length_encodeError_le _ (shortText_stale seqRange range.lastPeerSeq))
  | refused accepted refuses handler ran =>
      refine ⟨⟨masked_le _, seqRange⟩, ?_⟩
      rintro reaction ⟨⟩
      exact single (length_encodeError_le _ (refuses.short decoded.payload))
  | escaped accepted escapes handler ran => exact ⟨⟨range.outSeq, seqRange⟩, nofun⟩
  | welcomed accepted fresh hello wellFormed =>
      refine ⟨⟨masked_le _, seqRange⟩, ?_⟩
      rintro reaction ⟨⟩
      exact single (length_encodeHelloAck_le session.sessionId nonce)
  | echoed accepted ready echo =>
      refine ⟨⟨masked_le _, seqRange⟩, ?_⟩
      rintro reaction ⟨⟩
      exact single decoded.payload
  | ignored accepted ready silent =>
      refine ⟨⟨range.outSeq, seqRange⟩, ?_⟩
      rintro reaction ⟨⟩ reply member
      cases member
  | farewell accepted ready bye =>
      refine ⟨⟨masked_le _, seqRange⟩, ?_⟩
      rintro reaction ⟨⟩
      exact single (Nat.zero_le _)
  | reported accepted ready report found =>
      refine ⟨⟨range.outSeq, seqRange⟩, ?_⟩
      rintro reaction ⟨⟩ reply member
      cases member

/-- An acknowledgement of a decoded frame is encodable as well. -/
theorem ServerSession.ack_encodable {session : ServerSession} (range : session.InRange)
    {peerSeq : Int} (decoded : 0 ≤ peerSeq ∧ peerSeq ≤ maxSeq) :
    Encodable (session.ack peerSeq).1 ∧ (session.ack peerSeq).2.InRange :=
  ⟨encodable_answer range.outSeq (length_encodeAck_le decoded), masked_le _, range.lastPeerSeq⟩

end Wireline
