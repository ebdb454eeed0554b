import Mathlib
import Wireline.SessionOutput
import Wireline.SessionRuns
import Wireline.Tcp.Server
import Wireline.Udp.Server

namespace Wireline

open ExactReader

/-!
# Nothing a session says is lost in the encoder

A session is called with frames that have passed the decoder, with errors that
a decoder raised, with timeouts and for acknowledgements, in any order and any
number of times.  Its counters stay in range, so everything it hands out can be
encoded, and neither server fails while it joins or writes frames.
-/

/-! ## Whatever a decoder says is short -/

/-- The decimal form of a size that a `bytes` object can have. -/
theorem length_toString_size_le {size : Nat} (range : size < 2 ^ 63) :
    (toString size).length ≤ 20 := by
  change size.repr.length ≤ 20
  rw [← String.length_toList, Nat.toList_repr]
  exact (Nat.length_toDigits_le_iff (by decide) (by decide)).mpr (by omega)

variable (digests : Digests)

/-- An error of one of the decoders.  The sizes are those of `bytes` objects. -/
inductive DecoderError : ProtocolError -> Prop
  | header {raw : Bytes} {error : ProtocolError} (sized : raw.length < 2 ^ 63)
      (raised : decodeHeader raw = .error error) : DecoderError error
  | frame {rawHeader payload mac : Bytes} {secret : Option Bytes} {error : ProtocolError}
      (headerSized : rawHeader.length < 2 ^ 63) (payloadSized : payload.length < 2 ^ 63)
      (macSized : mac.length < 2 ^ 63)
      (raised : decodeFrame digests rawHeader payload mac secret = .error error) :
      DecoderError error
  | whole {raw : Bytes} {secret : Option Bytes} {error : ProtocolError}
      (sized : raw.length < 2 ^ 63) (raised : decode digests raw secret = .error error) :
      DecoderError error
  | buffer {buffer : FrameBuffer} {error : ProtocolError}
      (raised : (buffer.drain digests).stop = some error) : DecoderError error
  | stream {secret stream rest : Bytes} {error : ProtocolError}
      (raised : (readFrame digests secret).run stream = (.raised error, rest)) :
      DecoderError error
  | datagram {data secret : Bytes} {error : ProtocolError} (sized : data.length < 2 ^ 63)
      (raised : splitDatagram digests data secret = .error error) : DecoderError error

theorem shortText_size {before after : String} (lead : before.length ≤ 100)
    (tail : after.length ≤ 100) {size : Nat} (range : size < 2 ^ 63) :
    ShortText (before ++ toString size ++ after) :=
  Nat.le_trans (length_append_le (length_append_le lead (length_toString_size_le range)) tail)
    (by decide)

theorem decodeHeader_short_of_size {raw : Bytes} (sized : raw.length < 2 ^ 63)
    {error : ProtocolError} (raised : decodeHeader raw = .error error) :
    ShortText error.message := by
  by_cases whole : raw.length = headerSize
  · exact decodeHeader_short whole raised
  · rw [decodeHeader, if_pos whole] at raised
    cases raised
    exact shortText_size (by decide) (by decide) sized

theorem decodeFrame_short_of_size {rawHeader payload mac : Bytes} {secret : Option Bytes}
    (headerSized : rawHeader.length < 2 ^ 63) (payloadSized : payload.length < 2 ^ 63)
    (macSized : mac.length < 2 ^ 63) {error : ProtocolError}
    (raised : decodeFrame digests rawHeader payload mac secret = .error error) :
    ShortText error.message := by
  cases parsed : decodeHeader rawHeader with
  | error refused =>
      rw [decodeFrame, parsed] at raised
      cases raised
      exact decodeHeader_short_of_size headerSized parsed
  | ok header =>
      by_cases body : payload.length = header.length
      · by_cases whole : mac.length = macSize
        · exact decodeFrame_short parsed body whole raised
        · rw [decodeFrame, parsed] at raised
          dsimp only [bind, Except.bind] at raised
          rw [if_neg (not_not.mpr body), if_pos whole] at raised
          cases raised
          exact shortText_size (by decide) (by decide) macSized
      · rw [decodeFrame, parsed] at raised
        dsimp only [bind, Except.bind] at raised
        rw [if_pos body] at raised
        cases raised
        have declared := ((decodeHeader_ok_iff rawHeader header).mp parsed).2.2.1
        have limit : maxPayload < 2 ^ 63 := by decide
        exact shortText_pair (by decide) (length_toString_size_le payloadSized) (by decide)
          (length_toString_size_le (by omega))

theorem drain_short {buffer : FrameBuffer} {error : ProtocolError}
    (raised : (buffer.drain digests).stop = some error) : ShortText error.message := by
  have stopped := (FrameBuffer.drain_eq_scan digests buffer).2.1
  have front := (frameScanner digests buffer.secret).next_rest buffer.buf
  rw [← stopped, raised] at front
  exact nextFrame_short digests front

theorem splitDatagram_short {data secret : Bytes} (sized : data.length < 2 ^ 63)
    {error : ProtocolError} (raised : splitDatagram digests data secret = .error error) :
    ShortText error.message := by
  have drained := FrameBuffer.drain_eq_scan digests ⟨data, some secret⟩
  rw [splitDatagram, FrameBuffer.feed, List.nil_append] at raised
  dsimp only at raised drained
  cases stopped : (FrameBuffer.drain digests ⟨data, some secret⟩).stop with
  | some refused =>
      rw [stopped] at raised
      cases raised
      exact drain_short digests stopped
  | none =>
      have partition := congrArg List.length
        ((frameScanner digests (some secret)).scan_partition data)
      rw [List.length_append] at partition
      rw [stopped] at raised
      dsimp only at raised
      rw [drained.2.2 stopped] at raised
      split at raised
      · cases raised
        have tail : " trailing bytes in datagram".length ≤ 100 := by decide
        have rest : ((frameScanner digests (some secret)).scan data).rest.length < 2 ^ 63 := by omega
        exact Nat.le_trans (length_append_le (length_toString_size_le rest) tail) (by decide)
      · cases raised

/-- What a decoder says fits into an ERROR frame. -/
theorem DecoderError.short {error : ProtocolError} (raised : DecoderError digests error) :
    ShortText error.message := by
  cases raised with
  | header sized raised => exact decodeHeader_short_of_size sized raised
  | frame headerSized payloadSized macSized raised =>
      exact decodeFrame_short_of_size digests headerSized payloadSized macSized raised
  | whole sized raised =>
      rename_i raw secret
      by_cases runt : raw.length < headerSize + macSize
      · rw [decode, if_pos runt] at raised
        cases raised
        exact shortText_size (by decide) (by decide) sized
      · rw [decode, if_neg runt] at raised
        apply decodeFrame_short_of_size digests _ _ _ raised
        · rw [List.length_take]
          omega
        · rw [List.length_drop, List.length_take]
          omega
        · rw [List.length_drop]
          omega
  | buffer raised => exact drain_short digests raised
  | stream raised =>
      exact nextFrame_short digests ((readFrame_implements digests _).of_raised raised)
  | datagram sized raised => exact splitDatagram_short digests sized raised

/-! ## Acknowledgements -/

/-- Python refuses to print an integer of more than 4300 digits, so no ACK is
made for one. -/
def Printable (number : Int) : Prop := (toString number).length ≤ 4301

theorem length_encodeAck_of_printable {peerSeq : Int} (printable : Printable peerSeq) :
    (encodeAck peerSeq).length ≤ maxPayload := by
  have number : (toString peerSeq).toList.length ≤ 4301 := by
    rw [String.length_toList]
    exact printable
  have key := Json.length_quote_le "ack_seq"
  have keyLength : "ack_seq".length = 7 := rfl
  have chars : (Json.dumps [("ack_seq", .int peerSeq)]).length ≤ 4500 := by
    simp only [Json.dumps, Json.members, Json.Scalar.text, List.length_cons, List.length_append,
      List.length_nil]
    omega
  have octets := Json.length_utf8_le (Json.dumps [("ack_seq", .int peerSeq)])
  have large : maxPayload = 1048576 := by decide
  rw [large, encodeAck, Json.dump]
  omega

/-! ## Runs -/

section

variable (runtime : Runtime) (secret : Bytes)

/-- The calls that the servers make. -/
inductive SessionEvent.Served : SessionEvent -> Prop
  | onFrame {raw : Bytes} {frame : Frame} (nonce : Nonce)
      (decoded : decode runtime.toDigests raw (some secret) = .ok frame) :
      SessionEvent.Served (.onFrame frame nonce)
  | onProtocolError {raised : ProtocolError} (decoder : DecoderError runtime.toDigests raised) :
      SessionEvent.Served (.onProtocolError raised)
  | onIdleTimeout : SessionEvent.Served .onIdleTimeout
  | ack {peerSeq : Int} (printable : Printable peerSeq) : SessionEvent.Served (.ack peerSeq)

/-- A session whose counters are in range, and which has said nothing that
cannot be encoded. -/
structure SessionLog.Encoding (log : SessionLog) : Prop where
  settled : log.Settled
  range : log.session.InRange
  encodable : forall frame, frame ∈ log.handed -> Encodable frame

theorem SessionLog.encoding_init (sessionId : SessionId) : (init sessionId).Encoding where
  settled := .inl (.inl rfl)
  range := ServerSession.inRange_init sessionId
  encodable := by
    intro frame member
    cases member

variable {runtime secret} in
/-- One call keeps it so. -/
theorem SessionLog.Encoding.next {log : SessionLog} (encoding : log.Encoding)
    {event : SessionEvent} (served : SessionEvent.Served runtime secret event) :
    (log.next runtime event).Encoding := by
  have settled : (log.next runtime event).Settled := encoding.settled.next event
  cases served with
  | onFrame nonce decoded =>
      rename_i raw frame
      have checks := encodable_of_decode runtime.toDigests decoded
      rcases encoding.settled with live | closed
      · have handling := onFrame_handling runtime nonce live frame
        rcases handling.encodable encoding.range checks with ⟨range, replies⟩
        refine ⟨settled, range, ?_⟩
        intro reply member
        rcases List.mem_append.mp member with old | new
        · exact encoding.encodable reply old
        · unfold Turn.handed at new
          split at new
          · cases new
          · rename_i reaction result
            exact replies reaction result reply new
      · have silent := onFrame_closed runtime nonce closed frame
        refine ⟨settled, ?_, ?_⟩
        · change ((log.session.onFrame runtime nonce frame).session).InRange
          rw [silent]
          exact encoding.range
        · intro reply member
          rcases List.mem_append.mp member with old | new
          · exact encoding.encodable reply old
          · rw [silent] at new
            cases new
  | onProtocolError decoder =>
      rename_i raised
      have sized := length_encodeError_le raised.code decoder.short
      refine ⟨settled, ⟨masked_le _, encoding.range.lastPeerSeq⟩, ?_⟩
      intro frame member
      rcases List.mem_append.mp member with old | new
      · exact encoding.encodable frame old
      · rw [List.mem_singleton.mp new]
        exact encodable_answer encoding.range.outSeq sized
  | onIdleTimeout =>
      refine ⟨settled, ⟨encoding.range.outSeq, encoding.range.lastPeerSeq⟩, ?_⟩
      intro frame member
      rcases List.mem_append.mp member with old | new
      · exact encoding.encodable frame old
      · cases new
  | ack printable =>
      refine ⟨settled, ⟨masked_le _, encoding.range.lastPeerSeq⟩, ?_⟩
      intro frame member
      rcases List.mem_append.mp member with old | new
      · exact encoding.encodable frame old
      · rw [List.mem_singleton.mp new]
        exact encodable_answer encoding.range.outSeq (length_encodeAck_of_printable printable)

/-- Every frame that a session hands out in a run can be encoded, and both
servers write whatever they make of such frames. -/
theorem SessionLog.run_encodes (sessionId : SessionId) (events : List SessionEvent)
    (served : forall event, event ∈ events -> SessionEvent.Served runtime secret event)
    {log : SessionLog}
    (reached : Execution.run (step runtime) (init sessionId) events = some log) :
    (forall frame, frame ∈ log.handed ->
      ∃ raw, encode runtime.toDigests frame secret = .ok raw) ∧
      forall frames, (forall frame, frame ∈ frames -> frame ∈ log.handed) ->
        WirelineServer.apply runtime secret frames = (frames, none) ∧
          ∃ data, join runtime.toDigests secret frames = .ok data := by
  have encoding : log.Encoding := by
    have along : Execution.Along (step runtime)
        (fun _ event => SessionEvent.Served runtime secret event)
        (init sessionId) events :=
      Execution.along_of_forall _ (fun event member _ => served event member) _
    refine Execution.run_invariant_along _ ?_ (encoding_init sessionId) along reached
    intro before event after encoding called stepped
    cases stepped
    exact encoding.next called
  constructor
  · intro frame member
    exact exists_encode runtime.toDigests (encoding.encodable frame member) secret
  · intro frames inside
    have encodable (frame : Frame) (member : frame ∈ frames) : Encodable frame :=
      encoding.encodable frame (inside frame member)
    exact ⟨WirelineServer.apply_encodable runtime secret encodable,
      exists_join runtime.toDigests secret encodable⟩

theorem SessionLog.run_encodes_hello :
    ∃ log, Execution.run (step Reference.runtime) (init Reference.sessionId)
        [.onFrame ⟨.hello, 0, Reference.hello, 0⟩ Reference.nonce, .ack 0,
          .onProtocolError ⟨.errLength, "short header: 0 bytes"⟩, .onIdleTimeout] = some log ∧
      (forall frame, frame ∈ log.handed ->
        ∃ raw, encode Reference.runtime.toDigests frame Reference.secret = .ok raw) ∧
      forall frames, (forall frame, frame ∈ frames -> frame ∈ log.handed) ->
        WirelineServer.apply Reference.runtime Reference.secret frames = (frames, none) ∧
          ∃ data, join Reference.runtime.toDigests Reference.secret frames = .ok data := by
  refine ⟨_, rfl, run_encodes Reference.runtime Reference.secret Reference.sessionId
    [.onFrame ⟨.hello, 0, Reference.hello, 0⟩ Reference.nonce, .ack 0,
      .onProtocolError ⟨.errLength, "short header: 0 bytes"⟩, .onIdleTimeout] ?_ rfl⟩
  have checks : Encodable ⟨.hello, 0, Reference.hello, 0⟩ :=
    encodable_plain Reference.hello_fits (by decide)
  rcases exists_decode Reference.runtime.toDigests checks Reference.secret with ⟨raw, decoded⟩
  intro event member
  simp only [List.mem_cons, List.not_mem_nil, or_false] at member
  rcases member with rfl | rfl | rfl | rfl
  · exact .onFrame Reference.nonce decoded
  · have printable : (toString (0 : Int)).length ≤ 4301 := by decide
    exact .ack printable
  · have empty : ([] : Bytes).length < 2 ^ 63 := by decide
    exact .onProtocolError (.header empty rfl)
  · exact .onIdleTimeout

end

end Wireline
