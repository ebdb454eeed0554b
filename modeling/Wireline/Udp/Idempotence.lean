import Wireline.Reference
import Wireline.Udp.Server

namespace Wireline

open Json

/-!
# Delivering a frame and then its retransmission

A retransmission differs from the first transmission in one flag.  Where the
first delivery leaves the sequence number in the window, the second is
answered from it.  Where the first delivery closes, the entry is gone and the
second meets a session that has just been built; the two answers then agree
only if the first session was as good as new.  `Repeatable` collects the
cases of agreement, and the main theorem says that there are no others.
-/

/-- The same type, number and payload, marked as a retransmission. -/
def retransmission (frame : Frame) : Frame :=
  { frame with flags := Int.lor frame.flags flagRetransmit }

/-- The frames on which a second delivery changes nothing, by the state of
the peer before the first. -/
inductive Repeatable (runtime : Runtime) (peer : Peer) (frame : Frame) : Prop
  | cached {reply : Bytes} (hit : peer.dedup.get frame.seq = some reply)
  | continued (accepted : peer.session.lastPeerSeq < frame.seq) (ready : peer.session.state = .ready)
      (kind : frame.msgType = .ping ∨ frame.msgType = .pong ∨ frame.msgType = .data ∨
        frame.msgType = .ack)
  | greeted (accepted : peer.session.lastPeerSeq < frame.seq) (fresh : peer.session.state = .new)
      (hello : frame.msgType = .hello) {clientId peerNonce : String}
      (wellFormed : decodeHello runtime frame.payload = .ok (clientId, peerNonce))
  | refusedAfresh (accepted : peer.session.lastPeerSeq < frame.seq)
      (fresh : peer.session.state = .new) (unnumbered : peer.session.outSeq = 0)
      {error : ProtocolError} (refuses : Refuses runtime .new frame error)

section

variable {runtime : Runtime}

/-! What a number that the window does not hold leaves of the four cases. -/

theorem Repeatable.accepted {peer : Peer} {frame : Frame}
    (repeatable : Repeatable runtime peer frame) (missed : peer.dedup.get frame.seq = none) :
    peer.session.lastPeerSeq < frame.seq := by
  cases repeatable with
  | cached hit =>
      rw [missed] at hit
      cases hit
  | continued accepted _ _ | greeted accepted _ _ _ | refusedAfresh accepted _ _ _ => exact accepted

theorem Repeatable.kind {peer : Peer} {frame : Frame}
    (repeatable : Repeatable runtime peer frame) (missed : peer.dedup.get frame.seq = none)
    (ready : peer.session.state = .ready) :
    frame.msgType = .ping ∨ frame.msgType = .pong ∨ frame.msgType = .data ∨
      frame.msgType = .ack := by
  cases repeatable with
  | cached hit =>
      rw [missed] at hit
      cases hit
  | continued _ _ kind => exact kind
  | greeted _ fresh _ _ | refusedAfresh _ fresh _ _ =>
      rw [ready] at fresh
      cases fresh

theorem Repeatable.opening {peer : Peer} {frame : Frame}
    (repeatable : Repeatable runtime peer frame) (missed : peer.dedup.get frame.seq = none)
    (fresh : peer.session.state = .new) :
    (frame.msgType = .hello ∧ ∃ names, decodeHello runtime frame.payload = .ok names) ∨
      (peer.session.outSeq = 0 ∧ ∃ error, Refuses runtime .new frame error) := by
  cases repeatable with
  | cached hit =>
      rw [missed] at hit
      cases hit
  | continued _ ready _ =>
      rw [fresh] at ready
      cases ready
  | greeted _ _ hello wellFormed => exact Or.inl ⟨hello, _, wellFormed⟩
  | refusedAfresh _ _ unnumbered refuses => exact Or.inr ⟨unnumbered, _, refuses⟩

theorem Refuses.unique {frame : Frame} {error other : ProtocolError}
    (refuses : Refuses runtime .new frame error) (again : Refuses runtime .new frame other) :
    error = other := by
  cases refuses with
  | beforeHandshake _ differs =>
      cases again with
      | beforeHandshake _ _ => rfl
      | malformedHello _ hello _ => exact absurd hello differs
      | secondHello ready _ | helloAck ready _ | malformedError ready _ _ => cases ready
  | malformedHello _ hello malformed =>
      cases again with
      | beforeHandshake _ differs => exact absurd hello differs
      | malformedHello _ _ same =>
          rw [malformed] at same
          cases same
          rfl
      | secondHello ready _ | helloAck ready _ | malformedError ready _ _ => cases ready
  | secondHello ready _ | helloAck ready _ | malformedError ready _ _ => cases ready

/-- A fresh session refuses a frame for its type or for its payload, never
for its number. -/
theorem Refuses.code_new {frame : Frame} {error : ProtocolError}
    (refuses : Refuses runtime .new frame error) : error.code ≠ .errSeq := by
  cases refuses with
  | beforeHandshake _ _ => nofun
  | malformedHello _ _ malformed =>
      rcases decodeHello_malformed runtime malformed with unread | rfl
      · rw [load_malformed runtime unread]
        nofun
      · nofun
  | secondHello ready _ | helloAck ready _ | malformedError ready _ _ => cases ready

theorem Refuses.not_wellFormed {frame : Frame} {error : ProtocolError}
    (refuses : Refuses runtime .new frame error) (hello : frame.msgType = .hello)
    {fields : String × String} : decodeHello runtime frame.payload ≠ .ok fields := by
  intro wellFormed
  cases refuses with
  | beforeHandshake _ differs => exact differs hello
  | malformedHello _ _ malformed =>
      rw [malformed] at wellFormed
      cases wellFormed
  | secondHello ready _ | helloAck ready _ | malformedError ready _ _ => cases ready

theorem Refuses.not_escapes {frame : Frame} {error : ProtocolError} {raised : PyError}
    (refuses : Refuses runtime .new frame error) : ¬ Escapes runtime .new frame raised := by
  intro escapes
  cases escapes with
  | hello _ hello escaping unhandled =>
      cases refuses with
      | beforeHandshake _ differs => exact differs hello
      | malformedHello _ _ malformed =>
          rw [malformed] at escaping
          cases escaping
          exact unhandled error rfl
      | secondHello ready _ | helloAck ready _ | malformedError ready _ _ => cases ready
  | report ready _ _ _ => cases ready

/-- What a ready session refuses is refused by a fresh one with another
error, or not refused at all. -/
theorem Refuses.ready_ne_new {frame : Frame} {error other : ProtocolError}
    (refuses : Refuses runtime .ready frame error) (fresh : Refuses runtime .new frame other) :
    error ≠ other := by
  cases refuses with
  | beforeHandshake impossible _ | malformedHello impossible _ _ => cases impossible
  | secondHello _ hello =>
      cases fresh with
      | beforeHandshake _ differs => exact absurd hello differs
      | malformedHello _ _ malformed =>
          rintro rfl
          rcases decodeHello_malformed runtime malformed with unread | same
          · cases load_malformed runtime unread
          · exact absurd same (by decide)
      | secondHello ready _ | helloAck ready _ | malformedError ready _ _ => cases ready
  | helloAck _ helloAck =>
      cases fresh with
      | beforeHandshake _ _ =>
          rw [helloAck]
          decide
      | malformedHello _ hello _ =>
          rw [helloAck] at hello
          cases hello
      | secondHello ready _ | helloAck ready _ | malformedError ready _ _ => cases ready
  | malformedError _ report malformed =>
      cases fresh with
      | beforeHandshake _ _ =>
          rw [report]
          rintro rfl
          rcases decodeError_malformed runtime malformed with unread | same
          · cases load_malformed runtime unread
          · exact absurd same (by decide)
      | malformedHello _ hello _ =>
          rw [report] at hello
          cases hello
      | secondHello ready _ | helloAck ready _ | malformedError ready _ _ => cases ready

/-! What the turns that end a session mean for `Repeatable`. -/

theorem Escapes.not_repeatable {peer : Peer} {frame : Frame} {raised : PyError}
    (escapes : Escapes runtime peer.session.state frame raised)
    (missed : peer.dedup.get frame.seq = none) : ¬ Repeatable runtime peer frame := by
  intro repeatable
  cases escapes with
  | hello fresh hello escaping unhandled =>
      rcases repeatable.opening missed fresh with ⟨_, names, wellFormed⟩ | ⟨_, error, refuses⟩
      · rw [wellFormed] at escaping
        cases escaping
      · exact refuses.not_escapes (.hello rfl hello escaping unhandled)
  | report ready report _ _ =>
      have kind := repeatable.kind missed ready
      simp [report] at kind

theorem Refuses.not_repeatable {peer : Peer} {frame : Frame} {error : ProtocolError}
    (refuses : Refuses runtime .ready frame error) (missed : peer.dedup.get frame.seq = none)
    (ready : peer.session.state = .ready) : ¬ Repeatable runtime peer frame := by
  intro repeatable
  have kind := repeatable.kind missed ready
  cases refuses with
  | beforeHandshake impossible _ | malformedHello impossible _ _ => cases impossible
  | secondHello _ known | helloAck _ known | malformedError _ known _ => simp [known] at kind

theorem Refuses.repeatable_iff {peer : Peer} {frame : Frame} {error : ProtocolError}
    (refuses : Refuses runtime .new frame error) (missed : peer.dedup.get frame.seq = none)
    (accepted : peer.session.lastPeerSeq < frame.seq) (fresh : peer.session.state = .new) :
    Repeatable runtime peer frame <-> peer.session.outSeq = 0 := by
  constructor
  · intro repeatable
    rcases repeatable.opening missed fresh with ⟨hello, names, wellFormed⟩ | ⟨unnumbered, _⟩
    · exact absurd wellFormed (refuses.not_wellFormed hello)
    · exact unnumbered
  · intro unnumbered
    exact .refusedAfresh accepted fresh unnumbered refuses

/-- A refusal looks at the type and the payload only. -/
theorem Refuses.of_same {state : State} {frame other : Frame} {error : ProtocolError}
    (refuses : Refuses runtime state frame error) (kind : other.msgType = frame.msgType)
    (payload : other.payload = frame.payload) : Refuses runtime state other error := by
  cases refuses with
  | beforeHandshake fresh differs =>
      rw [← kind] at differs ⊢
      exact .beforeHandshake fresh differs
  | malformedHello fresh hello malformed =>
      rw [← payload] at malformed
      exact .malformedHello fresh (kind.trans hello) malformed
  | secondHello ready hello => exact .secondHello ready (kind.trans hello)
  | helloAck ready helloAck => exact .helloAck ready (kind.trans helloAck)
  | malformedError ready report malformed =>
      rw [← payload] at malformed
      exact .malformedError ready (kind.trans report) malformed

/-! ## Comparing what was sent -/

/-- The datagram that carries these frames was sent, or nothing if there are
none. -/
def Carries {Addr : Type} (digests : Digests) (secret : Bytes) (addr : Addr)
    (sent : List (Bytes × Addr)) (frames : List Frame) : Prop :=
  ∃ reply, join digests secret frames = .ok reply ∧ sent = if reply ≠ [] then [(reply, addr)] else []

theorem Carries.frames_eq_iff {Addr : Type} {digests : Digests} {secret : Bytes} {addr : Addr}
    {sent other : List (Bytes × Addr)} {frames others : List Frame}
    (carries : Carries digests secret addr sent frames) (otherCarries : Carries digests secret addr other others) :
    other = sent <-> others = frames := by
  rcases carries with ⟨reply, joined, rfl⟩
  rcases otherCarries with ⟨otherReply, otherJoined, rfl⟩
  constructor
  · intro same
    have replies : otherReply = reply := by
      by_cases empty : reply = []
      · by_cases otherEmpty : otherReply = []
        · rw [empty, otherEmpty]
        · simp [empty, otherEmpty] at same
      · by_cases otherEmpty : otherReply = []
        · simp [empty, otherEmpty] at same
        · simpa [empty, otherEmpty] using same
    have split := splitDatagram_join digests joined
    rw [← replies, splitDatagram_join digests otherJoined] at split
    exact Except.ok.inj split
  · rintro rfl
    rw [joined] at otherJoined
    cases otherJoined
    rfl

end

/-! ## The acknowledgement of a retransmission -/

theorem land_retransmit {flags : Int} (known : unknownFlags flags = 0) :
    Int.land (Int.lor flags flagRetransmit) flagRequireAck = Int.land flags flagRequireAck := by
  rcases (unknownFlags_eq_zero_iff flags).mp known with ⟨low, high⟩
  have cases : flags = 0 ∨ flags = 1 ∨ flags = 2 ∨ flags = 3 := by omega
  rcases cases with rfl | rfl | rfl | rfl <;> decide

theorem acks_retransmission (session : ServerSession) {frame : Frame} (decoded : Encodable frame) :
    UdpServer.acks session (retransmission frame) = UdpServer.acks session frame := by
  rw [UdpServer.acks, UdpServer.acks, retransmission]
  dsimp only
  rw [land_retransmit decoded.flags]

/-- The frames that acknowledge, and the number that follows them, tell two
sessions apart only by their counters. -/
theorem acks_eq_iff (session other : ServerSession) (frame : Frame)
    (unnumbered : other.outSeq = 0) :
    ((UdpServer.acks other frame).1 = (UdpServer.acks session frame).1 ∧
      (UdpServer.acks other frame).2.outSeq = (UdpServer.acks session frame).2.outSeq) <->
      session.outSeq = 0 := by
  rw [UdpServer.acks, UdpServer.acks]
  by_cases asked : Int.land frame.flags flagRequireAck ≠ 0
  · simp only [if_pos asked, ServerSession.ack, ServerSession.frame, ServerSession.nextSeq,
      unnumbered]
    constructor
    · intro same
      have numbers : ((0 : Nat) : Int) = (session.outSeq : Int) := by
        simpa using same.1
      omega
    · intro zero
      simp [zero]
  · simp only [if_neg asked, unnumbered]
    constructor
    · intro same
      exact same.2.symm
    · intro zero
      exact ⟨trivial, zero.symm⟩

theorem acks_length (session other : ServerSession) (frame : Frame) :
    (UdpServer.acks other frame).1.length = (UdpServer.acks session frame).1.length := by
  rw [UdpServer.acks, UdpServer.acks]
  by_cases asked : Int.land frame.flags flagRequireAck ≠ 0
  · rw [if_pos asked, if_pos asked]
    rfl
  · rw [if_neg asked, if_neg asked]

/-! ## The second delivery -/

namespace UdpServer

variable {Addr : Type} [DecidableEq Addr] {runtime : Runtime}

/-- The error reply of a session, as a frame. -/
def refusal (session : ServerSession) (error : ProtocolError) : Frame :=
  ⟨.error, session.outSeq, encodeError error.code error.message, 0⟩

/-- What the first delivery of a frame to an unknown address leaves: an entry
if a session that has just been built does not refuse the frame, and otherwise
nothing and that session's refusal. -/
theorem onDatagram_unknown {server : UdpServer Addr} {addr : Addr} (sound : server.Sound)
    (unknown : server.peers addr = none) {data : Bytes} {frame : Frame}
    (decoded : decode runtime.toDigests data (some server.secret) = .ok frame) (draw : Draw) :
    let delivery := server.onDatagram runtime data addr draw
    let session := acks { sessionId := draw.sessionId } frame
    ((∃ stored, delivery.server.peers addr = some stored) ∧
        forall error, ¬ Refuses runtime .new frame error) ∨
      ∃ error, Refuses runtime .new frame error ∧ delivery.server.peers = server.peers ∧
        Carries runtime.toDigests server.secret addr delivery.sent
          (session.1 ++ [refusal session.2 error]) := by
  intro delivery session
  have built : (server.peer addr draw).session = { sessionId := draw.sessionId } := by
    rw [peer_of_unknown unknown]
  have state : (acks { sessionId := draw.sessionId } frame).2.state = .new := state_acks ..
  have last : (acks { sessionId := draw.sessionId } frame).2.lastPeerSeq = -1 :=
    lastPeerSeq_acks ..
  have treatment : Treatment runtime server frame addr draw delivery :=
    (onDatagram_receipt runtime sound data addr draw).treatment runtime decoded
  generalize delivery = delivery at treatment ⊢
  cases treatment with
  | replayed known hit =>
      rw [unknown] at known
      cases known
  | raised missed handling result =>
      refine .inl ⟨⟨_, peers_setPeer_self ..⟩, ?_⟩
      intro error refuses
      rw [built] at handling
      cases handling with
      | escaped _ escapes _ _ =>
          rw [state] at escapes
          exact refuses.not_escapes escapes
      | stale _ | refused _ _ _ _ | welcomed _ _ _ _ | echoed _ _ _ | ignored _ _ _
      | farewell _ _ _ | reported _ _ _ _ => cases result
  | answered missed handling result joined =>
      rename_i turn reaction reply
      rw [built] at handling joined
      cases handling with
      | stale late =>
          rw [last] at late
          have positive := (encodable_of_decode runtime.toDigests decoded).seq.1
          omega
      | refused accepted refuses handler ran =>
          cases result
          rw [state] at refuses
          refine .inr ⟨_, refuses, ?_, reply, joined, rfl⟩
          rw [peers_settle]
          exact Function.update_eq_self_iff.mpr unknown.symm
      | escaped accepted escapes handler ran => cases result
      | welcomed accepted fresh hello wellFormed =>
          cases result
          refine .inl ⟨?_, fun error refuses => refuses.not_wellFormed hello wellFormed⟩
          rw [peers_settle, Function.update_self]
          exact ⟨_, rfl⟩
      | echoed accepted ready echo =>
          rw [state] at ready
          cases ready
      | ignored accepted ready silent =>
          rw [state] at ready
          cases ready
      | farewell accepted ready bye =>
          rw [state] at ready
          cases ready
      | reported accepted ready report found =>
          rw [state] at ready
          cases ready

/-- A delivery and a second one after it send the same and leave the same
table of peers. -/
def Idempotent (runtime : Runtime) (server : UdpServer Addr) (addr : Addr) (raw again : Bytes)
    (draw later : Draw) : Prop :=
  let first := server.onDatagram runtime raw addr draw
  let second := first.server.onDatagram runtime again addr later
  second.sent = first.sent ∧ second.server.peers = first.server.peers

section

variable {server : UdpServer Addr} {addr : Addr} {raw again : Bytes} {frame : Frame}
  (decoded : decode runtime.toDigests raw (some server.secret) = .ok frame)
  (repeated : decode runtime.toDigests again (some server.secret) = .ok (retransmission frame))
  (draw later : Draw)

include repeated

/-- First outcome: the reply is in the window. -/
theorem idempotent_of_kept {first : Delivery Addr}
    (same : server.onDatagram runtime raw addr draw = first)
    (secret : first.server.secret = server.secret) {peer : Peer}
    (known : first.server.peers addr = some peer) {cached : Bytes}
    (hit : peer.dedup.get frame.seq = some cached)
    (sent : first.sent = if cached ≠ [] then [(cached, addr)] else []) :
    Idempotent runtime server addr raw again draw later := by
  rw [← secret] at repeated
  have replayed := onDatagram_cached repeated known hit later
  rw [Idempotent, same, replayed]
  exact ⟨sent.symm, rfl⟩

/-- Second outcome: an exception has left the number accepted but not
answered, and the retransmission is refused as stale. -/
theorem not_idempotent_of_raised (sound : server.Sound) {turn : Turn} {raised : PyError}
    (missed : (server.peer addr draw).dedup.get frame.seq = none)
    (accepted : turn.session.lastPeerSeq = frame.seq)
    (same : server.onDatagram runtime raw addr draw =
      ⟨server.setPeer addr ⟨turn.session, (server.peer addr draw).dedup⟩, [], some frame, turn.calls,
        some raised⟩) :
    ¬ Idempotent runtime server addr raw again draw later := by
  intro idempotent
  have receipt := onDatagram_receipt runtime sound raw addr draw
  have left := receipt.sound sound
  rw [same] at left
  rw [Idempotent, same] at idempotent
  have second := (onDatagram_receipt runtime left again addr later).treatment runtime
    (by rw [secret_setPeer]; exact repeated)
  have built : (server.setPeer addr ⟨turn.session, (server.peer addr draw).dedup⟩).peer addr later =
      ⟨turn.session, (server.peer addr draw).dedup⟩ :=
    peer_of_known (peers_setPeer_self ..) later
  generalize (server.setPeer addr ⟨turn.session, (server.peer addr draw).dedup⟩).onDatagram runtime
    again addr later = delivery at idempotent second
  cases second with
  | replayed known hit =>
      rw [peers_setPeer_self] at known
      cases known
      rw [show (retransmission frame).seq = frame.seq from rfl, missed] at hit
      cases hit
  | raised _ handling result =>
      rw [built] at handling
      cases handling with
      | escaped fresher _ _ _ =>
          rw [lastPeerSeq_acks, accepted] at fresher
          exact absurd fresher (Int.lt_irrefl frame.seq)
      | stale _ | refused _ _ _ _ | welcomed _ _ _ _ | echoed _ _ _ | ignored _ _ _
      | farewell _ _ _ | reported _ _ _ _ => cases result
  | answered _ handling result joined =>
      rename_i reaction reply
      have empty : reply = [] := by
        have nothing := idempotent.1
        by_cases spoken : reply = []
        · exact spoken
        · rw [if_pos spoken] at nothing
          cases nothing
      rw [empty] at joined
      have silent := (splitDatagram_join runtime.toDigests joined).symm.trans
        (splitDatagram_join runtime.toDigests (rfl : join runtime.toDigests _ [] = .ok []))
      rw [built] at handling
      cases handling with
      | stale late =>
          cases result
          simp at silent
      | refused fresher _ _ _ | escaped fresher _ _ _ | welcomed fresher _ _ _ | echoed fresher _ _
      | ignored fresher _ _ | farewell fresher _ _ | reported fresher _ _ _ =>
          rw [lastPeerSeq_acks, accepted] at fresher
          exact absurd fresher (Int.lt_irrefl frame.seq)

section

variable (sound : server.Sound) {first : Delivery Addr}
  (same : server.onDatagram runtime raw addr draw = first)
  (secret : first.server.secret = server.secret) (gone : first.server.peers addr = none)

include decoded sound same secret gone

/-- Third outcome: the entry is gone.  The retransmission agrees exactly when
a session that has just been built refuses the frame in the same words. -/
theorem idempotent_iff_of_closed {frames : List Frame}
    (carries : Carries runtime.toDigests server.secret addr first.sent frames) :
    Idempotent runtime server addr raw again draw later <->
      ∃ error, Refuses runtime .new frame error ∧
        (acks { sessionId := later.sessionId } frame).1 ++
          [refusal (acks { sessionId := later.sessionId } frame).2 error] = frames := by
  have left : first.server.Sound := by
    have receipt := onDatagram_receipt runtime sound raw addr draw
    rw [same] at receipt
    exact receipt.sound sound
  rw [← secret] at repeated
  have second := onDatagram_unknown left gone repeated later
  have checks := encodable_of_decode runtime.toDigests decoded
  rw [acks_retransmission _ checks, secret] at second
  rw [Idempotent, same]
  dsimp only at second ⊢
  constructor
  · intro both
    rcases second with ⟨⟨stored, known⟩, _⟩ | ⟨error, refuses, _, spoken⟩
    · rw [both.2, gone] at known
      cases known
    · exact ⟨error, refuses.of_same rfl rfl, (carries.frames_eq_iff spoken).mp both.1⟩
  · intro refused
    rcases refused with ⟨error, refuses, words⟩
    rcases second with ⟨_, accepts⟩ | ⟨other, others, peers, spoken⟩
    · exact (accepts error (refuses.of_same rfl rfl)).elim
    · have sameError : error = other := refuses.unique (others.of_same rfl rfl)
      rw [← sameError] at spoken
      exact ⟨(carries.frames_eq_iff spoken).mpr words, peers⟩

/-- The refusal of a new session.  A session that has just been built repeats
it exactly if the first one had not numbered a frame yet. -/
theorem idempotent_iff_of_refusal {session : ServerSession} {error : ProtocolError}
    (refuses : Refuses runtime .new frame error)
    (carries : Carries runtime.toDigests server.secret addr first.sent
      ((acks session frame).1 ++ [refusal (acks session frame).2 error])) :
    Idempotent runtime server addr raw again draw later <-> session.outSeq = 0 := by
  rw [idempotent_iff_of_closed decoded repeated draw later sound same secret gone carries]
  have aligned := acks_length session { sessionId := later.sessionId } frame
  have unnumbered := acks_eq_iff session { sessionId := later.sessionId } frame rfl
  constructor
  · rintro ⟨other, others, words⟩
    rcases List.append_inj words aligned with ⟨acked, refused⟩
    have numbers := congrArg (List.map Frame.seq) refused
    simp only [refusal, List.map_cons, List.map_nil, List.cons.injEq, and_true,
      Nat.cast_inj] at numbers
    exact unnumbered.mp ⟨acked, numbers⟩
  · intro zero
    have numbers := unnumbered.mpr zero
    refine ⟨_, refuses, ?_⟩
    rw [numbers.1, refusal, numbers.2, refusal]

/-- The closing answer of a session that a fresh one would not repeat. -/
theorem not_idempotent_of_closed {session : ServerSession} {replies : List Frame}
    (carries : Carries runtime.toDigests server.secret addr first.sent
      ((acks session frame).1 ++ replies))
    (different : forall error, Refuses runtime .new frame error -> forall outSeq : Nat,
      replies ≠ [⟨.error, outSeq, encodeError error.code error.message, 0⟩]) :
    ¬ Idempotent runtime server addr raw again draw later := by
  rw [idempotent_iff_of_closed decoded repeated draw later sound same secret gone carries]
  rintro ⟨error, refuses, words⟩
  have aligned := acks_length session { sessionId := later.sessionId } frame
  exact different error refuses _ (List.append_inj_right words aligned).symm

/-- An error that no session that has just been built reports of the frame. -/
theorem not_idempotent_of_foreign {session : ServerSession} {error : ProtocolError}
    (carries : Carries runtime.toDigests server.secret addr first.sent
      ((acks session frame).1 ++ [refusal (acks session frame).2 error]))
    (foreign : forall other, Refuses runtime .new frame other -> error ≠ other) :
    ¬ Idempotent runtime server addr raw again draw later := by
  apply not_idempotent_of_closed decoded repeated draw later sound same secret gone carries
  intro other refuses outSeq words
  have payloads := congrArg (List.map Frame.payload) words
  simp only [refusal, List.map_cons, List.map_nil, List.cons.injEq, and_true] at payloads
  have parts := encodeError_injective runtime payloads
  exact foreign other refuses (congrArg₂ ProtocolError.mk parts.1 parts.2)

/-- A refusal by the type or by the payload, by the state of the session. -/
theorem idempotent_iff_of_refused (missed : (server.peer addr draw).dedup.get frame.seq = none)
    (accepted : (server.peer addr draw).session.lastPeerSeq < frame.seq) {error : ProtocolError}
    (refuses : Refuses runtime (server.peer addr draw).session.state frame error)
    (carries : Carries runtime.toDigests server.secret addr first.sent
      ((acks (server.peer addr draw).session frame).1 ++
        [refusal (acks (server.peer addr draw).session frame).2 error])) :
    Idempotent runtime server addr raw again draw later <->
      Repeatable runtime (server.peer addr draw) frame := by
  rcases (sound_peer sound addr draw).1.live with fresh | ready
  · rw [fresh] at refuses
    rw [refuses.repeatable_iff missed accepted fresh]
    exact idempotent_iff_of_refusal decoded repeated draw later sound same secret gone refuses carries
  · rw [ready] at refuses
    apply iff_of_false
    · apply not_idempotent_of_foreign decoded repeated draw later sound same secret gone carries
      intro other others
      exact refuses.ready_ne_new others
    · exact refuses.not_repeatable missed ready

end

/-- The entry that a first delivery leaves answers the second. -/
theorem idempotent_of_settled {first : Delivery Addr} {stored : Peer} {closes : Bool}
    {reply : Bytes} (same : server.onDatagram runtime raw addr draw = first)
    (server_eq : first.server = server.settle addr stored closes) (stays : closes = false)
    (hit : stored.dedup.get frame.seq = some reply)
    (sent : first.sent = if reply ≠ [] then [(reply, addr)] else []) :
    Idempotent runtime server addr raw again draw later := by
  have known : first.server.peers addr = some stored := by
    rw [server_eq, peers_settle, Function.update_self, stays]
    rfl
  exact idempotent_of_kept repeated draw later same (by rw [server_eq, secret_settle]) known hit sent

include decoded in
/-- The answers of a session, turn by turn: those that keep it open are in
the window, and those that close it meet a session that has just been built. -/
theorem idempotent_iff_of_answered (sound : server.Sound)
    (positive : 0 < (server.peer addr draw).dedup.size)
    (missed : (server.peer addr draw).dedup.get frame.seq = none) {turn : Turn}
    (handling : Handling runtime draw.nonce (acks (server.peer addr draw).session frame).2 frame turn)
    {reaction : Reaction} (result : turn.result = .ok reaction) {reply : Bytes}
    (joined : join runtime.toDigests server.secret
      ((acks (server.peer addr draw).session frame).1 ++ reaction.frames) = .ok reply)
    (same : server.onDatagram runtime raw addr draw =
      ⟨server.settle addr ⟨turn.session, (server.peer addr draw).dedup.put frame.seq reply⟩
          reaction.close,
        if reply ≠ [] then [(reply, addr)] else [], some frame, turn.calls, none⟩) :
    Idempotent runtime server addr raw again draw later <->
      Repeatable runtime (server.peer addr draw) frame := by
  have hit := (server.peer addr draw).dedup.get_put_self positive frame.seq reply
  cases handling with
  | stale late =>
      cases result
      rw [lastPeerSeq_acks] at late
      apply iff_of_false
      · apply not_idempotent_of_foreign decoded repeated draw later sound same
          (secret_settle ..) (peers_settle_closed ..) ⟨reply, joined, rfl⟩
        rintro other others rfl
        exact others.code_new rfl
      · intro repeatable
        exact absurd (repeatable.accepted missed) (Int.not_lt_of_ge late)
  | refused accepted refuses handler ran =>
      cases result
      rw [state_acks] at refuses
      rw [lastPeerSeq_acks] at accepted
      exact idempotent_iff_of_refused decoded repeated draw later sound same
        (secret_settle ..) (peers_settle_closed ..) missed accepted refuses ⟨reply, joined, rfl⟩
  | escaped _ _ _ _ => cases result
  | welcomed accepted fresh hello wellFormed =>
      cases result
      rw [state_acks] at fresh
      rw [lastPeerSeq_acks] at accepted
      exact iff_of_true
        (idempotent_of_settled repeated draw later same rfl rfl hit rfl)
        (.greeted accepted fresh hello wellFormed)
  | echoed accepted ready echo =>
      cases result
      rw [state_acks] at ready
      rw [lastPeerSeq_acks] at accepted
      refine iff_of_true
        (idempotent_of_settled repeated draw later same rfl rfl hit rfl)
        (.continued accepted ready ?_)
      cases kind : frame.msgType <;> simp [kind, echoType] at echo ⊢
  | ignored accepted ready silent =>
      cases result
      rw [state_acks] at ready
      rw [lastPeerSeq_acks] at accepted
      refine iff_of_true
        (idempotent_of_settled repeated draw later same rfl rfl hit rfl)
        (.continued accepted ready ?_)
      rcases silent with kind | kind <;> simp [kind]
  | farewell accepted ready bye =>
      cases result
      rw [state_acks] at ready
      apply iff_of_false
      · apply not_idempotent_of_closed decoded repeated draw later sound same
          (secret_settle ..) (peers_settle_closed ..) ⟨reply, joined, rfl⟩
        intro error refuses outSeq words
        simp at words
      · intro repeatable
        have kind := repeatable.kind missed ready
        simp [bye] at kind
  | reported accepted ready report found =>
      cases result
      rw [state_acks] at ready
      apply iff_of_false
      · apply not_idempotent_of_closed decoded repeated draw later sound same
          (secret_settle ..) (peers_settle_closed ..) ⟨reply, joined, rfl⟩
        intro error refuses outSeq words
        simp at words
      · intro repeatable
        have kind := repeatable.kind missed ready
        simp [report] at kind

include decoded in
theorem idempotent_iff_repeatable (sound : server.Sound)
    (positive : 0 < (server.peer addr draw).dedup.size) :
    Idempotent runtime server addr raw again draw later <->
      Repeatable runtime (server.peer addr draw) frame := by
  have treatment := (onDatagram_receipt runtime sound raw addr draw).treatment runtime decoded
  generalize same : server.onDatagram runtime raw addr draw = first at treatment
  cases treatment with
  | replayed known hit =>
      rw [peer_of_known known]
      exact iff_of_true (idempotent_of_kept repeated draw later same rfl known hit rfl) (.cached hit)
  | raised missed handling result =>
      cases handling with
      | escaped accepted escapes handler ran =>
          rw [state_acks] at escapes
          exact iff_of_false (not_idempotent_of_raised repeated draw later sound missed rfl same)
            (escapes.not_repeatable missed)
      | stale _ | refused _ _ _ _ | welcomed _ _ _ _ | echoed _ _ _ | ignored _ _ _
      | farewell _ _ _ | reported _ _ _ _ => cases result
  | answered missed handling result joined =>
      exact idempotent_iff_of_answered decoded repeated draw later sound positive missed handling
        result joined same

end

/-- A ready session says BYE to a BYE and is gone.  The retransmission of it
meets another session. -/
theorem not_idempotent_bye {server : UdpServer Addr} (sound : server.Sound) {addr : Addr}
    {peer : Peer} (known : server.peers addr = some peer) (ready : peer.session.state = .ready)
    (window : 0 < peer.dedup.size) {frame : Frame} (bye : frame.msgType = .bye)
    (missed : peer.dedup.get frame.seq = none) {raw again : Bytes}
    (decoded : decode runtime.toDigests raw (some server.secret) = .ok frame)
    (repeated : decode runtime.toDigests again (some server.secret) = .ok (retransmission frame))
    (draw later : Draw) : ¬ Idempotent runtime server addr raw again draw later := by
  have here := peer_of_known known draw
  rw [idempotent_iff_repeatable decoded repeated draw later sound (by rw [here]; exact window), here]
  intro repeatable
  cases repeatable with
  | cached hit =>
      rw [missed] at hit
      cases hit
  | continued _ _ kind => simp [bye] at kind
  | greeted _ fresh _ _ | refusedAfresh _ fresh _ _ =>
      rw [ready] at fresh
      cases fresh

/-- The server after a handshake. -/
theorem exists_greeted (runtime : Runtime) (secret : Bytes) (addr : Addr) (draw : Draw)
    {clientId nonce : String} (fits : (encodeHello clientId nonce).length ≤ maxPayload) :
    ∃ hello, ∃ server : UdpServer Addr, ∃ peer,
      decode runtime.toDigests hello (some secret) =
          .ok ⟨.hello, 0, encodeHello clientId nonce, flagRequireAck⟩ ∧
        Execution.run (step runtime) (start secret 1) [⟨hello, addr, draw⟩] = some server ∧
        server.peers addr = some peer ∧ peer.session.state = .ready ∧
        peer.session.lastPeerSeq = 0 ∧ peer.dedup.size = 1 ∧ peer.dedup.get 1 = none := by
  have checks : Encodable ⟨.hello, 0, encodeHello clientId nonce, flagRequireAck⟩ :=
    encodable_requireAck fits (by decide)
  rcases exists_decode runtime.toDigests checks secret with ⟨hello, greeting⟩
  have unknown : (start secret 1 : UdpServer Addr).peers addr = none := rfl
  have asks : Int.land flagRequireAck flagRequireAck ≠ 0 := by decide
  rcases onDatagram_hello runtime (sound_start secret 1) unknown greeting asks rfl
    (decodeHello_encodeHello runtime clientId nonce) draw with
    ⟨peer, stored, known, ready, last, dedup, _⟩
  refine ⟨hello, _, peer, greeting, rfl, known, ready, last, ?_, ?_⟩
  · rw [dedup]
    rfl
  · rw [dedup]
    exact DedupWindow.get_put_empty 1 (show (1 : Int) ≠ 0 by decide) stored

/-- After the handshake, the BYE of the server is followed by an ERROR. -/
theorem exists_not_idempotent (runtime : Runtime) (secret : Bytes) (addr : Addr) (draw : Draw)
    {clientId nonce : String} (fits : (encodeHello clientId nonce).length ≤ maxPayload) :
    ∃ hello raw again, ∃ server : UdpServer Addr,
      decode runtime.toDigests hello (some secret) =
          .ok ⟨.hello, 0, encodeHello clientId nonce, flagRequireAck⟩ ∧
        Execution.run (step runtime) (start secret 1) [⟨hello, addr, draw⟩] = some server ∧
        decode runtime.toDigests raw (some secret) = .ok ⟨.bye, 1, [], flagRequireAck⟩ ∧
        decode runtime.toDigests again (some secret) =
          .ok (retransmission ⟨.bye, 1, [], flagRequireAck⟩) ∧
        ¬ Idempotent runtime server addr raw again draw draw := by
  have checks : Encodable ⟨.bye, 1, [], flagRequireAck⟩ := by decide
  have checksAgain : Encodable (retransmission ⟨.bye, 1, [], flagRequireAck⟩) := by decide
  rcases exists_decode runtime.toDigests checks secret with ⟨raw, decoded⟩
  rcases exists_decode runtime.toDigests checksAgain secret with ⟨again, repeated⟩
  rcases exists_greeted runtime secret addr draw fits with
    ⟨hello, server, peer, greeting, reached, known, ready, _, sized, missed⟩
  rcases sound_of_run runtime reached with ⟨sound, rfl, _⟩
  have window : 0 < peer.dedup.size := by
    rw [sized]
    exact Nat.one_pos
  exact ⟨hello, raw, again, server, greeting, reached, decoded, repeated,
    not_idempotent_bye sound known ready window rfl missed decoded repeated _ _⟩

/-- In every reachable state and for every frame that decodes, a delivery and
the delivery of the retransmission right after it agree exactly in the cases
of `Repeatable`. -/
theorem reached_idempotent_iff {secret : Bytes} {dedupSize : Nat} (window : 1 ≤ dedupSize)
    {arrivals : List (Arrival Addr)} {server : UdpServer Addr}
    (reached : Execution.run (step runtime) (start secret dedupSize) arrivals = some server)
    (addr : Addr) {frame : Frame} {raw again : Bytes}
    (decoded : decode runtime.toDigests raw (some secret) = .ok frame)
    (repeated : decode runtime.toDigests again (some secret) = .ok (retransmission frame))
    (draw later : Draw) :
    Idempotent runtime server addr raw again draw later <->
      Repeatable runtime (server.peer addr draw) frame := by
  rcases sound_of_run runtime reached with ⟨sound, rfl, sized⟩
  apply idempotent_iff_repeatable decoded repeated draw later sound
  rw [(sound_peer sound addr draw).2, sized]
  exact window

/-- After the handshake a PING and its retransmission are answered alike. -/
theorem reached_idempotent_iff_greeted : ∃ hello raw again, ∃ server : UdpServer Nat,
    Execution.run (step Reference.runtime) (start Reference.secret 1)
        [⟨hello, 0, ⟨Reference.sessionId, Reference.nonce⟩⟩] = some server ∧
      (∃ peer, server.peers 0 = some peer ∧ peer.session.state = .ready) ∧
      decode Reference.runtime.toDigests raw (some Reference.secret) =
        .ok ⟨.ping, 1, [7], flagRequireAck⟩ ∧
      decode Reference.runtime.toDigests again (some Reference.secret) =
        .ok (retransmission ⟨.ping, 1, [7], flagRequireAck⟩) ∧
      Idempotent Reference.runtime server 0 raw again
        ⟨Reference.sessionId, Reference.nonce⟩ ⟨Reference.sessionId, Reference.nonce⟩ := by
  have checks : Encodable ⟨.ping, 1, [7], flagRequireAck⟩ := by decide
  have checksAgain : Encodable (retransmission ⟨.ping, 1, [7], flagRequireAck⟩) := by decide
  rcases exists_decode Reference.runtime.toDigests checks Reference.secret with ⟨raw, decoded⟩
  rcases exists_decode Reference.runtime.toDigests checksAgain Reference.secret with
    ⟨again, repeated⟩
  rcases exists_greeted Reference.runtime Reference.secret (0 : Nat)
    ⟨Reference.sessionId, Reference.nonce⟩ Reference.hello_fits with
    ⟨hello, server, peer, _, reached, known, ready, last, _⟩
  refine ⟨hello, raw, again, server, reached, ⟨peer, known, ready⟩, decoded, repeated,
    (reached_idempotent_iff (Nat.le_refl 1) reached 0 decoded repeated _ _).mpr ?_⟩
  rw [peer_of_known known]
  refine .continued ?_ ready (.inl rfl)
  rw [last]
  exact Int.zero_lt_one

/-- The two deliveries of a BYE are answered differently. -/
theorem bye_not_idempotent : ∃ hello raw again, ∃ server : UdpServer Nat,
    decode Reference.runtime.toDigests hello (some Reference.secret) =
        .ok ⟨.hello, 0, Reference.hello, flagRequireAck⟩ ∧
      Execution.run (step Reference.runtime) (start Reference.secret 1)
        [⟨hello, 0, ⟨Reference.sessionId, Reference.nonce⟩⟩] = some server ∧
      decode Reference.runtime.toDigests raw (some Reference.secret) =
        .ok ⟨.bye, 1, [], flagRequireAck⟩ ∧
      decode Reference.runtime.toDigests again (some Reference.secret) =
        .ok (retransmission ⟨.bye, 1, [], flagRequireAck⟩) ∧
      ¬ Idempotent Reference.runtime server 0 raw again
        ⟨Reference.sessionId, Reference.nonce⟩ ⟨Reference.sessionId, Reference.nonce⟩ :=
  exists_not_idempotent Reference.runtime Reference.secret 0 ⟨Reference.sessionId, Reference.nonce⟩
    Reference.hello_fits

end UdpServer
end Wireline
