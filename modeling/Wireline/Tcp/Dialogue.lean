import Wireline.Tcp.Calls
import Wireline.Tcp.Replay

namespace Wireline

open ExactReader

/-!
# A client and a server on one connection

What a client writes is determined by the octets it receives, and what the
server writes by the octets that it receives.  A connection between them is a
pair of streams that agrees with both.  A client that waits for each reply
leaves them no choice: its first octets depend on nothing, the server's first
octets depend on these, and so on until it has nothing more to say.
-/

/-- The exceptions of a call.  An incomplete read keeps the sizes that its text
names. -/
inductive Interruption
  | raised (error : PyError)
  | incompleteRead (got expected : Nat)
  | connectionReset

/-- What a client has said, what its calls have returned, the exception that
ended it, and, if none did, the octets that it has not read. -/
structure Talk where
  client : WirelineClient
  written : List Frame := []
  results : List CallResult := []
  stop : Option Interruption := none
  rest : Bytes

namespace WirelineClient

/-- A client that has not been connected yet. -/
def init (secret : Bytes) (clientId : String) : WirelineClient :=
  { opened secret clientId with connected := false }

section

variable (runtime : Runtime)

/-- Why a read does not return that waits for more than there is. -/
def starved (client : WirelineClient) (stream : Bytes) : Cut -> Interruption
  | .timeout => .raised .timeoutError
  | .connectionReset => .connectionReset
  | .endOfStream =>
      match (readFrame runtime.toDigests client.secret).advance stream with
      | (.readexactly size _, buffer) => .incompleteRead buffer.length size
      | _ => .raised .incompleteReadError

/-- `_recv`, on all the octets that are still to come. -/
def recv (client : WirelineClient) (cut : Cut) (stream : Bytes) :
    WirelineClient × Except Interruption Frame × Bytes :=
  match (readFrame runtime.toDigests client.secret).run stream with
  | (.incomplete, rest) => (client, .error (client.starved runtime stream cut), rest)
  | (.raised error, rest) => (client, .error (.raised (.protocolError error)), rest)
  | (.returned frame, rest) =>
      match client.receive frame with
      | (client, .error raised) => (client, .error (.raised raised), rest)
      | (client, .ok frame) => (client, .ok frame, rest)

/-- `connect`, once the connection is there. -/
def connect (client : WirelineClient) (nonce : Nonce) (cut : Cut) (stream : Bytes) : Talk :=
  match { client with connected := true }.hello runtime nonce with
  | (client, .error raised) => { client := client, stop := some (.raised raised), rest := stream }
  | (client, .ok (hello, _)) =>
      match client.recv runtime cut stream with
      | (client, .error stop, rest) =>
          { client := client, written := [hello], stop := some stop, rest := rest }
      | (client, .ok reply, rest) =>
          match client.greeted runtime reply with
          | .error raised =>
              { client := client, written := [hello], stop := some (.raised raised), rest := rest }
          | .ok client => { client := client, written := [hello], rest := rest }

/-- One call after the other, up to the first that raises. -/
def perform (client : WirelineClient) (cut : Cut) (stream : Bytes) : List Method -> Talk
  | [] => { client := client, rest := stream }
  | method :: methods =>
      match client.request runtime method.msgType method.payload method.flags with
      | (client, .error raised) => { client := client, stop := some (.raised raised), rest := stream }
      | (client, .ok (frame, _)) =>
          match client.recv runtime cut stream with
          | (client, .error stop, rest) =>
              { client := client, written := [frame], stop := some stop, rest := rest }
          | (client, .ok reply, rest) =>
              let later := client.perform cut rest methods
              { later with
                written := frame :: later.written, results := method.result reply :: later.results }

end

end WirelineClient

/-- `__aexit__`: `close` on the way out, with or without an exception. -/
def Talk.leave (runtime : Runtime) (talk : Talk) : Talk :=
  match talk.client.close runtime with
  | (client, .error raised) => { talk with client := client, stop := some (.raised raised) }
  | (client, .ok none) => { talk with client := client }
  | (client, .ok (some (bye, _))) =>
      { talk with client := client, written := talk.written ++ [bye] }

/-- `async with client:` around the calls.  A `connect` that raises is not
followed by a `close`. -/
def WirelineClient.converse (runtime : Runtime) (client : WirelineClient) (nonce : Nonce) (cut : Cut)
    (stream : Bytes) (methods : List Method) : Talk :=
  let greeted := client.connect runtime nonce cut stream
  match greeted.stop with
  | some _ => greeted
  | none =>
      let talk := (greeted.client.perform runtime cut greeted.rest methods).leave runtime
      { talk with written := greeted.written ++ talk.written }

/-! ## What is to be said -/

namespace Method

/-- The calls that a server answers. -/
def Asks (method : Method) : Prop := ∃ kind, echoType method.msgType = some kind

/-- The checks of `encode` that depend on the call. -/
def Fits (method : Method) : Prop :=
  method.payload.length ≤ maxPayload ∧ unknownFlags method.flags = 0

instance (method : Method) : Decidable method.Fits := inferInstanceAs (Decidable (_ ∧ _))

def frame (method : Method) (seq : Nat) : Frame := ⟨method.msgType, seq, method.payload, method.flags⟩

/-- The answer of a server that has answered `seq` frames before. -/
def reply (method : Method) (seq : Nat) : Frame :=
  ⟨(echoType method.msgType).getD method.msgType, seq, method.payload, 0⟩

/-- What `encode` raises for a call that does not fit. -/
def refusal (method : Method) : ProtocolError :=
  if method.payload.length > maxPayload then
    ⟨.errLength, s!"payload too large: {method.payload.length}"⟩
  else ⟨.errFlags, s!"unsupported flags: {hexInt method.flags}"⟩

variable (digests : Digests) (secret : Bytes)

theorem exists_encode_frame {method : Method} (fits : method.Fits) {seq : Nat} (range : seq ≤ maxSeq) :
    ∃ raw, encode digests (method.frame seq) secret = .ok raw := by
  have low : (0 : Int) ≤ seq ∧ (seq : Int) ≤ maxSeq := by omega
  exact exists_encode digests ⟨fits.1, low, fits.2⟩ secret

theorem exists_encode_reply {method : Method} (fits : method.Fits) {seq : Nat} (range : seq ≤ maxSeq) :
    ∃ raw, encode digests (method.reply seq) secret = .ok raw := by
  have low : (0 : Int) ≤ seq ∧ (seq : Int) ≤ maxSeq := by omega
  exact exists_encode digests (encodable_plain fits.1 low) secret

theorem encode_unfit {method : Method} (unfit : ¬ method.Fits) {seq : Nat} (range : seq ≤ maxSeq) :
    encode digests (method.frame seq) secret = .error method.refusal := by
  have low : 0 ≤ (method.frame seq).seq ∧ (method.frame seq).seq ≤ maxSeq := by
    change (0 : Int) ≤ seq ∧ (seq : Int) ≤ maxSeq
    omega
  rw [encode, refusal]
  change (if method.payload.length > maxPayload then _ else _) = _
  by_cases long : method.payload.length > maxPayload
  · rw [if_pos long, if_pos long]
    rfl
  · have unknown : unknownFlags (method.frame seq).flags ≠ 0 :=
      fun known => unfit ⟨Nat.le_of_not_gt long, known⟩
    rw [if_neg long, if_neg long, if_neg (not_not.mpr low), if_pos unknown]
    rfl

end Method

/-- The calls before the first that does not fit. -/
def madeCalls (methods : List Method) : List Method := methods.takeWhile Method.Fits

/-- The calls that take a number: those that are made, and one that does not
fit. -/
def attemptedCalls (methods : List Method) : Nat := min ((madeCalls methods).length + 1) methods.length

/-- What the client speaks from its number `seq` on. -/
def requestFrames (seq : Nat) (methods : List Method) : List Frame :=
  ((madeCalls methods).zipIdx seq).map (fun entry => entry.1.frame entry.2) ++
    [⟨.bye, (seq + attemptedCalls methods : Nat), [], 0⟩]

/-- What the server answers from its number `seq` on. -/
def replyFrames (seq : Nat) (methods : List Method) : List Frame :=
  ((madeCalls methods).zipIdx seq).map (fun entry => entry.1.reply entry.2) ++
    [⟨.bye, (seq + (madeCalls methods).length : Nat), [], 0⟩]

/-- What the calls return. -/
def callResults (seq : Nat) (methods : List Method) : List CallResult :=
  ((madeCalls methods).zipIdx seq).map fun entry => entry.1.result (entry.1.reply entry.2)

/-- The exception of the first call that does not fit. -/
def callRefusal (methods : List Method) : Option Interruption :=
  (methods.find? fun method => ¬ method.Fits).map fun method =>
    .raised (.protocolError method.refusal)

section

variable {method : Method} (seq : Nat) (methods : List Method)

theorem madeCalls_fit (fits : method.Fits) : madeCalls (method :: methods) = method :: madeCalls methods :=
  List.takeWhile_cons_of_pos (decide_eq_true fits)

theorem madeCalls_unfit (unfit : ¬ method.Fits) : madeCalls (method :: methods) = [] :=
  List.takeWhile_cons_of_neg (by simpa using unfit)

theorem requestFrames_fit (fits : method.Fits) :
    requestFrames seq (method :: methods) = method.frame seq :: requestFrames (seq + 1) methods := by
  have number : seq + attemptedCalls (method :: methods) = seq + 1 + attemptedCalls methods := by
    rw [attemptedCalls, attemptedCalls, madeCalls_fit methods fits, List.length_cons, List.length_cons]
    omega
  rw [requestFrames, requestFrames, number, madeCalls_fit methods fits]
  rfl

theorem replyFrames_fit (fits : method.Fits) :
    replyFrames seq (method :: methods) = method.reply seq :: replyFrames (seq + 1) methods := by
  have number : seq + (madeCalls (method :: methods)).length = seq + 1 + (madeCalls methods).length := by
    rw [madeCalls_fit methods fits, List.length_cons]
    omega
  rw [replyFrames, replyFrames, number, madeCalls_fit methods fits]
  rfl

theorem callResults_fit (fits : method.Fits) : callResults seq (method :: methods) =
    method.result (method.reply seq) :: callResults (seq + 1) methods := by
  rw [callResults, madeCalls_fit methods fits]
  rfl

theorem callRefusal_fit (fits : method.Fits) : callRefusal (method :: methods) = callRefusal methods := by
  rw [callRefusal, List.find?_cons_of_neg (by simpa using fits)]
  rfl

end

/-! ## What each end does -/

section

variable {runtime : Runtime} {secret : Bytes} {client : WirelineClient}

variable (client) in
theorem WirelineClient.send_encoded (connected : client.connected = true) {msgType : MsgType}
    {payload raw : Bytes} {flags : Int}
    (encoded : encode runtime.toDigests ⟨msgType, client.outSeq, payload, flags⟩ client.secret =
      .ok raw) :
    client.send runtime msgType payload flags =
      ({ client with outSeq := (client.outSeq + 1) &&& maxSeq },
        .ok (⟨msgType, client.outSeq, payload, flags⟩, raw)) := by
  rw [WirelineClient.send, if_neg (Bool.ne_false_iff.mpr connected)]
  dsimp only
  rw [encoded]

variable (client) in
/-- A new number is taken for new. -/
theorem WirelineClient.recv_encoded (cut : Cut) {reply : Frame} {raw : Bytes}
    (encoded : encode runtime.toDigests reply client.secret = .ok raw)
    (fresh : client.lastPeerSeq < reply.seq) (later : Bytes) :
    client.recv runtime cut (raw ++ later) =
      ({ client with lastPeerSeq := reply.seq }, .ok reply, later) := by
  rw [WirelineClient.recv, run_readFrame_encoded runtime.toDigests encoded]
  dsimp only
  rw [WirelineClient.receive, if_neg (Int.not_le_of_gt fresh)]

variable (runtime) in
/-- A ready client leaves with a BYE. -/
theorem Talk.leave_ready {talk : Talk} (ready : talk.client.state = .ready)
    (connected : talk.client.connected = true) (range : talk.client.outSeq ≤ maxSeq) :
    talk.leave runtime = { talk with
      client := { talk.client with
        outSeq := (talk.client.outSeq + 1) &&& maxSeq, connected := false, state := .closed },
      written := talk.written ++ [⟨.bye, talk.client.outSeq, [], 0⟩] } := by
  have low : (0 : Int) ≤ talk.client.outSeq ∧ (talk.client.outSeq : Int) ≤ maxSeq := by omega
  have checks : Encodable ⟨.bye, talk.client.outSeq, [], 0⟩ := encodable_plain (Nat.zero_le _) low
  rcases exists_encode runtime.toDigests checks talk.client.secret with ⟨raw, encoded⟩
  rw [Talk.leave, WirelineClient.close, if_neg (Bool.ne_false_iff.mpr connected), if_pos ready,
    WirelineClient.send_encoded talk.client connected encoded]

/-- What was said and returned before does not matter to the way out. -/
theorem Talk.leave_prepend (talk : Talk) (frame : Frame) (result : CallResult) :
    { talk with written := frame :: talk.written, results := result :: talk.results }.leave runtime =
      { talk.leave runtime with
        written := frame :: (talk.leave runtime).written,
        results := result :: (talk.leave runtime).results } := by
  rw [Talk.leave, Talk.leave]
  dsimp only
  split <;> rfl

end

/-! ## One exchange after the other -/

/-- A client that can make calls, with the number of its next frame. -/
structure Calling (secret : Bytes) (seq : Nat) (client : WirelineClient) : Prop where
  secret : client.secret = secret
  connected : client.connected = true
  ready : client.state = .ready
  sending : client.outSeq = seq

/-- A client and a session that are both ready, with the numbers of their next
frames. -/
structure Attuned (secret : Bytes) (seq count : Nat) (client : WirelineClient)
    (session : ServerSession) : Prop extends Calling secret seq client where
  receiving : client.lastPeerSeq < count
  serving : session.state = .ready
  answering : session.outSeq = count
  accepted : session.lastPeerSeq < seq
  range : session.InRange

section

variable (runtime : Runtime) (secret : Bytes) (client : WirelineClient) (session : ServerSession)
  (nonce : Nonce) (cut later : Cut) (methods : List Method)

/-- The rest of a connection, from the first call on. -/
structure Meets (up down : Bytes) : Prop where
  asked : join runtime.toDigests secret
    ((client.perform runtime cut down methods).leave runtime).written = .ok up
  answered : join runtime.toDigests secret
    (WirelineServer.handle runtime secret nonce session later up).written = .ok down

/-- What has been said in the end. -/
structure Fulfilled (seq count : Nat) (talk : Talk) (conversation : Conversation) : Prop where
  written : talk.written = requestFrames seq methods
  results : talk.results = callResults count methods
  stop : talk.stop = callRefusal methods
  closed : talk.client.state = .closed
  named : talk.client.sessionId = client.sessionId
  inbound : conversation.inbound = talk.written
  accepted : dispatched conversation.calls = conversation.inbound
  answered : conversation.written = replyFrames count methods

end

section

variable {runtime : Runtime} {secret : Bytes} {client : WirelineClient} {seq : Nat}

/-- A call up to its read. -/
theorem request_fit (calling : Calling secret seq client) {method : Method} {raw : Bytes}
    (encoded : encode runtime.toDigests (method.frame seq) secret = .ok raw) :
    client.request runtime method.msgType method.payload method.flags =
      ({ client with outSeq := (seq + 1) &&& maxSeq }, .ok (method.frame seq, raw)) := by
  have own : encode runtime.toDigests ⟨method.msgType, client.outSeq, method.payload, method.flags⟩
      client.secret = .ok raw := by
    rw [calling.sending, calling.secret]
    exact encoded
  rw [WirelineClient.request, if_neg (not_not.mpr calling.ready),
    WirelineClient.send_encoded client calling.connected own, calling.sending]
  rfl

theorem request_unfit (calling : Calling secret seq client) {method : Method}
    (unfit : ¬ method.Fits) (low : seq ≤ maxSeq) :
    client.request runtime method.msgType method.payload method.flags =
      ({ client with outSeq := (seq + 1) &&& maxSeq }, .error (.protocolError method.refusal)) := by
  have own : encode runtime.toDigests ⟨method.msgType, seq, method.payload, method.flags⟩
      client.secret = .error method.refusal :=
    Method.encode_unfit runtime.toDigests client.secret unfit low
  rw [WirelineClient.request, if_neg (not_not.mpr calling.ready), WirelineClient.send,
    if_neg (Bool.ne_false_iff.mpr calling.connected), calling.sending]
  dsimp only
  rw [own]

end

section

variable {runtime : Runtime} {secret : Bytes} {client : WirelineClient} {session : ServerSession}
  (nonce : Nonce) (cut later : Cut) {seq count : Nat}

/-- The end of a connection: a BYE, and the BYE that answers it. -/
theorem handle_bye (serving : session.state = .ready) (range : session.InRange) {number : Nat}
    (fresh : session.lastPeerSeq < number) {raw : Bytes}
    (encoded : encode runtime.toDigests ⟨.bye, number, [], 0⟩ secret = .ok raw) :
    WirelineServer.handle runtime secret nonce session later raw =
      ⟨[⟨.bye, number, [], 0⟩], [.dispatch ⟨.bye, number, [], 0⟩], [⟨.bye, session.outSeq, [], 0⟩]⟩ := by
  have read := run_readFrame_encoded runtime.toDigests encoded []
  rw [List.append_nil] at read
  have turn := onFrame_farewell runtime nonce serving
    (show session.lastPeerSeq < (⟨.bye, number, [], 0⟩ : Frame).seq from fresh) rfl
  rw [WirelineServer.handle_returned runtime secret nonce (.inr serving) range later read, turn]
  rfl

/-- A call that the server answers. -/
theorem handle_asked (attuned : Attuned secret seq count client session) {method : Method}
    (asks : method.Asks) {raw : Bytes}
    (encoded : encode runtime.toDigests (method.frame seq) secret = .ok raw) (rest : Bytes) :
    let tail := WirelineServer.handle runtime secret nonce
      { session with lastPeerSeq := seq, outSeq := (count + 1) &&& maxSeq } later rest
    WirelineServer.handle runtime secret nonce session later (raw ++ rest) =
      ⟨method.frame seq :: tail.inbound, echoCalls (method.frame seq) ++ tail.calls,
        method.reply count :: tail.written⟩ := by
  rcases asks with ⟨kind, echo⟩
  have read := run_readFrame_encoded runtime.toDigests encoded rest
  have turn := onFrame_echoed runtime nonce attuned.serving
    (show session.lastPeerSeq < (method.frame seq).seq from attuned.accepted) echo
  have reply : method.reply count = ⟨kind, count, method.payload, 0⟩ := by
    rw [Method.reply, echo]
    rfl
  rw [attuned.answering] at turn
  rw [WirelineServer.handle_returned runtime secret nonce (.inr attuned.serving) attuned.range later
    read, turn, reply]
  dsimp only
  rw [if_neg Bool.false_ne_true]
  rfl

/-- Whatever comes back, the first call that fits has been said. -/
theorem perform_opens (attuned : Attuned secret seq count client session) {method : Method} {raw : Bytes}
    (encoded : encode runtime.toDigests (method.frame seq) secret = .ok raw) (methods : List Method)
    (stream : Bytes) :
    ∃ later, ((client.perform runtime cut stream (method :: methods)).leave runtime).written =
      method.frame seq :: later := by
  have opens : ∃ talk later, client.perform runtime cut stream (method :: methods) = talk ∧
      talk.written = method.frame seq :: later := by
    rw [WirelineClient.perform, request_fit attuned.toCalling encoded]
    dsimp only
    split <;> exact ⟨_, _, rfl, rfl⟩
  rcases opens with ⟨talk, later, same, written⟩
  rw [same, Talk.leave]
  split
  · exact ⟨later, written⟩
  · exact ⟨later, written⟩
  · exact ⟨later ++ [_], by rw [written]; rfl⟩

/-- What comes back has a new number. -/
theorem perform_heard (calling : Calling secret seq client) {method : Method} {raw back : Bytes}
    (encoded : encode runtime.toDigests (method.frame seq) secret = .ok raw) {reply : Frame}
    (answered : encode runtime.toDigests reply secret = .ok back)
    (fresh : client.lastPeerSeq < reply.seq) (methods : List Method) (rest : Bytes) :
    let next : WirelineClient :=
      { client with outSeq := (seq + 1) &&& maxSeq, lastPeerSeq := reply.seq }
    let tail := next.perform runtime cut rest methods
    client.perform runtime cut (back ++ rest) (method :: methods) =
      { tail with
        written := method.frame seq :: tail.written, results := method.result reply :: tail.results } := by
  have own : encode runtime.toDigests reply client.secret = .ok back := by
    rw [calling.secret]
    exact answered
  have received := WirelineClient.recv_encoded { client with outSeq := (seq + 1) &&& maxSeq } cut own
    fresh rest
  rw [WirelineClient.perform, request_fit calling encoded]
  dsimp only
  rw [received]

/-- What comes back is the answer. -/
theorem perform_answered (attuned : Attuned secret seq count client session) {method : Method}
    {raw back : Bytes} (encoded : encode runtime.toDigests (method.frame seq) secret = .ok raw)
    (answered : encode runtime.toDigests (method.reply count) secret = .ok back)
    (methods : List Method) (rest : Bytes) :
    let next : WirelineClient := { client with outSeq := (seq + 1) &&& maxSeq, lastPeerSeq := count }
    let tail := (next.perform runtime cut rest methods).leave runtime
    (client.perform runtime cut (back ++ rest) (method :: methods)).leave runtime =
      { tail with
        written := method.frame seq :: tail.written,
        results := method.result (method.reply count) :: tail.results } := by
  have heard := perform_heard cut attuned.toCalling encoded answered attuned.receiving methods rest
  dsimp only
  rw [heard]
  exact Talk.leave_prepend _ _ _

/-- Both ends count on. -/
theorem Attuned.next (attuned : Attuned secret seq count client session) (low : seq < maxSeq)
    (few : count < maxSeq) :
    Attuned secret (seq + 1) (count + 1)
      { client with outSeq := (seq + 1) &&& maxSeq, lastPeerSeq := count }
      { session with lastPeerSeq := seq, outSeq := (count + 1) &&& maxSeq } where
  secret := attuned.secret
  connected := attuned.connected
  ready := attuned.ready
  sending := masked_succ low
  receiving := by
    change (count : Int) < (count + 1 : Nat)
    omega
  serving := attuned.serving
  answering := masked_succ few
  accepted := by
    change (seq : Int) < (seq + 1 : Nat)
    omega
  range := by
    refine ⟨masked_le _, ?_⟩
    change (-1 : Int) ≤ seq ∧ (seq : Int) ≤ maxSeq
    omega

/-- A ready client without another call speaks BYE and is answered. -/
theorem meets_bye (serving : session.state = .ready) (range : session.InRange) {number : Nat}
    (fresh : session.lastPeerSeq < number) (low : number ≤ maxSeq) (methods : List Method)
    (speaks : forall stream, ((client.perform runtime cut stream methods).leave runtime).written =
      [⟨.bye, number, [], 0⟩]) :
    ∃ up down,
      (forall other answer, Meets runtime secret client session nonce cut later methods other answer <->
        other = up ∧ answer = down) ∧
      WirelineServer.handle runtime secret nonce session later up =
        ⟨[⟨.bye, number, [], 0⟩], [.dispatch ⟨.bye, number, [], 0⟩],
          [⟨.bye, session.outSeq, [], 0⟩]⟩ := by
  have asked : Encodable ⟨.bye, number, [], 0⟩ :=
    encodable_plain (Nat.zero_le _) (by omega)
  have answered : Encodable ⟨.bye, session.outSeq, [], 0⟩ :=
    encodable_answer range.outSeq (Nat.zero_le _)
  rcases exists_encode runtime.toDigests asked secret with ⟨up, encoded⟩
  rcases exists_encode runtime.toDigests answered secret with ⟨down, returned⟩
  have handled := handle_bye nonce later serving range fresh encoded
  refine ⟨up, down, ?_, handled⟩
  intro other answer
  constructor
  · rintro ⟨one, two⟩
    rw [speaks, join_single runtime.toDigests encoded] at one
    cases one
    rw [handled, join_single runtime.toDigests returned] at two
    cases two
    exact ⟨rfl, rfl⟩
  · rintro ⟨rfl, rfl⟩
    refine ⟨?_, ?_⟩
    · rw [speaks, join_single runtime.toDigests encoded]
    · rw [handled, join_single runtime.toDigests returned]

/-- Without a call, the BYE has the next number. -/
theorem attuned_meets_none (attuned : Attuned secret seq count client session)
    (low : seq ≤ maxSeq) :
    ∃ up down,
      (forall other answer, Meets runtime secret client session nonce cut later [] other answer <->
        other = up ∧ answer = down) ∧
      Fulfilled client [] seq count ((client.perform runtime cut down []).leave runtime)
        (WirelineServer.handle runtime secret nonce session later up) := by
  have own : client.outSeq ≤ maxSeq := by
    rw [attuned.sending]
    exact low
  have last (stream : Bytes) : (client.perform runtime cut stream []).leave runtime =
      { client := { client with
          outSeq := (seq + 1) &&& maxSeq, connected := false, state := .closed },
        written := [⟨.bye, seq, [], 0⟩], rest := stream } := by
    rw [WirelineClient.perform, Talk.leave_ready runtime attuned.ready attuned.connected own,
      attuned.sending]
    rfl
  have speaks (stream : Bytes) :
      ((client.perform runtime cut stream []).leave runtime).written = [⟨.bye, seq, [], 0⟩] := by
    rw [last]
  rcases meets_bye nonce cut later attuned.serving attuned.range attuned.accepted low [] speaks with
    ⟨up, down, only, handled⟩
  refine ⟨up, down, only, ?_⟩
  rw [last, handled, attuned.answering]
  exact ⟨rfl, rfl, rfl, rfl, rfl, rfl, rfl, rfl⟩

/-- A call that does not fit has taken a number, and the BYE the one after
it.  The calls behind it are not made. -/
theorem attuned_meets_unfit (attuned : Attuned secret seq count client session) {method : Method}
    (unfit : ¬ method.Fits) (low : seq + 1 ≤ maxSeq) (methods : List Method) :
    ∃ up down,
      (forall other answer,
        Meets runtime secret client session nonce cut later (method :: methods) other answer <->
          other = up ∧ answer = down) ∧
      Fulfilled client (method :: methods) seq count
        ((client.perform runtime cut down (method :: methods)).leave runtime)
        (WirelineServer.handle runtime secret nonce session later up) := by
  have stopped (stream : Bytes) :
      client.perform runtime cut stream (method :: methods) =
        { client := { client with outSeq := (seq + 1) &&& maxSeq },
          stop := some (.raised (.protocolError method.refusal)), rest := stream } := by
    rw [WirelineClient.perform, request_unfit attuned.toCalling unfit (by omega)]
  have number : (seq + 1) &&& maxSeq = seq + 1 := masked_succ (by omega)
  have last (stream : Bytes) :
      (client.perform runtime cut stream (method :: methods)).leave runtime =
        { client := { client with
            outSeq := (seq + 1 + 1) &&& maxSeq, connected := false, state := .closed },
          written := [⟨.bye, (seq + 1 : Nat), [], 0⟩],
          stop := some (.raised (.protocolError method.refusal)), rest := stream } := by
    rw [stopped stream, number]
    exact Talk.leave_ready runtime attuned.ready attuned.connected low
  have speaks (stream : Bytes) :
      ((client.perform runtime cut stream (method :: methods)).leave runtime).written =
        [⟨.bye, (seq + 1 : Nat), [], 0⟩] := by
    rw [last]
  have accepted := attuned.accepted
  rcases meets_bye nonce cut later attuned.serving attuned.range
    (show session.lastPeerSeq < (seq + 1 : Nat) by omega) low (method :: methods) speaks
    with ⟨up, down, only, handled⟩
  refine ⟨up, down, only, ?_⟩
  rw [last, handled, attuned.answering]
  have none : madeCalls (method :: methods) = [] := madeCalls_unfit methods unfit
  refine ⟨?_, ?_, ?_, rfl, rfl, rfl, rfl, ?_⟩
  · rw [requestFrames, attemptedCalls, none]
    rfl
  · rw [callResults, none]
    rfl
  · rw [callRefusal, List.find?_cons_of_pos (by simpa using unfit)]
    rfl
  · rw [replyFrames, none]
    rfl

/-! A call that fits: the two streams begin with the request and with the
reply, and both ends go on with what is left of them. -/

section

variable (attuned : Attuned secret seq count client session) {method : Method} (asks : method.Asks)
  {raw back : Bytes} (encoded : encode runtime.toDigests (method.frame seq) secret = .ok raw)
  (returned : encode runtime.toDigests (method.reply count) secret = .ok back) (methods : List Method)

include attuned asks encoded returned

theorem meets_cons_iff (other answer : Bytes) :
    Meets runtime secret client session nonce cut later (method :: methods) other answer <->
      ∃ rest answers, other = raw ++ rest ∧ answer = back ++ answers ∧
        Meets runtime secret
          { client with outSeq := (seq + 1) &&& maxSeq, lastPeerSeq := count }
          { session with lastPeerSeq := seq, outSeq := (count + 1) &&& maxSeq }
          nonce cut later methods rest answers := by
  have handled := handle_asked nonce later attuned asks encoded
  have performed := perform_answered cut attuned encoded returned methods
  constructor
  · rintro ⟨one, two⟩
    rcases perform_opens cut attuned encoded methods answer with ⟨words, opens⟩
    have first := one
    rw [opens] at first
    rcases join_cons runtime.toDigests first with ⟨own, rest, same, _, rfl⟩
    rw [encoded] at same
    cases same
    rw [handled rest] at two
    rcases join_cons runtime.toDigests two with ⟨reply, answers, replied, joined, rfl⟩
    rw [returned] at replied
    cases replied
    rw [performed answers] at one
    rcases join_cons runtime.toDigests one with ⟨again, left, same, others, split⟩
    rw [encoded] at same
    cases same
    cases List.append_cancel_left split
    exact ⟨rest, answers, rfl, rfl, others, joined⟩
  · rintro ⟨rest, answers, rfl, rfl, asked, answered⟩
    refine ⟨?_, ?_⟩
    · rw [performed answers]
      change join runtime.toDigests secret (method.frame seq :: _) = _
      rw [join, encoded, asked]
      rfl
    · rw [handled rest]
      change join runtime.toDigests secret (method.reply count :: _) = _
      rw [join, returned, answered]
      rfl

theorem fulfilled_cons (fits : method.Fits) {rest answers : Bytes}
    (concluded : Fulfilled { client with outSeq := (seq + 1) &&& maxSeq, lastPeerSeq := count }
      methods (seq + 1) (count + 1)
      ((WirelineClient.perform runtime
        { client with outSeq := (seq + 1) &&& maxSeq, lastPeerSeq := count } cut answers
        methods).leave runtime)
      (WirelineServer.handle runtime secret nonce
        { session with lastPeerSeq := seq, outSeq := (count + 1) &&& maxSeq } later rest)) :
    Fulfilled client (method :: methods) seq count
      ((client.perform runtime cut (back ++ answers) (method :: methods)).leave runtime)
      (WirelineServer.handle runtime secret nonce session later (raw ++ rest)) := by
  rw [perform_answered cut attuned encoded returned methods answers,
    handle_asked nonce later attuned asks encoded rest]
  refine ⟨?_, ?_, ?_, concluded.closed, concluded.named, ?_, ?_, ?_⟩
  · rw [requestFrames_fit seq methods fits, concluded.written]
  · rw [callResults_fit count methods fits, concluded.results]
  · rw [callRefusal_fit methods fits]
    exact concluded.stop
  · exact congrArg _ concluded.inbound
  · rw [dispatched_append, dispatched_echoCalls, concluded.accepted]
    rfl
  · rw [replyFrames_fit count methods fits, concluded.answered]

end

variable (runtime) in
/-- The rest of a connection is determined, and goes as it should. -/
theorem attuned_meets (attuned : Attuned secret seq count client session) {methods : List Method}
    (asks : forall method, method ∈ methods -> method.Asks) (few : seq + methods.length ≤ maxSeq)
    (fewer : count + methods.length ≤ maxSeq) :
    ∃ up down,
      (forall other answer, Meets runtime secret client session nonce cut later methods other answer <->
        other = up ∧ answer = down) ∧
      Fulfilled client methods seq count ((client.perform runtime cut down methods).leave runtime)
        (WirelineServer.handle runtime secret nonce session later up) := by
  induction methods generalizing seq count client session with
  | nil => exact attuned_meets_none nonce cut later attuned few
  | cons method methods ih =>
      rw [List.length_cons] at few fewer
      rw [List.forall_mem_cons] at asks
      by_cases fits : method.Fits
      · rcases Method.exists_encode_frame runtime.toDigests secret fits
          (show seq ≤ maxSeq by omega) with ⟨raw, encoded⟩
        rcases Method.exists_encode_reply runtime.toDigests secret fits
          (show count ≤ maxSeq by omega) with ⟨back, returned⟩
        rcases ih (attuned.next (by omega) (by omega)) asks.2 (by omega) (by omega)
          with ⟨up, down, only, concluded⟩
        refine ⟨raw ++ up, back ++ down, ?_,
          fulfilled_cons nonce cut later attuned asks.1 encoded returned methods fits concluded⟩
        intro other answer
        rw [meets_cons_iff nonce cut later attuned asks.1 encoded returned]
        constructor
        · rintro ⟨rest, answers, rfl, rfl, meets⟩
          rcases (only rest answers).mp meets with ⟨rfl, rfl⟩
          exact ⟨rfl, rfl⟩
        · rintro ⟨rfl, rfl⟩
          exact ⟨up, down, rfl, rfl, (only up down).mpr ⟨rfl, rfl⟩⟩
      · exact attuned_meets_unfit nonce cut later attuned fits (by omega) methods

end

/-! ## The whole connection -/

section

variable (runtime : Runtime) (secret : Bytes) (client : WirelineClient) (sessionId : SessionId)
  (nonce ackNonce : Nonce) (cut later : Cut) (methods : List Method)

/-- A connection: two streams that agree with what each end makes of them. -/
structure Joined (up down : Bytes) : Prop where
  asked : join runtime.toDigests client.secret
    (client.converse runtime nonce cut down methods).written = .ok up
  answered : join runtime.toDigests secret
    (WirelineServer.handle runtime secret ackNonce { sessionId := sessionId } later up).written =
      .ok down

def WirelineClient.helloFrame : Frame :=
  ⟨.hello, client.outSeq, encodeHello client.clientId nonce.text, 0⟩

/-- The answer of a new session. -/
def helloAckFrame : Frame := ⟨.helloAck, 0, encodeHelloAck sessionId.text ackNonce.text, 0⟩

/-- A client that has been greeted. -/
def WirelineClient.welcomed : WirelineClient :=
  { client with
    connected := true, outSeq := (client.outSeq + 1) &&& maxSeq, lastPeerSeq := 0, state := .ready,
    sessionId := some sessionId.text }

/-- The session that has greeted it. -/
def WirelineClient.welcomedBy : ServerSession where
  sessionId := sessionId
  state := .ready
  clientId := client.clientId
  peerNonce := nonce.text
  outSeq := 1
  lastPeerSeq := client.outSeq

end

section

variable {runtime : Runtime} {client : WirelineClient} {sessionId : SessionId}
  (nonce ackNonce : Nonce) (cut later : Cut) {raw back : Bytes}

theorem hello_encoded
    (encoded : encode runtime.toDigests (client.helloFrame nonce) client.secret = .ok raw) :
    ({ client with connected := true } : WirelineClient).hello runtime nonce =
      ({ client with
          connected := true, outSeq := (client.outSeq + 1) &&& maxSeq, state := .handshake },
        .ok (client.helloFrame nonce, raw)) := by
  have sent := WirelineClient.send_encoded { client with connected := true } rfl encoded
  rw [WirelineClient.hello, sent]
  rfl

/-- Whatever comes back, the HELLO has been said. -/
theorem converse_opens
    (encoded : encode runtime.toDigests (client.helloFrame nonce) client.secret = .ok raw)
    (stream : Bytes) (methods : List Method) :
    ∃ words, (client.converse runtime nonce cut stream methods).written =
      client.helloFrame nonce :: words := by
  have opens : (client.connect runtime nonce cut stream).written = [client.helloFrame nonce] := by
    rw [WirelineClient.connect, hello_encoded nonce encoded]
    dsimp only
    split
    · rfl
    · split <;> rfl
  rw [WirelineClient.converse]
  dsimp only
  split
  · exact ⟨[], opens⟩
  · exact ⟨_, by rw [opens]; rfl⟩

section

variable (encoded : encode runtime.toDigests (client.helloFrame nonce) client.secret = .ok raw)
  (answered : encode runtime.toDigests (helloAckFrame sessionId ackNonce) client.secret = .ok back)
include encoded answered

/-- What comes back is the HELLO_ACK of a new session, and its number is
new. -/
theorem connect_welcomed (fresh : client.lastPeerSeq < 0) (rest : Bytes) :
    client.connect runtime nonce cut (back ++ rest) =
      { client := client.welcomed sessionId, written := [client.helloFrame nonce], rest := rest } := by
  have received := WirelineClient.recv_encoded { client with
    connected := true, outSeq := (client.outSeq + 1) &&& maxSeq, state := .handshake } cut answered
    fresh rest
  rw [WirelineClient.connect, hello_encoded nonce encoded]
  dsimp only
  rw [received]
  dsimp only
  rw [WirelineClient.greeted, helloAckFrame, if_neg nofun, if_neg (not_not.mpr rfl),
    decodeHelloAck_encodeHelloAck]
  rfl

theorem converse_welcomed (fresh : client.lastPeerSeq < 0) (rest : Bytes) (methods : List Method) :
    let tail := ((client.welcomed sessionId).perform runtime cut rest methods).leave runtime
    client.converse runtime nonce cut (back ++ rest) methods =
      { tail with written := client.helloFrame nonce :: tail.written } := by
  rw [WirelineClient.converse, connect_welcomed nonce ackNonce cut encoded answered fresh]
  rfl

/-- The number of the HELLO_ACK is not new for a client that has heard from a
server before. -/
theorem converse_replayed (heard : 0 ≤ client.lastPeerSeq) (rest : Bytes) (methods : List Method) :
    client.converse runtime nonce cut (back ++ rest) methods =
      { client := { client with
          connected := true, outSeq := (client.outSeq + 1) &&& maxSeq, state := .handshake },
        written := [client.helloFrame nonce],
        stop := some (.raised (.protocolError ⟨.errSeq, "replayed seq 0 from server"⟩)),
        rest := rest } := by
  have late : (helloAckFrame sessionId ackNonce).seq ≤ client.lastPeerSeq := heard
  rw [WirelineClient.converse, WirelineClient.connect, hello_encoded nonce encoded]
  dsimp only
  rw [WirelineClient.recv, run_readFrame_encoded runtime.toDigests answered]
  dsimp only
  rw [WirelineClient.receive, if_pos late]
  rfl

end

variable (sessionId) in
/-- A new session is greeted. -/
theorem handle_hello (secret : Bytes)
    (encoded : encode runtime.toDigests (client.helloFrame nonce) secret = .ok raw) (rest : Bytes) :
    let tail := WirelineServer.handle runtime secret ackNonce (client.welcomedBy sessionId nonce) later
      rest
    WirelineServer.handle runtime secret ackNonce { sessionId := sessionId } later (raw ++ rest) =
      ⟨client.helloFrame nonce :: tail.inbound,
        [.dispatch (client.helloFrame nonce), .onHello (client.helloFrame nonce)] ++ tail.calls,
        helloAckFrame sessionId ackNonce :: tail.written⟩ := by
  have read := run_readFrame_encoded runtime.toDigests encoded rest
  have accepted : (-1 : Int) < (client.helloFrame nonce).seq := by
    change (-1 : Int) < client.outSeq
    omega
  have counted : (0 + 1) &&& maxSeq = 1 := by decide
  have fresh : ({ sessionId := sessionId } : ServerSession).state = .new := rfl
  have turn := onFrame_welcomed runtime ackNonce fresh accepted rfl
    (decodeHello_encodeHello runtime client.clientId nonce.text)
  dsimp only at turn
  rw [counted] at turn
  rw [WirelineServer.handle_returned runtime secret ackNonce (.inl rfl)
    (ServerSession.inRange_init sessionId) later read, turn]
  dsimp only
  rw [if_neg Bool.false_ne_true]
  rfl

/-- Two ends that are attuned after the HELLO and its answer are joined by one
pair of streams. -/
theorem joined_of_meets {methods : List Method}
    (encoded : encode runtime.toDigests (client.helloFrame nonce) client.secret = .ok raw)
    (answered : encode runtime.toDigests (helloAckFrame sessionId ackNonce) client.secret = .ok back)
    {up down : Bytes} (tail : Bytes -> Talk)
    (continued : forall rest, (client.converse runtime nonce cut (back ++ rest) methods).written =
      client.helloFrame nonce :: (tail rest).written)
    (only : forall other answer,
      (join runtime.toDigests client.secret (tail answer).written = .ok other ∧
        join runtime.toDigests client.secret (WirelineServer.handle runtime client.secret ackNonce
          (client.welcomedBy sessionId nonce) later other).written = .ok answer) <->
        other = up ∧ answer = down) (other answer : Bytes) :
    Joined runtime client.secret client sessionId nonce ackNonce cut later methods other answer <->
      other = raw ++ up ∧ answer = back ++ down := by
  have handled := handle_hello sessionId nonce ackNonce later client.secret encoded
  constructor
  · rintro ⟨one, two⟩
    rcases converse_opens nonce cut encoded answer methods with ⟨words, opens⟩
    have first := one
    rw [opens] at first
    rcases join_cons runtime.toDigests first with ⟨own, rest, same, _, rfl⟩
    rw [encoded] at same
    cases same
    rw [handled rest] at two
    rcases join_cons runtime.toDigests two with ⟨reply, answers, replied, joined, rfl⟩
    rw [answered] at replied
    cases replied
    rw [continued answers] at one
    rcases join_cons runtime.toDigests one with ⟨again, left, same, others, split⟩
    rw [encoded] at same
    cases same
    cases List.append_cancel_left split
    rcases (only rest answers).mp ⟨others, joined⟩ with ⟨rfl, rfl⟩
    exact ⟨rfl, rfl⟩
  · rintro ⟨rfl, rfl⟩
    rcases (only up down).mpr ⟨rfl, rfl⟩ with ⟨asked, replied⟩
    refine ⟨?_, ?_⟩
    · rw [continued down, join, encoded, asked]
      rfl
    · rw [handled up]
      change join runtime.toDigests client.secret (helloAckFrame sessionId ackNonce :: _) = _
      rw [join, answered, replied]
      rfl

end

/-- What has been said on a whole connection. -/
structure Carried (client : WirelineClient) (sessionId : SessionId) (nonce ackNonce : Nonce)
    (methods : List Method) (talk : Talk) (conversation : Conversation) : Prop where
  written : talk.written = client.helloFrame nonce :: requestFrames (client.outSeq + 1) methods
  results : talk.results = callResults 1 methods
  stop : talk.stop = callRefusal methods
  closed : talk.client.state = .closed
  named : talk.client.sessionId = some sessionId.text
  inbound : conversation.inbound = talk.written
  accepted : dispatched conversation.calls = conversation.inbound
  answered : conversation.written = helloAckFrame sessionId ackNonce :: replyFrames 1 methods

/-- A client that has not heard from any server yet, and makes calls that a
server answers, gets the answers to its own calls in their order, up to a call
that cannot be encoded.  It says BYE in any case, the session has accepted
everything that it said, and no other octets could have passed. -/
theorem dialogue (runtime : Runtime) {client : WirelineClient} (sessionId : SessionId)
    (nonce ackNonce : Nonce) (cut later : Cut) {methods : List Method}
    (unheard : client.lastPeerSeq < 0)
    (short : (encodeHello client.clientId nonce.text).length ≤ maxPayload)
    (asks : forall method, method ∈ methods -> method.Asks)
    (few : client.outSeq + methods.length < maxSeq) :
    ∃ up down,
      (forall other answer,
        Joined runtime client.secret client sessionId nonce ackNonce cut later methods other answer <->
          other = up ∧ answer = down) ∧
      Carried client sessionId nonce ackNonce methods
        (client.converse runtime nonce cut down methods)
        (WirelineServer.handle runtime client.secret ackNonce { sessionId := sessionId } later up) := by
  have greets : Encodable (client.helloFrame nonce) := encodable_plain short (by omega)
  have welcomes : Encodable (helloAckFrame sessionId ackNonce) :=
    encodable_plain (length_encodeHelloAck_le sessionId ackNonce) (by omega)
  rcases exists_encode runtime.toDigests greets client.secret with ⟨raw, encoded⟩
  rcases exists_encode runtime.toDigests welcomes client.secret with ⟨back, answered⟩
  have number : (client.outSeq + 1) &&& maxSeq = client.outSeq + 1 := masked_succ (by omega)
  have attuned : Attuned client.secret (client.outSeq + 1) 1 (client.welcomed sessionId)
      (client.welcomedBy sessionId nonce) := by
    refine ⟨⟨rfl, rfl, rfl, number⟩, Int.zero_lt_one, rfl, rfl, ?_, ?_⟩
    · change (client.outSeq : Int) < (client.outSeq + 1 : Nat)
      omega
    · have one : 1 ≤ maxSeq := by decide
      refine ⟨one, ?_⟩
      change (-1 : Int) ≤ client.outSeq ∧ (client.outSeq : Int) ≤ maxSeq
      omega
  have large : 1 + methods.length ≤ maxSeq := by omega
  rcases attuned_meets runtime ackNonce cut later attuned asks (by omega) large with
    ⟨up, down, only, concluded⟩
  have continued := converse_welcomed nonce ackNonce cut encoded answered unheard
  refine ⟨raw ++ up, back ++ down, ?_, ?_⟩
  · apply joined_of_meets nonce ackNonce cut later encoded answered fun rest =>
      ((client.welcomed sessionId).perform runtime cut rest methods).leave runtime
    · intro rest
      rw [continued rest methods]
    · intro other answer
      rw [← only other answer]
      exact ⟨fun both => ⟨both.1, both.2⟩, fun meets => ⟨meets.asked, meets.answered⟩⟩
  · rw [continued down methods, handle_hello sessionId nonce ackNonce later client.secret encoded up]
    refine ⟨?_, concluded.results, concluded.stop, concluded.closed, concluded.named, ?_, ?_, ?_⟩
    · exact congrArg _ concluded.written
    · exact congrArg _ concluded.inbound
    · rw [dispatched_append, concluded.accepted]
      rfl
    · exact congrArg _ concluded.answered

/-- A PING and a DATA. -/
theorem dialogue_pair : ∃ up down,
    Carried (.init Reference.secret "client") Reference.sessionId Reference.nonce Reference.nonce
      [.ping [1], .sendData [2, 3]]
      ((WirelineClient.init Reference.secret "client").converse Reference.runtime Reference.nonce
        .timeout down [.ping [1], .sendData [2, 3]])
      (WirelineServer.handle Reference.runtime Reference.secret Reference.nonce
        { sessionId := Reference.sessionId } .timeout up) := by
  have asks : forall method, method ∈ [Method.ping [1], .sendData [2, 3]] -> method.Asks := by
    rw [List.forall_mem_cons, List.forall_mem_singleton]
    exact ⟨⟨.pong, rfl⟩, ⟨.data, rfl⟩⟩
  have unheard : (WirelineClient.init Reference.secret "client").lastPeerSeq < 0 := by decide
  have few : (WirelineClient.init Reference.secret "client").outSeq +
      [Method.ping [1], .sendData [2, 3]].length < maxSeq := by decide
  rcases dialogue Reference.runtime Reference.sessionId Reference.nonce Reference.nonce .timeout
    .timeout unheard Reference.hello_fits asks few with ⟨up, down, _, carried⟩
  exact ⟨up, down, carried⟩

end Wireline
