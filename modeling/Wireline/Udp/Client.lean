import Wireline.Udp.Server

namespace Wireline

/-!
# The datagram client

A stop-and-wait sender: one request in flight, retransmitted until it is
answered.  `request` is a coroutine that is suspended twice over, in the queue
of received datagrams and in the timer around it.  It is given here as its
three pieces: `begin` runs up to the first wait, `expire` is the handler of a
timeout, and `awaitReply` is the loop over the queue.  What the coroutine
keeps across its waits is a `Pending`.
-/

/-- The local variables of a suspended `request`. -/
structure Pending where
  msgType : MsgType
  payload : Bytes
  seq : Nat
  attempt : Nat

/-- The frame of an attempt: `FLAG_REQUIRE_ACK | (FLAG_RETRANSMIT if attempt
else 0)`. -/
def Pending.frame (pending : Pending) : Frame :=
  ⟨pending.msgType, pending.seq, pending.payload,
    Int.lor flagRequireAck (if pending.attempt ≠ 0 then flagRetransmit else 0)⟩

/-- Every attempt asks for an acknowledgement. -/
theorem Pending.asks (pending : Pending) :
    Int.land pending.frame.flags flagRequireAck ≠ 0 := by
  rw [Pending.frame]
  by_cases again : pending.attempt ≠ 0
  · rw [if_pos again]
    change Int.land (Int.lor flagRequireAck flagRetransmit) flagRequireAck ≠ 0
    decide
  · rw [if_neg again]
    change Int.land (Int.lor flagRequireAck 0) flagRequireAck ≠ 0
    decide

structure UdpClient where
  secret : Bytes
  clientId : String
  maxRetries : Nat
  transport : Bool
  queue : List Bytes
  sendto : Bool
  outSeq : Nat
  state : State
  sessionId : Option String
  retransmits : Nat

/-- How far a piece of `request` gets: to the wait after an attempt, with the
datagram it sent, or to an exception. -/
inductive Attempt
  | waiting (pending : Pending) (data : Bytes)
  | raised (error : PyError)

/-- What the body of the receiving loop decides about one datagram. -/
inductive Verdict
  | dropped
  | returned (reply : Frame)
  | raised (error : PyError)

namespace UdpClient

def init (secret : Bytes) (clientId : String) (maxRetries : Nat) : UdpClient :=
  ⟨secret, clientId, maxRetries, false, [], false, 0, .new, none, 0⟩

def datagramReceived (client : UdpClient) (data : Bytes) : UdpClient :=
  { client with queue := client.queue ++ [data] }

variable (runtime : Runtime)

/-- Send one attempt.  The encoder's exception ends the request. -/
def transmit (client : UdpClient) (pending : Pending) : Attempt :=
  match encode runtime.toDigests pending.frame client.secret with
  | .error raised => .raised (.protocolError raised)
  | .ok data => .waiting pending data

/-- `request` up to its first wait. -/
def begin (client : UdpClient) (msgType : MsgType) (payload : Bytes) : UdpClient × Attempt :=
  if client.sendto = false then
    (client, .raised (.protocolError ⟨.errState, "client is not connected"⟩))
  else
    let pending := ⟨msgType, payload, client.outSeq, 0⟩
    ({ client with outSeq := (client.outSeq + 1) &&& maxSeq }, client.transmit runtime pending)

/-- A timeout of the current attempt. -/
def expire (client : UdpClient) (pending : Pending) : UdpClient × Attempt :=
  if pending.attempt < client.maxRetries then
    let pending := { pending with attempt := pending.attempt + 1 }
    match client.transmit runtime pending with
    | .waiting pending data =>
        ({ client with retransmits := client.retransmits + 1 }, .waiting pending data)
    | .raised error => (client, .raised error)
  else
    (client, .raised (.protocolError ⟨.errTimeout,
      s!"no reply for seq {pending.seq} after {client.maxRetries} retries"⟩))

/-- Whether the first frame of a datagram is an ACK that names the request. -/
def answersSeq (seq : Int) (first : Frame) : Except PyError Bool :=
  if first.msgType = .ack then
    (decodeAck runtime first.payload).map fun ackSeq => decide (ackSeq = seq)
  else .ok false

/-- The last frame of an answer: the ACK itself when the message has no
reply. -/
def takeReply (reply : Frame) : Verdict :=
  if reply.msgType = .error then
    match decodeError runtime reply.payload with
    | .error raised => .raised raised
    | .ok (code, message) => .raised (.protocolError ⟨code, message⟩)
  else .returned reply

/-- The body of the loop of `_await_reply`. -/
def judge (secret : Bytes) (seq : Int) (data : Bytes) : Verdict :=
  match splitDatagram runtime.toDigests data secret with
  | .error _ => .dropped
  | .ok [] => .raised .indexError
  | .ok (first :: rest) =>
      match answersSeq runtime seq first with
      | .error (.protocolError _) => .dropped
      | .error raised => .raised raised
      | .ok false => .dropped
      | .ok true => takeReply runtime (rest.getLastD first)

/-- Read datagrams until the answer to `seq` arrives: what the loop ends
with, if it ends, the datagram that ended it, and the queue it leaves. -/
def awaitReply (secret : Bytes) (seq : Int) :
    List Bytes -> Option (Bytes × Except PyError Frame) × List Bytes
  | [] => (none, [])
  | data :: queue =>
      match judge runtime secret seq data with
      | .dropped => awaitReply secret seq queue
      | .returned reply => (some (data, .ok reply), queue)
      | .raised error => (some (data, .error error), queue)

/-- `connect` up to its first wait. -/
def connect (client : UdpClient) (nonce : Nonce) : UdpClient × Attempt :=
  { client with transport := true, sendto := true, state := .handshake }.begin runtime .hello
    (encodeHello client.clientId nonce.text)

/-- `connect` from the reply on. -/
def connected (client : UdpClient) (reply : Frame) : Except PyError UdpClient :=
  if reply.msgType ≠ .helloAck then
    raiseError .errState s!"expected HELLO_ACK, got {reply.msgType.name}"
  else do
    let (sessionId, _) <- decodeHelloAck runtime reply.payload
    .ok { client with sessionId := some sessionId, state := .ready }

theorem connected_helloAck (client : UdpClient) (seq flags : Int) (sessionId nonce : String) :
    client.connected runtime ⟨.helloAck, seq, encodeHelloAck sessionId nonce, flags⟩ =
      .ok { client with sessionId := some sessionId, state := .ready } := by
  rw [connected, if_neg (not_not.mpr rfl), decodeHelloAck_encodeHelloAck]
  rfl

def close (client : UdpClient) : UdpClient :=
  { client with transport := false, state := .closed }

variable {runtime} in
theorem transmit_waiting {client : UdpClient} {pending sent : Pending} {data : Bytes}
    (transmitted : client.transmit runtime pending = .waiting sent data) :
    sent = pending ∧ encode runtime.toDigests pending.frame client.secret = .ok data := by
  rw [transmit] at transmitted
  cases encoded : encode runtime.toDigests pending.frame client.secret with
  | error error =>
      rw [encoded] at transmitted
      cases transmitted
  | ok written =>
      rw [encoded] at transmitted
      cases transmitted
      exact ⟨rfl, rfl⟩

variable {runtime} in
/-- A connected client waits for the reply to what it could encode. -/
theorem begin_waiting {client : UdpClient} (sendto : client.sendto = true) {msgType : MsgType}
    {payload data : Bytes} (encoded : encode runtime.toDigests
      (Pending.frame ⟨msgType, payload, client.outSeq, 0⟩) client.secret = .ok data) :
    client.begin runtime msgType payload =
      ({ client with outSeq := (client.outSeq + 1) &&& maxSeq },
        .waiting ⟨msgType, payload, client.outSeq, 0⟩ data) := by
  rw [begin, if_neg (by rw [sendto]; nofun)]
  dsimp only
  rw [transmit, encoded]

variable {runtime} in
theorem connect_waiting {client : UdpClient} {nonce : Nonce} {data : Bytes}
    (encoded : encode runtime.toDigests
      (Pending.frame ⟨.hello, encodeHello client.clientId nonce.text, client.outSeq, 0⟩)
      client.secret = .ok data) :
    client.connect runtime nonce =
      ({ client with
          transport := true, sendto := true, state := .handshake,
          outSeq := (client.outSeq + 1) &&& maxSeq },
        .waiting ⟨.hello, encodeHello client.clientId nonce.text, client.outSeq, 0⟩ data) := by
  have sendto : UdpClient.sendto
      { client with transport := true, sendto := true, state := .handshake } = true := rfl
  rw [connect, begin_waiting sendto encoded]

/-- A timeout leads to another attempt while there are retries left, and if
its frame can be encoded. -/
theorem expire_cases (client : UdpClient) (pending : Pending) :
    (∃ data, pending.attempt < client.maxRetries ∧
      encode runtime.toDigests (Pending.frame { pending with attempt := pending.attempt + 1 })
        client.secret = .ok data ∧
      client.expire runtime pending =
        ({ client with retransmits := client.retransmits + 1 },
          .waiting { pending with attempt := pending.attempt + 1 } data)) ∨
      ∃ error, client.expire runtime pending = (client, .raised error) := by
  rw [expire]
  by_cases more : pending.attempt < client.maxRetries
  · rw [if_pos more]
    dsimp only
    cases transmitted : client.transmit runtime { pending with attempt := pending.attempt + 1 } with
    | waiting again data =>
        rcases transmit_waiting transmitted with ⟨rfl, encoded⟩
        exact .inl ⟨data, more, encoded, rfl⟩
    | raised error => exact .inr ⟨error, rfl⟩
  · rw [if_neg more]
    exact .inr ⟨_, rfl⟩

variable {runtime} in
/-- Only a limited number of timeouts leads to another attempt. -/
theorem expire_waiting {client next : UdpClient} {pending again : Pending} {data : Bytes}
    (waiting : client.expire runtime pending = (next, .waiting again data)) :
    pending.attempt < client.maxRetries ∧ again.attempt = pending.attempt + 1 ∧
      next.maxRetries = client.maxRetries := by
  rcases expire_cases runtime client pending with ⟨sent, more, _, same⟩ | ⟨error, same⟩
  · rw [same] at waiting
    cases waiting
    exact ⟨more, rfl, rfl⟩
  · rw [same] at waiting
    cases waiting

/-- Starting a request leaves the received datagrams alone. -/
@[simp] theorem queue_begin (client : UdpClient) (msgType : MsgType) (payload : Bytes) :
    (client.begin runtime msgType payload).1.queue = client.queue := by
  rw [begin]
  by_cases unconnected : client.sendto = false
  · rw [if_pos unconnected]
  · rw [if_neg unconnected]

@[simp] theorem queue_connect (client : UdpClient) (nonce : Nonce) :
    (client.connect runtime nonce).1.queue = client.queue := queue_begin ..

/-! ## The loop returns an answer to its own number -/

variable {runtime}

/-- A datagram that acknowledges the request is decided by its last frame. -/
theorem judge_acknowledged {secret data : Bytes} {seq : Int} {first : Frame} {rest : List Frame}
    (split : splitDatagram runtime.toDigests data secret = .ok (first :: rest))
    (own : answersSeq runtime seq first = .ok true) :
    judge runtime secret seq data = takeReply runtime (rest.getLastD first) := by
  rw [judge, split]
  dsimp only
  rw [own]

/-- A datagram that starts with the acknowledgement of the request ends the
loop. -/
theorem judge_join {secret data : Bytes} {seq number : Int} (range : 0 ≤ seq ∧ seq ≤ maxSeq)
    {rest : List Frame}
    (joined : join runtime.toDigests secret (⟨.ack, number, encodeAck seq, 0⟩ :: rest) = .ok data) :
    judge runtime secret seq data =
      takeReply runtime (rest.getLastD ⟨.ack, number, encodeAck seq, 0⟩) := by
  have own : answersSeq runtime seq ⟨.ack, number, encodeAck seq, 0⟩ = .ok true := by
    rw [answersSeq, if_pos rfl, decodeAck_encodeAck runtime range]
    exact congrArg Except.ok (decide_eq_true rfl)
  exact judge_acknowledged (splitDatagram_join _ joined) own

/-- A datagram that ends the loop was split into frames of which the first
acknowledges the request. -/
theorem judge_returned {secret : Bytes} {seq : Int} {data : Bytes} {reply : Frame}
    (returned : judge runtime secret seq data = .returned reply) :
    ∃ first rest, splitDatagram runtime.toDigests data secret = .ok (first :: rest) ∧
      answersSeq runtime seq first = .ok true ∧ reply = rest.getLastD first ∧
      reply.msgType ≠ .error := by
  rw [judge] at returned
  cases split : splitDatagram runtime.toDigests data secret with
  | error error =>
      rw [split] at returned
      cases returned
  | ok frames =>
      rw [split] at returned
      cases frames with
      | nil => cases returned
      | cons first rest =>
          dsimp only at returned
          cases answers : answersSeq runtime seq first with
          | error raised =>
              rw [answers] at returned
              cases raised <;> cases returned
          | ok own =>
              rw [answers] at returned
              cases own with
              | false => cases returned
              | true =>
                  dsimp only at returned
                  rw [takeReply] at returned
                  by_cases report : (rest.getLastD first).msgType = .error
                  · rw [if_pos report] at returned
                    cases decoded : decodeError runtime (rest.getLastD first).payload <;>
                      rw [decoded] at returned <;> cases returned
                  · rw [if_neg report] at returned
                    cases returned
                    exact ⟨first, rest, rfl, answers, rfl, report⟩

/-- The loop ends with a datagram of the queue, and leaves a part of it. -/
theorem awaitReply_ended {secret : Bytes} {seq : Int} {queue rest : List Bytes} {data : Bytes}
    {result : Except PyError Frame}
    (ended : awaitReply runtime secret seq queue = (some (data, result), rest)) :
    data ∈ queue ∧ (forall reply, result = .ok reply ->
      judge runtime secret seq data = .returned reply) := by
  induction queue with
  | nil => cases ended
  | cons head queue ih =>
      rw [awaitReply] at ended
      cases verdict : judge runtime secret seq head with
      | dropped =>
          rw [verdict] at ended
          have later := ih ended
          exact ⟨List.mem_cons_of_mem head later.1, later.2⟩
      | returned reply =>
          rw [verdict] at ended
          cases ended
          refine ⟨List.mem_cons_self, ?_⟩
          rintro other ⟨⟩
          exact verdict
      | raised error =>
          rw [verdict] at ended
          cases ended
          exact ⟨List.mem_cons_self, nofun⟩

/-- The first datagram of a queue that the loop does not drop. -/
def Decisive (runtime : Runtime) (secret : Bytes) (seq : Int) (queue : List Bytes) (data : Bytes) :
    Prop :=
  ∃ before later, queue = before ++ data :: later ∧
    forall other, other ∈ before -> judge runtime secret seq other = .dropped

/-- The decision that ends the loop with this result. -/
def concluding : Except PyError Frame -> Verdict
  | .ok reply => .returned reply
  | .error error => .raised error

/-- The loop ends with the first datagram that it does not drop. -/
theorem decisive_of_awaitReply {secret : Bytes} {seq : Int} {queue rest : List Bytes} {data : Bytes}
    {result : Except PyError Frame}
    (ended : awaitReply runtime secret seq queue = (some (data, result), rest)) :
    Decisive runtime secret seq queue data ∧
      judge runtime secret seq data = concluding result := by
  induction queue with
  | nil => cases ended
  | cons head queue ih =>
      rw [awaitReply] at ended
      cases verdict : judge runtime secret seq head with
      | dropped =>
          rw [verdict] at ended
          rcases ih ended with ⟨⟨before, later, split, dropped⟩, decided⟩
          refine ⟨⟨head :: before, later, by rw [split, List.cons_append], ?_⟩, decided⟩
          intro other member
          rcases List.mem_cons.mp member with rfl | inside
          · exact verdict
          · exact dropped other inside
      | returned reply | raised error =>
          rw [verdict] at ended
          cases ended
          refine ⟨⟨[], _, rfl, ?_⟩, verdict⟩
          intro other member
          cases member

theorem awaitReply_of_decisive {secret : Bytes} {seq : Int} {queue : List Bytes} {data : Bytes}
    (decisive : Decisive runtime secret seq queue data) {result : Except PyError Frame}
    (decided : judge runtime secret seq data = concluding result) :
    ∃ rest, awaitReply runtime secret seq queue = (some (data, result), rest) := by
  rcases decisive with ⟨before, later, rfl, dropped⟩
  induction before with
  | nil =>
      rw [List.nil_append, awaitReply, decided]
      cases result <;> exact ⟨later, rfl⟩
  | cons head before ih =>
      rw [List.cons_append, awaitReply, dropped head List.mem_cons_self]
      exact ih fun other member => dropped other (List.mem_cons_of_mem head member)

theorem takeReply_success {reply : Frame} (success : reply.msgType ≠ .error) :
    takeReply runtime reply = .returned reply := by
  rw [takeReply, if_neg success]

variable (runtime) in
/-- The last frame of an answer always ends the loop. -/
theorem concluding_takeReply (reply : Frame) :
    ∃ result, takeReply runtime reply = concluding result := by
  rw [takeReply]
  by_cases report : reply.msgType = .error
  · rw [if_pos report]
    cases decodeError runtime reply.payload with
    | error raised => exact ⟨.error raised, rfl⟩
    | ok fields => exact ⟨.error (.protocolError ⟨fields.1, fields.2⟩), rfl⟩
  · rw [if_neg report]
    exact ⟨.ok reply, rfl⟩

/-- What the loop leaves in the queue was there before. -/
theorem mem_awaitReply {secret : Bytes} {seq : Int} {queue rest : List Bytes}
    {outcome : Option (Bytes × Except PyError Frame)}
    (ended : awaitReply runtime secret seq queue = (outcome, rest)) {data : Bytes}
    (member : data ∈ rest) : data ∈ queue := by
  induction queue with
  | nil =>
      cases ended
      cases member
  | cons head queue ih =>
      rw [awaitReply] at ended
      cases verdict : judge runtime secret seq head <;> rw [verdict] at ended
      case dropped => exact List.mem_cons_of_mem head (ih ended)
      all_goals
        cases ended
        exact List.mem_cons_of_mem head member

end UdpClient
end Wireline
