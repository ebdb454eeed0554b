import Mathlib
import Wireline.Library.Execution
import Wireline.Reference
import Wireline.Replies
import Wireline.SessionRuns
import Wireline.Transport.Authenticity
import Wireline.Udp.Client

namespace Wireline

/-!
# One server, one client, and an adversary between them

The adversary holds every datagram that was ever sent, may cut and join them,
and may deliver any octets from any address.  The only restriction is that of
`Unforged`, at the front of what the server decodes and at every boundary
between the frames of what the client splits.

A MAC covers one frame and names neither its sender nor its neighbours.  The
server numbers the acknowledgement and the reply of a frame apart, so that its
own numbers run ahead of the client's, and it takes a frame of its own for
one of the client's.  The client takes any frame behind an acknowledgement for
the answer.
-/

/-- The calls of a client that wait for a reply. -/
inductive UdpClient.Method
  | connect (nonce : Nonce)
  | sendData (payload : Bytes)
  | request (msgType : MsgType) (payload : Bytes)

namespace UdpClient

variable {runtime : Runtime}

variable (runtime) in
theorem secret_expire (client : UdpClient) (pending : Pending) :
    (client.expire runtime pending).1.secret = client.secret := by
  rcases expire_cases runtime client pending with ⟨_, _, _, same⟩ | ⟨_, same⟩ <;> rw [same]

variable (runtime) in
theorem queue_expire (client : UdpClient) (pending : Pending) :
    (client.expire runtime pending).1.queue = client.queue := by
  rcases expire_cases runtime client pending with ⟨_, _, _, same⟩ | ⟨_, same⟩ <;> rw [same]

theorem kept_connected {client ready : UdpClient} {reply : Frame}
    (connected : client.connected runtime reply = .ok ready) :
    ready.secret = client.secret ∧ ready.queue = client.queue := by
  rw [UdpClient.connected] at connected
  split at connected
  · cases connected
  · cases decoded : decodeHelloAck runtime reply.payload <;> rw [decoded] at connected <;>
      cases connected
    exact ⟨rfl, rfl⟩

end UdpClient

namespace UdpClient.Method

variable (runtime : Runtime)

/-- The call up to its first wait. -/
def begin (client : UdpClient) : Method -> UdpClient × Attempt
  | connect nonce => client.connect runtime nonce
  | sendData payload => client.begin runtime .data payload
  | request msgType payload => client.begin runtime msgType payload

/-- The client after the call, given the reply. -/
def after (client : UdpClient) (reply : Except PyError Frame) : Method -> UdpClient
  | connect _ =>
      match reply.bind (client.connected runtime) with
      | .error _ => client
      | .ok client => client
  | sendData _ => client
  | request _ _ => client

/-- What the call returns, given the reply.  The call of `connect` returns
nothing. -/
def results (reply : Except PyError Frame) : Method -> List (Except PyError CallResult)
  | connect _ => []
  | sendData _ => [reply.map fun frame => .payload frame.payload]
  | request _ _ => [reply.map .frame]

variable {runtime}

variable (runtime) in
theorem secret_begin (client : UdpClient) (method : Method) :
    (method.begin runtime client).1.secret = client.secret := by
  cases method <;>
  · simp only [Method.begin, UdpClient.connect, UdpClient.begin]
    split <;> rfl

variable (runtime) in
theorem queue_begin (client : UdpClient) (method : Method) :
    (method.begin runtime client).1.queue = client.queue := by
  cases method with
  | connect nonce => exact UdpClient.queue_connect ..
  | sendData _ | request _ _ => exact UdpClient.queue_begin ..

/-- The end of a call leaves the secret and the received datagrams alone. -/
theorem kept_after (client : UdpClient) (reply : Except PyError Frame) (method : Method) :
    (method.after runtime client reply).secret = client.secret ∧
      (method.after runtime client reply).queue = client.queue := by
  cases method with
  | connect nonce =>
      rw [Method.after]
      cases reply with
      | error raised => exact ⟨rfl, rfl⟩
      | ok frame =>
          cases connected : client.connected runtime frame with
          | error raised =>
              dsimp only [Except.bind]
              rw [connected]
              exact ⟨rfl, rfl⟩
          | ok ready =>
              dsimp only [Except.bind]
              rw [connected]
              exact kept_connected connected
  | sendData payload | request msgType payload => exact ⟨rfl, rfl⟩

end UdpClient.Method

/-- The two ends, the pending call, and what has happened so far: the
datagrams that each end has sent, to whatever address, the frames that the
server's sessions for the client dispatched, the frames that `request`
returned with the numbers of their requests, and the results of the calls. -/
structure OpenWorld (Addr : Type) where
  server : UdpServer Addr
  client : UdpClient
  pending : Option (UdpClient.Method × Pending)
  toServer : List Bytes
  toClient : List Bytes
  dispatched : List Frame
  returned : List (Nat × Frame)
  ended : List (Except PyError CallResult)

inductive OpenEvent (Addr : Type)
  | call (method : UdpClient.Method)
  | expire
  | poll
  | close
  | deliverToServer (data : Bytes) (addr : Addr) (draw : Draw)
  | deliverToClient (data : Bytes)

namespace OpenWorld

variable {Addr : Type} (runtime : Runtime)

def start (secret : Bytes) (dedupSize : Nat) (clientId : String) (maxRetries : Nat) :
    OpenWorld Addr where
  server := .start secret dedupSize
  client := .init secret clientId maxRetries
  pending := none
  toServer := []
  toClient := []
  dispatched := []
  returned := []
  ended := []

/-- The end of a call. -/
def finish (world : OpenWorld Addr) (client : UdpClient) (method : UdpClient.Method) (seq : Nat)
    (reply : Except PyError Frame) : OpenWorld Addr :=
  { world with
    client := method.after runtime client reply
    pending := none
    returned := world.returned ++ reply.toOption.toList.map fun frame => (seq, frame)
    ended := world.ended ++ method.results reply }

theorem queue_finish (world : OpenWorld Addr) (client : UdpClient) (method : UdpClient.Method)
    (seq : Nat) (reply : Except PyError Frame) :
    (world.finish runtime client method seq reply).client.queue = client.queue :=
  (UdpClient.Method.kept_after ..).2

def call (world : OpenWorld Addr) (method : UdpClient.Method) : Option (OpenWorld Addr) :=
  if world.pending.isSome then none
  else
    match method.begin runtime world.client with
    | (client, .raised error) =>
        some (world.finish runtime client method world.client.outSeq (.error error))
    | (client, .waiting pending data) =>
        some { world with
          client := client, pending := some (method, pending),
          toServer := world.toServer ++ [data] }

def expire (world : OpenWorld Addr) : Option (OpenWorld Addr) :=
  world.pending.map fun (method, pending) =>
    match world.client.expire runtime pending with
    | (client, .raised error) => world.finish runtime client method pending.seq (.error error)
    | (client, .waiting again data) =>
        { world with
          client := client, pending := some (method, again),
          toServer := world.toServer ++ [data] }

def poll (world : OpenWorld Addr) : Option (OpenWorld Addr) :=
  world.pending.map fun (method, pending) =>
    let (ended, queue) :=
      UdpClient.awaitReply runtime world.client.secret pending.seq world.client.queue
    let client := { world.client with queue := queue }
    match ended with
    | none => { world with client := client }
    | some (_, reply) => world.finish runtime client method pending.seq reply

section

variable [DecidableEq Addr] (home : Addr)

/-- A datagram reaches the server.  `home` is the address of the client. -/
def deliver (world : OpenWorld Addr) (data : Bytes) (addr : Addr) (draw : Draw) : OpenWorld Addr :=
  let delivery := world.server.onDatagram runtime data addr draw
  { world with
    server := delivery.server
    toClient := world.toClient ++ delivery.sent.map Prod.fst
    dispatched :=
      if addr = home then world.dispatched ++ Wireline.dispatched delivery.calls
      else world.dispatched }

def step (world : OpenWorld Addr) : OpenEvent Addr -> Option (OpenWorld Addr)
  | .call method => world.call runtime method
  | .expire => world.expire runtime
  | .poll => world.poll runtime
  | .close => if world.pending.isSome then none else some { world with client := world.client.close }
  | .deliverToServer data addr draw => some (world.deliver runtime home data addr draw)
  | .deliverToClient data => some { world with client := world.client.datagramReceived data }

end

/-! ## What the ends have signed -/

section

variable (secret : Bytes)

/-- The frames of the client. -/
def sent (world : OpenWorld Addr) : List Frame :=
  world.toServer.filterMap fun data => (decode runtime.toDigests data (some secret)).toOption

/-- The frames of the server. -/
def written (world : OpenWorld Addr) : List Frame :=
  world.toClient.flatMap fun data =>
    (splitDatagram runtime.toDigests data secret).toOption.getD []

/-- What verifies where an end looks for a frame has been signed by an end. -/
def Signed (world : OpenWorld Addr) (event : OpenEvent Addr) : Prop :=
  (forall data addr draw, event = .deliverToServer data addr draw ->
      Unforged runtime.toDigests secret
        (world.sent runtime secret ++ world.written runtime secret) data) ∧
    forall data, event = .deliverToClient data -> forall front frames rest,
      join runtime.toDigests secret frames = .ok front -> data = front ++ rest ->
        Unforged runtime.toDigests secret
          (world.sent runtime secret ++ world.written runtime secret) rest

/-- The reply is the last frame of a datagram from the server that starts with
the ACK of the number: the frame behind the ACK, or the ACK itself when there
is none. -/
def Answers (world : OpenWorld Addr) (seq : Nat) (reply : Frame) : Prop :=
  ∃ data first rest, data ∈ world.toClient ∧
    splitDatagram runtime.toDigests data secret = .ok (first :: rest) ∧
    UdpClient.answersSeq runtime seq first = .ok true ∧ reply = rest.getLastD first

/-- The client's sessions have dispatched frames of the client only. -/
def DispatchesOwn (world : OpenWorld Addr) : Prop :=
  forall frame, frame ∈ world.dispatched -> frame ∈ world.sent runtime secret

/-- The requests have returned the answers of the server only. -/
def ReturnsAnswers (world : OpenWorld Addr) : Prop :=
  forall seq reply, (seq, reply) ∈ world.returned -> world.Answers runtime secret seq reply

section

variable [DecidableEq Addr] (home : Addr)

def Genuine (world : OpenWorld Addr) (event : OpenEvent Addr) : Prop :=
  forall next, world.step runtime home event = some next -> next.DispatchesOwn runtime secret

def Answered (world : OpenWorld Addr) (event : OpenEvent Addr) : Prop :=
  forall next, world.step runtime home event = some next -> next.ReturnsAnswers runtime secret

/-- No new frame that reaches the client's session is one of the server's
own, unless the client has signed it too. -/
def Unreflected (world : OpenWorld Addr) (event : OpenEvent Addr) : Prop :=
  forall data draw frame, event = .deliverToServer data home draw ->
    decode runtime.toDigests data (some secret) = .ok frame ->
    (world.server.peer home draw).dedup.get frame.seq = none ->
    (world.server.peer home draw).session.lastPeerSeq < frame.seq ->
    frame ∈ world.written runtime secret -> frame ∈ world.sent runtime secret

end

/-- A datagram that starts with an ACK and does not end in an ERROR has both
ends of one datagram of the server: its ACK, and the last frame behind it. -/
def Intact (world : OpenWorld Addr) (data : Bytes) : Prop :=
  forall first rest, splitDatagram runtime.toDigests data secret = .ok (first :: rest) ->
    first.msgType = .ack -> (rest.getLastD first).msgType ≠ .error ->
    ∃ sent others, sent ∈ world.toClient ∧
      splitDatagram runtime.toDigests sent secret = .ok (first :: others) ∧
      others.getLastD first = rest.getLastD first

/-- What is delivered to the client is intact. -/
def Whole (world : OpenWorld Addr) (event : OpenEvent Addr) : Prop :=
  forall data, event = .deliverToClient data -> world.Intact runtime secret data

variable {runtime} {secret} in
/-- The server's own datagrams are intact. -/
theorem intact_of_mem {world : OpenWorld Addr} {data : Bytes} (sent : data ∈ world.toClient) :
    world.Intact runtime secret data :=
  fun _ rest split _ _ => ⟨data, rest, sent, split, rfl⟩

end

end OpenWorld

/-! ## What reaches a session -/

namespace UdpServer

variable {Addr : Type} [DecidableEq Addr] {runtime : Runtime} {server : UdpServer Addr}
  {data : Bytes} {addr : Addr} {draw : Draw} {delivery : Delivery Addr}

/-- A call dispatches a new frame that its datagram decodes to, or nothing. -/
theorem Receipt.dispatched (receipt : Receipt runtime server data addr draw delivery) :
    Wireline.dispatched delivery.calls = [] ∨
      ∃ frame, decode runtime.toDigests data (some server.secret) = .ok frame ∧
        (server.peer addr draw).dedup.get frame.seq = none ∧
        (server.peer addr draw).session.lastPeerSeq < frame.seq ∧
        Wireline.dispatched delivery.calls = [frame] := by
  cases receipt with
  | dropped undecodable => exact .inl rfl
  | replayed decoded known hit => exact .inl rfl
  | raised decoded missed handling result | answered decoded missed handling result joined =>
      rcases handling.accepts with ⟨_, silent⟩ | ⟨ahead, _, ran⟩
      · exact .inl silent
      · rw [lastPeerSeq_acks] at ahead
        exact .inr ⟨_, decoded, missed, ahead, ran⟩

/-- It does dispatch every such frame. -/
theorem Receipt.dispatches (receipt : Receipt runtime server data addr draw delivery)
    {frame : Frame} (decoded : decode runtime.toDigests data (some server.secret) = .ok frame)
    (missed : (server.peer addr draw).dedup.get frame.seq = none)
    (ahead : (server.peer addr draw).session.lastPeerSeq < frame.seq) :
    Wireline.dispatched delivery.calls = [frame] := by
  have handled {turn : Turn} (handling : Handling runtime draw.nonce
      (acks (server.peer addr draw).session frame).2 frame turn) :
      Wireline.dispatched turn.calls = [frame] := by
    rw [← lastPeerSeq_acks _ frame] at ahead
    rcases handling.accepts with ⟨unmoved, _⟩ | ⟨_, _, ran⟩
    · have moved := handling.lastPeerSeq_eq ahead
      omega
    · exact ran
  cases receipt.treatment runtime decoded with
  | replayed known hit =>
      rw [peer_of_known known, hit] at missed
      cases missed
  | raised _ handling result => exact handled handling
  | answered _ handling result joined => exact handled handling

end UdpServer

namespace OpenWorld

variable {Addr : Type} {runtime : Runtime} {secret : Bytes}

/-! ## Frames that have been signed -/

theorem mem_sent_iff {world : OpenWorld Addr} {frame : Frame} :
    frame ∈ world.sent runtime secret <->
      ∃ data, data ∈ world.toServer ∧ decode runtime.toDigests data (some secret) = .ok frame := by
  rw [sent, List.mem_filterMap]
  apply exists_congr
  intro data
  cases decode runtime.toDigests data (some secret) <;> simp [Except.toOption]

theorem mem_written_iff {world : OpenWorld Addr} {frame : Frame} :
    frame ∈ world.written runtime secret <->
      ∃ data frames, data ∈ world.toClient ∧
        splitDatagram runtime.toDigests data secret = .ok frames ∧ frame ∈ frames := by
  rw [written, List.mem_flatMap]
  apply exists_congr
  intro data
  cases splitDatagram runtime.toDigests data secret <;> simp [Except.toOption]

theorem encodable_signed {world : OpenWorld Addr} {frame : Frame}
    (member : frame ∈ world.sent runtime secret ++ world.written runtime secret) :
    Encodable frame := by
  rcases List.mem_append.mp member with own | foreign
  · rcases mem_sent_iff.mp own with ⟨data, _, decoded⟩
    exact encodable_of_decode runtime.toDigests decoded
  · rcases mem_written_iff.mp foreign with ⟨data, frames, _, split, inside⟩
    exact encodable_of_join runtime.toDigests ((splitDatagram_ok_iff _).mp split) inside

/-- The octets of a signed frame are unforged. -/
theorem unforged_signed {world : OpenWorld Addr} {frame : Frame} {raw : Bytes}
    (member : frame ∈ world.sent runtime secret ++ world.written runtime secret)
    (encoded : encode runtime.toDigests frame secret = .ok raw) :
    Unforged runtime.toDigests secret
      (world.sent runtime secret ++ world.written runtime secret) raw := by
  have unforged := unforged_of_encode runtime.toDigests encoded member []
  rwa [List.append_nil] at unforged

/-- What the server decodes has been signed by one of the ends. -/
theorem signed_of_decode {world : OpenWorld Addr} {data : Bytes}
    (unforged : Unforged runtime.toDigests secret
      (world.sent runtime secret ++ world.written runtime secret) data) {frame : Frame}
    (decoded : decode runtime.toDigests data (some secret) = .ok frame) :
    frame ∈ world.sent runtime secret ∨ frame ∈ world.written runtime secret := by
  have shown := nextFrame_of_encode runtime.toDigests
    (encode_of_decode runtime.toDigests decoded) []
  rw [List.append_nil] at shown
  exact List.mem_append.mp
    (mem_of_unforged runtime.toDigests (fun _ => encodable_signed) unforged shown)

/-! ## What a step changes -/

/-- The ends send more and more. -/
structure Grows (world next : OpenWorld Addr) : Prop where
  toServer : world.toServer ⊆ next.toServer
  toClient : world.toClient ⊆ next.toClient

theorem Grows.sent {world next : OpenWorld Addr} (grows : Grows world next) :
    world.sent runtime secret ⊆ next.sent runtime secret := by
  intro frame member
  rcases mem_sent_iff.mp member with ⟨data, inside, decoded⟩
  exact mem_sent_iff.mpr ⟨data, grows.toServer inside, decoded⟩

theorem Grows.answers {world next : OpenWorld Addr} (grows : Grows world next) {seq : Nat}
    {reply : Frame} (answers : world.Answers runtime secret seq reply) :
    next.Answers runtime secret seq reply := by
  rcases answers with ⟨data, first, rest, inside, split, own, last⟩
  exact ⟨data, first, rest, grows.toClient inside, split, own, last⟩

theorem Grows.intact {world next : OpenWorld Addr} (grows : Grows world next) {data : Bytes}
    (intact : world.Intact runtime secret data) : next.Intact runtime secret data := by
  intro first rest split ack success
  rcases intact first rest split ack success with ⟨sent, others, inside, whole, last⟩
  exact ⟨sent, others, grows.toClient inside, whole, last⟩

/-- A call up to its first wait sends at most, and returns nothing. -/
theorem call_cases {world next : OpenWorld Addr} {method : UdpClient.Method}
    (called : world.call runtime method = some next) :
    Grows world next ∧ next.returned = world.returned ∧ next.dispatched = world.dispatched := by
  rw [OpenWorld.call] at called
  split at called
  · cases called
  · split at called
    · cases called
      exact ⟨⟨List.Subset.refl _, List.Subset.refl _⟩, List.append_nil _, rfl⟩
    · cases called
      exact ⟨⟨List.subset_append_left _ _, List.Subset.refl _⟩, rfl, rfl⟩

theorem expire_cases {world next : OpenWorld Addr} (expired : world.expire runtime = some next) :
    Grows world next ∧ next.returned = world.returned ∧ next.dispatched = world.dispatched := by
  rcases Option.map_eq_some_iff.mp expired with ⟨⟨method, pending⟩, _, rfl⟩
  dsimp only
  split
  · exact ⟨⟨List.Subset.refl _, List.Subset.refl _⟩, List.append_nil _, rfl⟩
  · exact ⟨⟨List.subset_append_left _ _, List.Subset.refl _⟩, rfl, rfl⟩

/-- The loop over the queue goes on, or it ends the call with what one
datagram decides. -/
theorem poll_cases {world next : OpenWorld Addr} (polled : world.poll runtime = some next) :
    ∃ method pending, world.pending = some (method, pending) ∧ ∃ queue,
      ((UdpClient.awaitReply runtime world.client.secret pending.seq world.client.queue =
            (none, queue) ∧
          next = { world with client := { world.client with queue := queue } }) ∨
        ∃ data reply, UdpClient.awaitReply runtime world.client.secret pending.seq
            world.client.queue = (some (data, reply), queue) ∧
          next = world.finish runtime { world.client with queue := queue } method pending.seq
            reply) := by
  rcases Option.map_eq_some_iff.mp polled with ⟨⟨method, pending⟩, waiting, rfl⟩
  refine ⟨method, pending, waiting, ?_⟩
  rcases awaited : UdpClient.awaitReply runtime world.client.secret pending.seq
    world.client.queue with ⟨ended, queue⟩
  refine ⟨queue, ?_⟩
  cases ended with
  | none =>
      refine .inl ⟨rfl, ?_⟩
      dsimp only
      rw [awaited]
  | some ending =>
      refine .inr ⟨ending.1, ending.2, rfl, ?_⟩
      dsimp only
      rw [awaited]

variable [DecidableEq Addr] {home : Addr}

theorem grows_of_step {world next : OpenWorld Addr} {event : OpenEvent Addr}
    (stepped : world.step runtime home event = some next) : Grows world next := by
  cases event with
  | call method => exact (call_cases stepped).1
  | expire => exact (expire_cases stepped).1
  | poll =>
      rcases poll_cases stepped with ⟨_, _, _, _, ⟨_, rfl⟩ | ⟨_, _, _, rfl⟩⟩ <;>
        exact ⟨List.Subset.refl _, List.Subset.refl _⟩
  | close =>
      rw [OpenWorld.step] at stepped
      split at stepped
      · cases stepped
      · cases stepped
        exact ⟨List.Subset.refl _, List.Subset.refl _⟩
  | deliverToServer data addr draw =>
      cases stepped
      exact ⟨List.Subset.refl _, List.subset_append_left _ _⟩
  | deliverToClient data =>
      cases stepped
      exact ⟨List.Subset.refl _, List.Subset.refl _⟩

/-- Only a datagram that reaches the server from the client's address is
dispatched. -/
theorem dispatched_of_step {world next : OpenWorld Addr} {event : OpenEvent Addr}
    (stepped : world.step runtime home event = some next) :
    next.dispatched = world.dispatched ∨
      ∃ data draw, event = .deliverToServer data home draw ∧
        next = world.deliver runtime home data home draw := by
  cases event with
  | call method => exact .inl (call_cases stepped).2.2
  | expire => exact .inl (expire_cases stepped).2.2
  | poll =>
      rcases poll_cases stepped with ⟨_, _, _, _, ⟨_, rfl⟩ | ⟨_, _, _, rfl⟩⟩ <;> exact .inl rfl
  | close =>
      rw [OpenWorld.step] at stepped
      split at stepped
      · cases stepped
      · cases stepped
        exact .inl rfl
  | deliverToServer data addr draw =>
      cases stepped
      by_cases here : addr = home
      · subst here
        exact .inr ⟨data, draw, rfl, rfl⟩
      · exact .inl (if_neg here)
  | deliverToClient data =>
      cases stepped
      exact .inl rfl

/-- Only a look into the queue makes a request return. -/
theorem returned_of_step {world next : OpenWorld Addr} {event : OpenEvent Addr}
    (stepped : world.step runtime home event = some next) :
    next.returned = world.returned ∨
      ∃ method pending data reply queue, event = .poll ∧ world.pending = some (method, pending) ∧
        UdpClient.awaitReply runtime world.client.secret pending.seq world.client.queue =
          (some (data, .ok reply), queue) ∧
        next.returned = world.returned ++ [(pending.seq, reply)] := by
  cases event with
  | call method => exact .inl (call_cases stepped).2.1
  | expire => exact .inl (expire_cases stepped).2.1
  | poll =>
      rcases poll_cases stepped with
        ⟨method, pending, waiting, queue, ⟨_, rfl⟩ | ⟨data, reply, awaited, rfl⟩⟩
      · exact .inl rfl
      · cases reply with
        | error raised => exact .inl (List.append_nil _)
        | ok reply => exact .inr ⟨method, pending, data, reply, queue, rfl, waiting, awaited, rfl⟩
  | close =>
      rw [OpenWorld.step] at stepped
      split at stepped
      · cases stepped
      · cases stepped
        exact .inl rfl
  | deliverToServer data addr draw =>
      cases stepped
      exact .inl rfl
  | deliverToClient data =>
      cases stepped
      exact .inl rfl

/-- A step adds nothing to the client's queue but what it delivers. -/
theorem queue_of_step {world next : OpenWorld Addr} {event : OpenEvent Addr}
    (stepped : world.step runtime home event = some next) {data : Bytes}
    (member : data ∈ next.client.queue) :
    data ∈ world.client.queue ∨ event = .deliverToClient data := by
  cases event with
  | call method =>
      have same := UdpClient.Method.queue_begin runtime world.client method
      rw [OpenWorld.step, OpenWorld.call] at stepped
      split at stepped
      · cases stepped
      · rcases began : method.begin runtime world.client with ⟨client, attempt⟩
        rw [began] at stepped same
        cases attempt with
        | raised error =>
            cases stepped
            rw [queue_finish, same] at member
            exact .inl member
        | waiting pending data =>
            cases stepped
            exact .inl (same ▸ member)
  | expire =>
      rcases Option.map_eq_some_iff.mp stepped with ⟨⟨method, pending⟩, _, rfl⟩
      have same := UdpClient.queue_expire runtime world.client pending
      dsimp only at member
      rcases expired : world.client.expire runtime pending with ⟨client, attempt⟩
      rw [expired] at same member
      cases attempt with
      | raised error =>
          rw [queue_finish, same] at member
          exact .inl member
      | waiting again data => exact .inl (same ▸ member)
  | poll =>
      rcases poll_cases stepped with ⟨_, _, _, _, ⟨awaited, rfl⟩ | ⟨_, _, awaited, rfl⟩⟩
      · exact .inl (UdpClient.mem_awaitReply awaited member)
      · rw [queue_finish] at member
        exact .inl (UdpClient.mem_awaitReply awaited member)
  | close =>
      rw [OpenWorld.step] at stepped
      split at stepped
      · cases stepped
      · cases stepped
        exact .inl member
  | deliverToServer data addr draw =>
      cases stepped
      exact .inl member
  | deliverToClient data =>
      cases stepped
      rcases List.mem_append.mp member with old | new
      · exact .inl old
      · exact .inr (by rw [List.mem_singleton.mp new])

/-! ## Runs -/

/-- Both ends hold the secret. -/
structure Keyed (secret : Bytes) (world : OpenWorld Addr) : Prop where
  server : world.server.secret = secret
  sound : world.server.Sound
  client : world.client.secret = secret

omit [DecidableEq Addr] in
theorem keyed_start (dedupSize : Nat) (clientId : String) (maxRetries : Nat) :
    Keyed secret (start secret dedupSize clientId maxRetries : OpenWorld Addr) :=
  ⟨rfl, UdpServer.sound_start secret dedupSize, rfl⟩

theorem Keyed.step {world next : OpenWorld Addr} (keyed : Keyed secret world)
    {event : OpenEvent Addr} (stepped : world.step runtime home event = some next) :
    Keyed secret next := by
  cases event with
  | call method =>
      have same := UdpClient.Method.secret_begin runtime world.client method
      rw [OpenWorld.step, OpenWorld.call] at stepped
      split at stepped
      · cases stepped
      · rcases began : method.begin runtime world.client with ⟨client, attempt⟩
        rw [began] at stepped same
        cases attempt with
        | raised error =>
            cases stepped
            exact ⟨keyed.server, keyed.sound,
              (UdpClient.Method.kept_after ..).1.trans (same.trans keyed.client)⟩
        | waiting pending data =>
            cases stepped
            exact ⟨keyed.server, keyed.sound, same.trans keyed.client⟩
  | expire =>
      rcases Option.map_eq_some_iff.mp stepped with ⟨⟨method, pending⟩, _, rfl⟩
      have same := UdpClient.secret_expire runtime world.client pending
      dsimp only
      rcases expired : world.client.expire runtime pending with ⟨client, attempt⟩
      rw [expired] at same
      cases attempt with
      | raised error =>
          exact ⟨keyed.server, keyed.sound,
            (UdpClient.Method.kept_after ..).1.trans (same.trans keyed.client)⟩
      | waiting again data => exact ⟨keyed.server, keyed.sound, same.trans keyed.client⟩
  | poll =>
      rcases poll_cases stepped with ⟨_, _, _, _, ⟨_, rfl⟩ | ⟨_, _, _, rfl⟩⟩
      · exact ⟨keyed.server, keyed.sound, keyed.client⟩
      · exact ⟨keyed.server, keyed.sound, (UdpClient.Method.kept_after ..).1.trans keyed.client⟩
  | close =>
      rw [OpenWorld.step] at stepped
      split at stepped
      · cases stepped
      · cases stepped
        exact ⟨keyed.server, keyed.sound, keyed.client⟩
  | deliverToServer data addr draw =>
      cases stepped
      have receipt := UdpServer.onDatagram_receipt runtime keyed.sound data addr draw
      exact ⟨receipt.secret.trans keyed.server, receipt.sound keyed.sound, keyed.client⟩
  | deliverToClient data =>
      cases stepped
      exact ⟨keyed.server, keyed.sound, keyed.client⟩

/-- While only frames of the client have been dispatched, a step dispatches
nothing else exactly if it reflects nothing. -/
theorem Keyed.genuine_iff {world : OpenWorld Addr} (keyed : Keyed secret world)
    (own : world.DispatchesOwn runtime secret) {event : OpenEvent Addr} (signed : Signed runtime secret world event) :
    Genuine runtime secret home world event <-> Unreflected runtime secret home world event := by
  constructor
  · rintro genuine data draw frame rfl decoded missed ahead _
    have receipt := UdpServer.onDatagram_receipt runtime keyed.sound data home draw
    have ran := receipt.dispatches (by rw [keyed.server]; exact decoded) missed ahead
    apply genuine (world.deliver runtime home data home draw) rfl
    rw [deliver]
    dsimp only
    rw [if_pos rfl, ran]
    exact List.mem_append_right _ (List.mem_singleton_self frame)
  · intro unreflected next stepped frame member
    have kept : world.sent runtime secret ⊆ next.sent runtime secret :=
      (grows_of_step stepped).sent
    rcases dispatched_of_step stepped with same | ⟨data, draw, rfl, rfl⟩
    · rw [same] at member
      exact kept (own frame member)
    · have receipt := UdpServer.onDatagram_receipt runtime keyed.sound data home draw
      rw [deliver] at member
      dsimp only at member
      rw [if_pos rfl] at member
      rcases List.mem_append.mp member with before | now
      · exact kept (own frame before)
      · rcases receipt.dispatched with silent | ⟨other, decoded, missed, ahead, ran⟩
        · rw [silent] at now
          cases now
        · rw [ran] at now
          cases List.mem_singleton.mp now
          rw [keyed.server] at decoded
          rcases signed_of_decode (signed.1 data home draw rfl) decoded with sent | written
          · exact kept sent
          · exact kept (unreflected data draw frame rfl decoded missed ahead written)

/-- A state of a run whose steps have reflected nothing. -/
structure Directed (runtime : Runtime) (secret : Bytes) (world : OpenWorld Addr) : Prop where
  keyed : Keyed secret world
  own : world.DispatchesOwn runtime secret

/-- A state of a run in which the client was handed whole datagrams. -/
structure Faithful (runtime : Runtime) (secret : Bytes) (world : OpenWorld Addr) : Prop where
  keyed : Keyed secret world
  answers : world.ReturnsAnswers runtime secret
  queue : forall data, data ∈ world.client.queue -> world.Intact runtime secret data

omit [DecidableEq Addr] in
/-- The frame that a request takes from an intact datagram is an answer. -/
theorem Faithful.answers_of_awaitReply {world : OpenWorld Addr}
    (faithful : Faithful runtime secret world) {pending : Pending} {data : Bytes} {reply : Frame}
    {queue : List Bytes}
    (awaited : UdpClient.awaitReply runtime world.client.secret pending.seq world.client.queue =
      (some (data, .ok reply), queue)) : world.Answers runtime secret pending.seq reply := by
  rw [faithful.keyed.client] at awaited
  have ended := UdpClient.awaitReply_ended awaited
  rcases UdpClient.judge_returned (ended.2 reply rfl) with ⟨first, rest, split, own, last, success⟩
  have ack : first.msgType = .ack := by
    by_contra other
    rw [UdpClient.answersSeq, if_neg other] at own
    cases own
  rcases faithful.queue data ended.1 first rest split ack (last ▸ success) with
    ⟨sent, others, inside, whole, same⟩
  exact ⟨sent, first, others, inside, whole, own, last.trans same.symm⟩

/-- Whole datagrams keep the queue intact, and what is returned an answer. -/
theorem Faithful.step {world next : OpenWorld Addr} (faithful : Faithful runtime secret world)
    {event : OpenEvent Addr} (whole : Whole runtime secret world event)
    (stepped : world.step runtime home event = some next) : Faithful runtime secret next := by
  have grows := grows_of_step stepped
  refine ⟨faithful.keyed.step stepped, ?_, ?_⟩
  · intro seq reply member
    rcases returned_of_step stepped with same |
      ⟨method, pending, data, answer, queue, rfl, waiting, awaited, grown⟩
    · rw [same] at member
      exact grows.answers (faithful.answers seq reply member)
    · rw [grown] at member
      rcases List.mem_append.mp member with before | now
      · exact grows.answers (faithful.answers seq reply before)
      · cases List.mem_singleton.mp now
        exact grows.answers (faithful.answers_of_awaitReply awaited)
  · intro data member
    rcases queue_of_step stepped member with old | delivered
    · exact grows.intact (faithful.queue data old)
    · exact grows.intact (whole data delivered)

/-! ## The handshake -/

section

variable (secret) (dedupSize : Nat) (clientId : String) (maxRetries : Nat) (nonce : Nonce)
  (draw : Draw)

/-- The first request of a client. -/
def greeting : Pending := ⟨.hello, encodeHello clientId nonce.text, 0, 0⟩

/-- The acknowledgement of the first request. -/
def firstAck : Frame := ⟨.ack, (0 : Nat), encodeAck 0, 0⟩

/-- The reply to the first request. -/
def firstReply : Frame :=
  ⟨.helloAck, ((0 + 1) &&& maxSeq : Nat), encodeHelloAck draw.sessionId.text draw.nonce.text, 0⟩

/-- A client that waits for the reply to its HELLO. -/
def connecting (raw : Bytes) : OpenWorld Addr :=
  { start secret dedupSize clientId maxRetries with
    client := { UdpClient.init secret clientId maxRetries with
      transport := true, sendto := true, state := .handshake, outSeq := (0 + 1) &&& maxSeq }
    pending := some (.connect nonce, greeting clientId nonce)
    toServer := [raw] }

variable {secret} {clientId} {nonce} {raw : Bytes}
  (encoded : encode runtime.toDigests (greeting clientId nonce).frame secret = .ok raw)
include encoded

theorem step_connect :
    (start secret dedupSize clientId maxRetries : OpenWorld Addr).step runtime home
        (.call (.connect nonce)) =
      some (connecting secret dedupSize clientId maxRetries nonce raw) := by
  have waits : (UdpClient.init secret clientId maxRetries).connect runtime nonce = _ :=
    UdpClient.connect_waiting encoded
  have idle : ¬ (start secret dedupSize clientId maxRetries : OpenWorld Addr).pending.isSome :=
    Bool.false_ne_true
  have began : UdpClient.Method.begin runtime
      (start secret dedupSize clientId maxRetries : OpenWorld Addr).client (.connect nonce) = _ :=
    waits
  rw [OpenWorld.step, OpenWorld.call, if_neg idle, began]
  rfl

variable (home) in
/-- The server acknowledges the HELLO and replies, in one datagram. -/
theorem step_hello : ∃ stored world peer,
    (connecting secret dedupSize clientId maxRetries nonce raw : OpenWorld Addr).step runtime home
        (.deliverToServer raw home draw) = some world ∧
      join runtime.toDigests secret [firstAck, firstReply draw] = .ok stored ∧
      world.client = (connecting secret dedupSize clientId maxRetries nonce raw :
        OpenWorld Addr).client ∧
      world.pending = some (.connect nonce, greeting clientId nonce) ∧
      world.toServer = [raw] ∧ world.toClient = [stored] ∧
      world.dispatched = [(greeting clientId nonce).frame] ∧ world.returned = [] ∧
      Keyed secret world ∧ world.server.peers home = some peer ∧
      peer.session.lastPeerSeq = 0 ∧ peer.dedup.get (firstReply draw).seq = none := by
  have sound : (UdpServer.start secret dedupSize : UdpServer Addr).Sound :=
    UdpServer.sound_start secret dedupSize
  have unknown : (UdpServer.start secret dedupSize : UdpServer Addr).peers home = none := rfl
  have accepted : (-1 : Int) < (0 : Nat) := by decide
  rcases UdpServer.onDatagram_replied runtime sound (decode_of_encode runtime.toDigests encoded)
    (greeting clientId nonce).asks (UdpServer.peer_of_unknown unknown draw) rfl
    (onFrame_welcomed runtime draw.nonce rfl accepted rfl
      (decodeHello_encodeHello runtime clientId nonce.text)) rfl rfl with
    ⟨stored, joined, delivered⟩
  have keyed : Keyed secret (connecting secret dedupSize clientId maxRetries nonce raw :
      OpenWorld Addr) := ⟨rfl, sound, rfl⟩
  have server : (connecting secret dedupSize clientId maxRetries nonce raw :
      OpenWorld Addr).server = .start secret dedupSize := rfl
  have stepped : (connecting secret dedupSize clientId maxRetries nonce raw :
      OpenWorld Addr).step runtime home (.deliverToServer raw home draw) = some _ := rfl
  have still := keyed.step stepped
  have later : (firstReply draw).seq ≠ (greeting clientId nonce).frame.seq :=
    show (((0 + 1) &&& maxSeq : Nat) : Int) ≠ (0 : Nat) by decide
  rw [deliver, server, delivered] at stepped still
  refine ⟨stored, _, _, stepped, joined, rfl, rfl, rfl, rfl, ?_, rfl, still,
    UdpServer.peers_settle_self .., rfl, DedupWindow.get_put_empty dedupSize later stored⟩
  exact if_pos rfl

/-- A property of the steps of a handshake and of what follows. -/
theorem along_hello {holds : OpenWorld Addr -> OpenEvent Addr -> Prop}
    {rest : List (OpenEvent Addr)}
    (called : holds (start secret dedupSize clientId maxRetries) (.call (.connect nonce)))
    (greeted : holds (connecting secret dedupSize clientId maxRetries nonce raw)
      (.deliverToServer raw home draw))
    (later : forall world : OpenWorld Addr,
      (connecting secret dedupSize clientId maxRetries nonce raw).step runtime home
          (.deliverToServer raw home draw) = some world ->
        Execution.Along (step runtime home) holds world rest) :
    Execution.Along (step runtime home) holds (start secret dedupSize clientId maxRetries)
      (.call (.connect nonce) :: .deliverToServer raw home draw :: rest) := by
  refine ⟨called, ?_⟩
  intro world stepped
  rw [step_connect dedupSize maxRetries encoded] at stepped
  cases stepped
  exact ⟨greeted, later⟩

/-- The HELLO is delivered as it was sent, and then something that has been
signed. -/
theorem signed_hello {rest : List (OpenEvent Addr)}
    (later : forall world : OpenWorld Addr,
      (connecting secret dedupSize clientId maxRetries nonce raw).step runtime home
          (.deliverToServer raw home draw) = some world ->
        Execution.Along (step runtime home) (Signed runtime secret) world rest) :
    Execution.Along (step runtime home) (Signed runtime secret)
      (start secret dedupSize clientId maxRetries)
      (.call (.connect nonce) :: .deliverToServer raw home draw :: rest) := by
  apply along_hello dedupSize maxRetries draw encoded _ _ later
  · exact ⟨by rintro _ _ _ ⟨⟩, by rintro _ ⟨⟩⟩
  · refine ⟨?_, by rintro _ ⟨⟩⟩
    rintro data addr draw ⟨⟩
    have member : (greeting clientId nonce).frame ∈
        (connecting secret dedupSize clientId maxRetries nonce raw : OpenWorld Addr).sent runtime
          secret :=
      mem_sent_iff.mpr ⟨raw, List.mem_singleton_self raw, decode_of_encode runtime.toDigests encoded⟩
    exact unforged_signed (List.mem_append_left _ member) encoded

variable (home) in
/-- The server's reply comes back to it from the client's address. -/
theorem reflect_reply : ∃ reflected world,
    encode runtime.toDigests (firstReply draw) secret = .ok reflected ∧
      Execution.Along (step runtime home) (Signed runtime secret)
        (start secret dedupSize clientId maxRetries : OpenWorld Addr)
        [.call (.connect nonce), .deliverToServer raw home draw,
          .deliverToServer reflected home draw] ∧
      Execution.run (step runtime home)
        (start secret dedupSize clientId maxRetries : OpenWorld Addr)
        [.call (.connect nonce), .deliverToServer raw home draw,
          .deliverToServer reflected home draw] = some world ∧
      firstReply draw ∈ world.dispatched ∧ firstReply draw ∉ world.sent runtime secret := by
  rcases step_hello home dedupSize maxRetries draw encoded with ⟨stored, world, peer, stepped, joined,
    client, pending, toServer, toClient, dispatched, returned, keyed, known, last, missed⟩
  have both := (splitDatagram_ok_iff runtime.toDigests).mpr joined
  have written : firstReply draw ∈ world.written runtime secret :=
    mem_written_iff.mpr ⟨stored, _, by rw [toClient]; exact List.mem_singleton_self stored, both,
      List.mem_cons_of_mem _ (List.mem_singleton_self _)⟩
  rcases exists_encode runtime.toDigests (encodable_signed (List.mem_append_right _ written)) secret
    with ⟨reflected, again⟩
  have decoded := decode_of_encode runtime.toDigests again
  rw [← keyed.server] at decoded
  have here := UdpServer.peer_of_known known draw
  have ran := (UdpServer.onDatagram_receipt runtime keyed.sound reflected home draw).dispatches decoded
    (by rw [here]; exact missed)
    (by rw [here, last]; exact (show (0 : Int) < ((0 + 1) &&& maxSeq : Nat) by decide))
  have signed : Execution.Along (step runtime home) (Signed runtime secret)
      (start secret dedupSize clientId maxRetries : OpenWorld Addr)
      [.call (.connect nonce), .deliverToServer raw home draw,
        .deliverToServer reflected home draw] := by
    apply signed_hello dedupSize maxRetries draw encoded
    intro other same
    rw [stepped] at same
    cases same
    refine ⟨⟨?_, by rintro _ ⟨⟩⟩, fun _ _ => trivial⟩
    rintro data addr draw ⟨⟩
    exact unforged_signed (List.mem_append_right _ written) again
  refine ⟨reflected, _, again, signed, Execution.run_of_step _ (step_connect dedupSize maxRetries encoded)
    (Execution.run_of_step _ stepped (Execution.run_single _ rfl)), ?_, ?_⟩
  · rw [deliver]
    dsimp only
    rw [if_pos rfl, ran]
    exact List.mem_append_right _ (List.mem_singleton_self _)
  · intro member
    rcases mem_sent_iff.mp member with ⟨data, inside, found⟩
    rw [deliver] at inside
    dsimp only at inside
    rw [toServer, List.mem_singleton] at inside
    rw [inside, decode_of_encode runtime.toDigests encoded] at found
    have kinds := congrArg Frame.msgType (Except.ok.inj found)
    cases kinds

variable (home) in
/-- After the handshake the client is handed frames of the server's answer,
and takes the last one. -/
theorem hand_reply {frames : List Frame} (parts : frames ⊆ [firstAck, firstReply draw]) {data : Bytes}
    (handed : join runtime.toDigests secret frames = .ok data) {reply : Frame}
    (judged : UdpClient.judge runtime secret (0 : Nat) data = .returned reply) :
    ∃ stored world, join runtime.toDigests secret [firstAck, firstReply draw] = .ok stored ∧
      Execution.Along (step runtime home) (Signed runtime secret)
        (start secret dedupSize clientId maxRetries : OpenWorld Addr)
        [.call (.connect nonce), .deliverToServer raw home draw, .deliverToClient data, .poll] ∧
      Execution.run (step runtime home)
        (start secret dedupSize clientId maxRetries : OpenWorld Addr)
        [.call (.connect nonce), .deliverToServer raw home draw, .deliverToClient data, .poll] =
          some world ∧
      (data = stored -> Execution.Along (step runtime home) (Whole runtime secret)
        (start secret dedupSize clientId maxRetries : OpenWorld Addr)
        [.call (.connect nonce), .deliverToServer raw home draw, .deliverToClient data, .poll]) ∧
      world.toClient = [stored] ∧ world.dispatched = [(greeting clientId nonce).frame] ∧
      world.returned = [(0, reply)] := by
  rcases step_hello home dedupSize maxRetries draw encoded with ⟨stored, world, peer, stepped, joined,
    client, pending, toServer, toClient, dispatched, returned, keyed, known, last, missed⟩
  have both := (splitDatagram_ok_iff runtime.toDigests).mpr joined
  have signed : Execution.Along (step runtime home) (Signed runtime secret)
      (start secret dedupSize clientId maxRetries : OpenWorld Addr)
      [.call (.connect nonce), .deliverToServer raw home draw, .deliverToClient data, .poll] := by
    apply signed_hello dedupSize maxRetries draw encoded
    intro other same
    rw [stepped] at same
    cases same
    refine ⟨⟨by rintro _ _ _ ⟨⟩, ?_⟩, ?_⟩
    · rintro data ⟨⟩ front frames rest part split
      apply unforged_of_join runtime.toDigests handed _ part split
      intro frame member
      exact List.mem_append_right _ (mem_written_iff.mpr ⟨stored, _,
        by rw [toClient]; exact List.mem_singleton_self stored, both, parts member⟩)
    · intro next stepped
      cases stepped
      exact ⟨⟨by rintro _ _ _ ⟨⟩, by rintro _ ⟨⟩⟩, fun _ _ => trivial⟩
  have whole (same : data = stored) : Execution.Along (step runtime home) (Whole runtime secret)
      (start secret dedupSize clientId maxRetries : OpenWorld Addr)
      [.call (.connect nonce), .deliverToServer raw home draw, .deliverToClient data, .poll] := by
    apply along_hello dedupSize maxRetries draw encoded (by rintro _ ⟨⟩) (by rintro _ ⟨⟩)
    intro other found
    rw [stepped] at found
    cases found
    refine ⟨?_, fun next _ => ⟨by rintro _ ⟨⟩, fun _ _ => trivial⟩⟩
    rintro data ⟨⟩
    apply intact_of_mem
    rw [toClient, same]
    exact List.mem_singleton_self stored
  have received : (world.client.datagramReceived data).queue = [data] := by
    rw [UdpClient.datagramReceived, client]
    rfl
  have awaited : UdpClient.awaitReply runtime secret (0 : Nat) [data] = (some (data, .ok reply), []) := by
    rw [UdpClient.awaitReply, judged]
  let delivered : OpenWorld Addr := { world with client := world.client.datagramReceived data }
  have polled : delivered.poll runtime = some (delivered.finish runtime
      { delivered.client with queue := [] } (.connect nonce) 0 (.ok reply)) := by
    have number : (greeting clientId nonce).seq = 0 := rfl
    have waiting : delivered.pending = some (.connect nonce, greeting clientId nonce) := pending
    have key : delivered.client.secret = secret := keyed.client
    have queue : delivered.client.queue = [data] := received
    rw [OpenWorld.poll, waiting, Option.map_some]
    dsimp only
    rw [key, queue, number, awaited]
  refine ⟨stored, _, joined, signed, Execution.run_of_step _ (step_connect dedupSize maxRetries encoded)
    (Execution.run_of_step _ stepped (Execution.run_of_step _ rfl (Execution.run_single _ polled))),
    whole, toClient, dispatched, ?_⟩
  exact congrArg (· ++ [(0, reply)]) returned

variable (home) in
/-- The acknowledgement is cut off and delivered without the reply. -/
theorem cut_reply : ∃ cut world, encode runtime.toDigests firstAck secret = .ok cut ∧
      Execution.Along (step runtime home) (Signed runtime secret)
        (start secret dedupSize clientId maxRetries : OpenWorld Addr)
        [.call (.connect nonce), .deliverToServer raw home draw, .deliverToClient cut, .poll] ∧
      Execution.run (step runtime home)
        (start secret dedupSize clientId maxRetries : OpenWorld Addr)
        [.call (.connect nonce), .deliverToServer raw home draw, .deliverToClient cut, .poll] =
          some world ∧
      (0, firstAck) ∈ world.returned ∧ ¬ world.Answers runtime secret 0 firstAck := by
  have range : (0 : Int) ≤ (0 : Nat) ∧ ((0 : Nat) : Int) ≤ maxSeq := by decide
  have encodable : Encodable firstAck := encodable_plain (by decide) range
  rcases exists_encode runtime.toDigests encodable secret with ⟨cut, again⟩
  have single := join_single runtime.toDigests again
  have judged : UdpClient.judge runtime secret (0 : Nat) cut = .returned firstAck :=
    UdpClient.judge_join range single
  rcases hand_reply home dedupSize maxRetries draw encoded
    (List.cons_subset.mpr ⟨List.mem_cons_self, List.nil_subset _⟩) single judged with
    ⟨stored, world, joined, signed, reached, _, toClient, _, returned⟩
  have both := (splitDatagram_ok_iff runtime.toDigests).mpr joined
  refine ⟨cut, world, again, signed, reached, by rw [returned]; exact List.mem_singleton_self _, ?_⟩
  rintro ⟨data, first, rest, sent, split, _, same⟩
  rw [toClient, List.mem_singleton] at sent
  rw [sent, both] at split
  cases split
  have kinds := congrArg Frame.msgType same
  cases kinds

end

variable (runtime) (secret) (home) in
/-- In every run of the adversary, the server dispatches the frames of the
client only, exactly if it is not sent a new frame of its own.  While the
datagrams that the client is handed are whole, its requests return the answers
of the server only. -/
theorem authentic (dedupSize : Nat) (clientId : String) (maxRetries : Nat)
    {events : List (OpenEvent Addr)}
    (signed : Execution.Along (step runtime home) (Signed runtime secret)
      (start secret dedupSize clientId maxRetries) events) :
    (Execution.Along (step runtime home) (Genuine runtime secret home)
          (start secret dedupSize clientId maxRetries) events <->
        Execution.Along (step runtime home) (Unreflected runtime secret home)
          (start secret dedupSize clientId maxRetries) events) ∧
      (Execution.Along (step runtime home) (Whole runtime secret)
          (start secret dedupSize clientId maxRetries) events ->
        Execution.Along (step runtime home) (Answered runtime secret home)
          (start secret dedupSize clientId maxRetries) events) := by
  have keyed : Keyed secret (start secret dedupSize clientId maxRetries : OpenWorld Addr) :=
    keyed_start dedupSize clientId maxRetries
  have directed : Directed runtime secret
      (start secret dedupSize clientId maxRetries : OpenWorld Addr) := by
    refine ⟨keyed, ?_⟩
    intro frame member
    cases member
  have faithful : Faithful runtime secret
      (start secret dedupSize clientId maxRetries : OpenWorld Addr) := by
    refine ⟨keyed, ?_, ?_⟩
    · intro seq reply member
      cases member
    · intro data member
      cases member
  constructor
  · apply Execution.along_iff_of_along _ _ _ directed signed
    · intro world event directed signed
      exact directed.keyed.genuine_iff directed.own signed
    · intro world event next directed signed genuine stepped
      exact ⟨directed.keyed.step stepped, genuine next stepped⟩
  · apply Execution.along_of_along _ _ _ faithful
    · intro world event next faithful whole stepped
      exact faithful.step whole stepped
    · intro world event faithful whole next stepped
      exact (faithful.step whole stepped).answers

/-- The world of the examples: one address, the client's. -/
def reference : OpenWorld Unit := start Reference.secret 1 "client" 1

theorem greeting_encodable : Encodable (greeting "client" Reference.nonce).frame := by
  have range : (0 : Int) ≤ (0 : Nat) ∧ ((0 : Nat) : Int) ≤ maxSeq := by decide
  exact encodable_requireAck Reference.hello_fits range

/-- A handshake whose answer is delivered whole, and the reply that `connect`
takes from it. -/
theorem authentic_hello : ∃ raw stored world,
    let events : List (OpenEvent Unit) := [.call (.connect Reference.nonce),
      .deliverToServer raw () ⟨Reference.sessionId, Reference.nonce⟩, .deliverToClient stored, .poll]
    Execution.run (step Reference.runtime ()) reference events = some world ∧
      world.dispatched = [(greeting "client" Reference.nonce).frame] ∧
      world.returned = [(0, firstReply ⟨Reference.sessionId, Reference.nonce⟩)] ∧
      Execution.Along (step Reference.runtime ()) (Genuine Reference.runtime Reference.secret ())
        reference events ∧
      Execution.Along (step Reference.runtime ()) (Answered Reference.runtime Reference.secret ())
        reference events := by
  rcases exists_encode Reference.runtime.toDigests greeting_encodable Reference.secret with
    ⟨raw, encoded⟩
  have encodable : forall frame, frame ∈ [firstAck,
      firstReply ⟨Reference.sessionId, Reference.nonce⟩] -> Encodable frame := by decide
  rcases exists_join Reference.runtime.toDigests Reference.secret encodable with ⟨stored, joined⟩
  have judged : UdpClient.judge Reference.runtime Reference.secret (0 : Nat) stored =
      .returned (firstReply ⟨Reference.sessionId, Reference.nonce⟩) :=
    (UdpClient.judge_join (by decide) joined).trans (UdpClient.takeReply_success (by decide))
  rcases hand_reply () 1 1 ⟨Reference.sessionId, Reference.nonce⟩ encoded (List.Subset.refl _) joined
    judged with ⟨other, world, same, signed, reached, whole, _, dispatched, returned⟩
  cases joined.symm.trans same
  have results := authentic Reference.runtime Reference.secret () 1 "client" 1 signed
  refine ⟨raw, stored, world, reached, dispatched, returned, results.1.mpr ?_, results.2 (whole rfl)⟩
  apply along_hello 1 1 ⟨Reference.sessionId, Reference.nonce⟩ encoded (by rintro _ _ _ ⟨⟩)
  · rintro _ _ _ ⟨⟩ _ _ _ written
    cases written
  · intro next _
    exact ⟨by rintro _ _ _ ⟨⟩, fun _ _ => ⟨by rintro _ _ _ ⟨⟩, fun _ _ => trivial⟩⟩

/-- The server dispatches its own HELLO_ACK, and `connect` gets the bare
acknowledgement for its reply. -/
theorem reply_reflected_and_cut : ∃ raw,
    (∃ reflected world,
      Execution.Along (step Reference.runtime ()) (Signed Reference.runtime Reference.secret)
        reference [.call (.connect Reference.nonce),
          .deliverToServer raw () ⟨Reference.sessionId, Reference.nonce⟩,
          .deliverToServer reflected () ⟨Reference.sessionId, Reference.nonce⟩] ∧
      Execution.run (step Reference.runtime ()) reference [.call (.connect Reference.nonce),
          .deliverToServer raw () ⟨Reference.sessionId, Reference.nonce⟩,
          .deliverToServer reflected () ⟨Reference.sessionId, Reference.nonce⟩] = some world ∧
      ¬ world.DispatchesOwn Reference.runtime Reference.secret) ∧
    ∃ cut world,
      Execution.Along (step Reference.runtime ()) (Signed Reference.runtime Reference.secret)
        reference [.call (.connect Reference.nonce),
          .deliverToServer raw () ⟨Reference.sessionId, Reference.nonce⟩,
          .deliverToClient cut, .poll] ∧
      Execution.run (step Reference.runtime ()) reference [.call (.connect Reference.nonce),
          .deliverToServer raw () ⟨Reference.sessionId, Reference.nonce⟩,
          .deliverToClient cut, .poll] = some world ∧
      ¬ world.ReturnsAnswers Reference.runtime Reference.secret := by
  rcases exists_encode Reference.runtime.toDigests greeting_encodable Reference.secret with
    ⟨raw, encoded⟩
  rcases reflect_reply () 1 1 ⟨Reference.sessionId, Reference.nonce⟩ encoded with
    ⟨reflected, world, _, signed, reached, dispatched, foreign⟩
  rcases cut_reply () 1 1 ⟨Reference.sessionId, Reference.nonce⟩ encoded with
    ⟨cut, other, _, alsoSigned, alsoReached, returned, unanswered⟩
  exact ⟨raw, ⟨reflected, world, signed, reached, fun own => foreign (own _ dispatched)⟩,
    cut, other, alsoSigned, alsoReached, fun answers => unanswered (answers 0 _ returned)⟩

end OpenWorld
end Wireline
