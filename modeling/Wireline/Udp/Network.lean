import Wireline.Udp.Client

namespace Wireline

/-!
# One server, one client, and a network between them

The network keeps every datagram that was ever sent.  It may deliver any of
them, any number of times, in any order, or never; it delivers nothing else.
A run interleaves these deliveries with the steps of the client, which issues
its requests one after another, and with its timeouts.

Some fields record what happened and decide nothing: the requests by their
numbers, the results of the calls, the handlers that ran, and for each answer
the datagram that caused it.
-/

structure Request where
  msgType : MsgType
  payload : Bytes

/-- A datagram from the server, and the datagram it was sent in answer to. -/
structure Answer where
  data : Bytes
  cause : Bytes

/-- A call of `request` that is over: its number, the datagram that ended it
if one did, and what it returned or raised. -/
structure Completed where
  request : Request
  seq : Nat
  source : Option Bytes
  result : Except PyError Frame

structure World (Addr : Type) where
  server : UdpServer Addr
  client : UdpClient
  pending : Option Pending
  toServer : List Bytes
  toClient : List Answer
  issued : List Request
  completed : List Completed
  handed : List Frame
  calls : List Call

inductive Event
  | connect (nonce : Nonce)
  | request (msgType : MsgType) (payload : Bytes)
  | expire
  | deliver (index : Nat) (draw : Draw)
  | arrive (index : Nat)
  | poll

/-- The fixed parts of a run. -/
structure Deployment (Addr : Type) where
  addr : Addr
  secret : Bytes
  dedupWindow : Nat
  window_pos : 1 ≤ dedupWindow
  clientId : String
  maxRetries : Nat
  requests : List MsgType

namespace World

variable {Addr : Type} (runtime : Runtime) (deployment : Deployment Addr)

def start : World Addr where
  server := .start deployment.secret deployment.dedupWindow
  client := .init deployment.secret deployment.clientId deployment.maxRetries
  pending := none
  toServer := []
  toClient := []
  issued := []
  completed := []
  handed := []
  calls := []

/-- A new request, after its first attempt. -/
def issue (world : World Addr) (request : Request) : UdpClient × Attempt -> World Addr
  | (client, .waiting pending data) =>
      { world with
        client := client, pending := some pending, toServer := world.toServer ++ [data],
        issued := world.issued ++ [request] }
  | (client, .raised error) =>
      { world with
        client := client, issued := world.issued ++ [request],
        completed := world.completed ++ [⟨request, world.client.outSeq, none, .error error⟩] }

/-- The end of the pending call.  The first call of a client is the one that
`connect` waits for. -/
def finish (world : World Addr) (client : UdpClient) (pending : Pending) (source : Option Bytes)
    (result : Except PyError Frame) : World Addr :=
  let request := ⟨pending.msgType, pending.payload⟩
  let completion (client : UdpClient) (result : Except PyError Frame) : World Addr :=
    { world with
      client := client, pending := none,
      completed := world.completed ++ [⟨request, pending.seq, source, result⟩] }
  match result with
  | .error raised => completion client (.error raised)
  | .ok reply =>
      if pending.seq = 0 then
        match client.connected runtime reply with
        | .error raised => completion client (.error raised)
        | .ok client => completion client (.ok reply)
      else completion client (.ok reply)

section

variable [DecidableEq Addr]

/-- A datagram reaches the server.  `handed` restarts with each session. -/
def deliver (world : World Addr) (data : Bytes) (draw : Draw) : World Addr :=
  let delivery := world.server.onDatagram runtime data deployment.addr draw
  let handed := if (world.server.peers deployment.addr).isNone then [] else world.handed
  { world with
    server := delivery.server,
    toClient := world.toClient ++ delivery.sent.map fun sent => ⟨sent.1, data⟩,
    handed := handed ++ delivery.handed.toList,
    calls := world.calls ++ delivery.calls }

def step (world : World Addr) : Event -> Option (World Addr)
  | .connect nonce =>
      if world.issued = [] then
        some (world.issue ⟨.hello, encodeHello world.client.clientId nonce.text⟩
          (world.client.connect runtime nonce))
      else none
  | .request msgType payload =>
      if world.pending.isNone ∧ world.issued ≠ [] ∧ world.issued.length < 2 ^ 32 ∧
          msgType ∈ deployment.requests then
        some (world.issue ⟨msgType, payload⟩ (world.client.begin runtime msgType payload))
      else none
  | .expire =>
      world.pending.map fun pending =>
        match world.client.expire runtime pending with
        | (client, .waiting pending data) =>
            { world with
              client := client, pending := some pending, toServer := world.toServer ++ [data] }
        | (client, .raised error) => world.finish runtime client pending none (.error error)
  | .deliver index draw =>
      world.toServer[index]?.map fun data => world.deliver runtime deployment data draw
  | .arrive index =>
      world.toClient[index]?.map fun answer =>
        { world with client := world.client.datagramReceived answer.data }
  | .poll =>
      world.pending.map fun pending =>
        let (ended, queue) :=
          UdpClient.awaitReply runtime world.client.secret pending.seq world.client.queue
        let client := { world.client with queue := queue }
        match ended with
        | none => { world with client := client }
        | some (data, result) => world.finish runtime client pending (some data) result

end

section

variable [DecidableEq Addr]

/-- The steps that are taken, each with its guard and with what it makes of
the world. -/
inductive Stepped (world : World Addr) : Event -> World Addr -> Prop
  | connect (nonce : Nonce) (fresh : world.issued = []) :
      Stepped world (.connect nonce)
        (world.issue ⟨.hello, encodeHello world.client.clientId nonce.text⟩
          (world.client.connect runtime nonce))
  | request {msgType : MsgType} (payload : Bytes) (later : world.issued ≠ [])
      (room : world.issued.length < 2 ^ 32) (offered : msgType ∈ deployment.requests) :
      Stepped world (.request msgType payload)
        (world.issue ⟨msgType, payload⟩ (world.client.begin runtime msgType payload))
  | retransmit {pending : Pending} {data : Bytes} (held : world.pending = some pending)
      (encoded : encode runtime.toDigests
        (Pending.frame { pending with attempt := pending.attempt + 1 }) world.client.secret =
          .ok data) :
      Stepped world .expire { world with
        client := { world.client with retransmits := world.client.retransmits + 1 },
        pending := some { pending with attempt := pending.attempt + 1 },
        toServer := world.toServer ++ [data] }
  | giveUp (pending : Pending) (error : PyError) :
      Stepped world .expire (world.finish runtime world.client pending none (.error error))
  | deliver {index : Nat} {data : Bytes} (draw : Draw) (found : world.toServer[index]? = some data) :
      Stepped world (.deliver index draw) (world.deliver runtime deployment data draw)
  | arrive {index : Nat} {answer : Answer} (found : world.toClient[index]? = some answer) :
      Stepped world (.arrive index)
        { world with client := world.client.datagramReceived answer.data }
  | wait {pending : Pending} {queue : List Bytes}
      (ended : UdpClient.awaitReply runtime world.client.secret pending.seq world.client.queue =
        (none, queue)) :
      Stepped world .poll { world with client := { world.client with queue := queue } }
  | reply {pending : Pending} {queue : List Bytes} {data : Bytes} {result : Except PyError Frame}
      (held : world.pending = some pending)
      (ended : UdpClient.awaitReply runtime world.client.secret pending.seq world.client.queue =
        (some (data, result), queue)) :
      Stepped world .poll
        (world.finish runtime { world.client with queue := queue } pending (some data) result)

variable {runtime} {deployment} in
theorem step_cases {world next : World Addr} {event : Event}
    (stepped : world.step runtime deployment event = some next) :
    Stepped runtime deployment world event next := by
  cases event with
  | connect nonce =>
      rw [World.step, Option.ite_none_right_eq_some] at stepped
      rw [← Option.some.inj stepped.2]
      exact .connect nonce stepped.1
  | request msgType payload =>
      rw [World.step, Option.ite_none_right_eq_some] at stepped
      rw [← Option.some.inj stepped.2]
      exact .request payload stepped.1.2.1 stepped.1.2.2.1 stepped.1.2.2.2
  | expire =>
      rcases Option.map_eq_some_iff.mp stepped with ⟨pending, held, rfl⟩
      rcases UdpClient.expire_cases runtime world.client pending with
        ⟨data, _, encoded, same⟩ | ⟨error, same⟩
      · rw [same]
        exact .retransmit held encoded
      · rw [same]
        exact .giveUp pending error
  | deliver index draw =>
      rcases Option.map_eq_some_iff.mp stepped with ⟨data, found, rfl⟩
      exact .deliver draw found
  | arrive index =>
      rcases Option.map_eq_some_iff.mp stepped with ⟨answer, found, rfl⟩
      exact .arrive found
  | poll =>
      rcases Option.map_eq_some_iff.mp stepped with ⟨pending, held, rfl⟩
      cases ended : UdpClient.awaitReply runtime world.client.secret pending.seq
          world.client.queue with
      | mk outcome queue =>
          cases outcome with
          | none => exact .wait ended
          | some outcome => exact .reply held ended

end

/-! ## What is on the way to the server -/

/-- A frame that repeats the request of this number, and asks for its
acknowledgement. -/
structure IsCopy (issued : List Request) (seq : Nat) (request : Request) (frame : Frame) : Prop where
  issued : issued[seq]? = some request
  kind : frame.msgType = request.msgType
  number : frame.seq = seq
  payload : frame.payload = request.payload
  asks : Int.land frame.flags flagRequireAck ≠ 0

theorem IsCopy.mono {issued : List Request} {seq : Nat} {request : Request} {frame : Frame}
    (copy : IsCopy issued seq request frame) (more : List Request) :
    IsCopy (issued ++ more) seq request frame := by
  refine ⟨?_, copy.kind, copy.number, copy.payload, copy.asks⟩
  have inside := (List.getElem?_eq_some_iff.mp copy.issued).1
  rw [List.getElem?_append_left inside]
  exact copy.issued

/-- The bookkeeping of a client that numbers its requests, and of the copies
of them that are on the way. -/
structure Traffic (world : World Addr) : Prop where
  clientSecret : world.client.secret = deployment.secret
  serverSecret : world.server.secret = deployment.secret
  sound : world.server.Sound
  numbered : world.client.outSeq = world.issued.length % 2 ^ 32
  bounded : world.issued.length ≤ 2 ^ 32
  connected : world.issued ≠ [] -> world.client.sendto = true
  greeting : forall request, world.issued[0]? = some request ->
    ∃ clientId nonce, request = ⟨.hello, encodeHello clientId nonce⟩
  others : forall seq request, world.issued[seq + 1]? = some request ->
    request.msgType ∈ deployment.requests
  current : forall pending, world.pending = some pending ->
    world.issued[pending.seq]? = some ⟨pending.msgType, pending.payload⟩
  copies : forall data, data ∈ world.toServer -> ∃ frame seq request,
    decode runtime.toDigests data (some deployment.secret) = .ok frame ∧
      IsCopy world.issued seq request frame

theorem traffic_start : Traffic runtime deployment (start deployment) where
  clientSecret := rfl
  serverSecret := rfl
  sound := UdpServer.sound_start deployment.secret deployment.dedupWindow
  numbered := rfl
  bounded := Nat.zero_le _
  connected := fun issued => absurd rfl issued
  greeting := nofun
  others := nofun
  current := nofun
  copies := nofun

section

variable {runtime} {deployment}

theorem pending_isCopy {issued : List Request} {pending : Pending}
    (current : issued[pending.seq]? = some ⟨pending.msgType, pending.payload⟩) :
    IsCopy issued pending.seq ⟨pending.msgType, pending.payload⟩ pending.frame :=
  ⟨current, rfl, rfl, rfl, pending.asks⟩

variable (runtime) in
/-- The end of a call touches the client's side only. -/
theorem finish_eq (world : World Addr) (client : UdpClient) (pending : Pending)
    (source : Option Bytes) (result : Except PyError Frame) :
    ∃ kept outcome, world.finish runtime client pending source result =
        { world with
          client := kept, pending := none,
          completed := world.completed ++
            [⟨⟨pending.msgType, pending.payload⟩, pending.seq, source, outcome⟩] } ∧
      kept.secret = client.secret ∧ kept.sendto = client.sendto ∧ kept.outSeq = client.outSeq ∧
      kept.queue = client.queue ∧ forall reply, outcome = .ok reply -> result = .ok reply := by
  cases result with
  | error raised =>
      exact ⟨client, .error raised, rfl, rfl, rfl, rfl, rfl, fun _ same => by cases same⟩
  | ok reply =>
      rw [finish]
      dsimp only
      by_cases first : pending.seq = 0
      · rw [if_pos first, UdpClient.connected]
        by_cases other : reply.msgType ≠ .helloAck
        · rw [if_pos other]
          exact ⟨client, _, rfl, rfl, rfl, rfl, rfl, fun _ same => by cases same⟩
        · rw [if_neg other]
          cases decoded : decodeHelloAck runtime reply.payload with
          | error raised =>
              exact ⟨client, .error raised, rfl, rfl, rfl, rfl, rfl, fun _ same => by cases same⟩
          | ok fields => exact ⟨_, .ok reply, rfl, rfl, rfl, rfl, rfl, fun _ same => same⟩
      · rw [if_neg first]
        exact ⟨client, .ok reply, rfl, rfl, rfl, rfl, rfl, fun _ same => same⟩

/-- A request that `begin` has numbered keeps the bookkeeping. -/
theorem Traffic.issue {world : World Addr} (traffic : Traffic runtime deployment world)
    (room : world.issued.length < 2 ^ 32) (client : UdpClient)
    (secret : client.secret = deployment.secret) (sendto : client.sendto = true) (numbered : client.outSeq = world.client.outSeq)
    {request : Request} (greeting : world.issued = [] ->
      ∃ clientId nonce, request = ⟨.hello, encodeHello clientId nonce⟩)
    (other : world.issued ≠ [] -> request.msgType ∈ deployment.requests) :
    Traffic runtime deployment
      (world.issue request (client.begin runtime request.msgType request.payload)) := by
  have seq : world.client.outSeq = world.issued.length := by
    rw [traffic.numbered]
    exact Nat.mod_eq_of_lt room
  have nextSeq : (client.outSeq + 1) &&& maxSeq = (world.issued ++ [request]).length % 2 ^ 32 := by
    rw [numbered, seq, List.length_append, List.length_singleton]
    exact Nat.and_two_pow_sub_one_eq_mod (world.issued.length + 1) 32
  have bounded : (world.issued ++ [request]).length ≤ 2 ^ 32 := by
    rw [List.length_append, List.length_singleton]
    omega
  have greetings (first : Request) (found : (world.issued ++ [request])[0]? = some first) :
      ∃ clientId nonce, first = ⟨.hello, encodeHello clientId nonce⟩ := by
    cases issued : world.issued with
    | nil =>
        rw [issued] at found
        cases found
        exact greeting issued
    | cons old rest =>
        rw [issued] at found
        exact traffic.greeting first (by rw [issued]; exact found)
  have others (index : Nat) (later : Request)
      (found : (world.issued ++ [request])[index + 1]? = some later) :
      later.msgType ∈ deployment.requests := by
    by_cases inside : index + 1 < world.issued.length
    · rw [List.getElem?_append_left inside] at found
      exact traffic.others index later found
    · rw [List.getElem?_append_right (Nat.le_of_not_lt inside)] at found
      have same : later = request := by
        have member := List.mem_of_getElem? found
        exact List.mem_singleton.mp member
      have within := (List.getElem?_eq_some_iff.mp found).1
      rw [List.length_singleton] at within
      rw [same]
      apply other
      intro empty
      rw [empty, List.length_nil] at within
      omega
  have newest : (world.issued ++ [request])[world.issued.length]? = some request := by
    rw [List.getElem?_append_right (Nat.le_refl _), Nat.sub_self]
    rfl
  have copies (data : Bytes) (member : data ∈ world.toServer) : ∃ frame seq found,
      decode runtime.toDigests data (some deployment.secret) = .ok frame ∧
        IsCopy (world.issued ++ [request]) seq found frame := by
    rcases traffic.copies data member with ⟨frame, seq, found, decoded, copy⟩
    exact ⟨frame, seq, found, decoded, copy.mono [request]⟩
  rw [UdpClient.begin, if_neg (by rw [sendto]; decide)]
  dsimp only
  cases transmitted : client.transmit runtime ⟨request.msgType, request.payload, client.outSeq, 0⟩ with
  | raised error =>
      exact ⟨secret, traffic.serverSecret, traffic.sound, nextSeq, bounded, fun _ => sendto,
        greetings, others, fun pending held => by
          have old := traffic.current pending held
          have inside := (List.getElem?_eq_some_iff.mp old).1
          exact (List.getElem?_append_left inside).trans old, copies⟩
  | waiting pending data =>
      rcases UdpClient.transmit_waiting transmitted with ⟨rfl, encoded⟩
      have current : (world.issued ++ [request])[client.outSeq]? =
          some ⟨request.msgType, request.payload⟩ := by
        rw [numbered, seq]
        exact newest
      refine ⟨secret, traffic.serverSecret, traffic.sound, nextSeq, bounded, fun _ => sendto,
        greetings, others, ?_, ?_⟩
      · rintro held ⟨⟩
        exact current
      · intro sent member
        rcases List.mem_append.mp member with old | new
        · exact copies sent old
        · rw [List.mem_singleton.mp new]
          rw [secret] at encoded
          exact ⟨_, _, _, decode_of_encode runtime.toDigests encoded, pending_isCopy current⟩

variable [DecidableEq Addr]

/-- Every step keeps the bookkeeping. -/
theorem Traffic.step {world next : World Addr} {event : Event}
    (traffic : Traffic runtime deployment world)
    (stepped : world.step runtime deployment event = some next) :
    Traffic runtime deployment next := by
  have completion {client : UdpClient} {pending : Pending} {source : Option Bytes}
      {result : Except PyError Frame} (secret : client.secret = world.client.secret)
      (sendto : client.sendto = world.client.sendto) (outSeq : client.outSeq = world.client.outSeq) :
      Traffic runtime deployment (world.finish runtime client pending source result) := by
    rcases finish_eq runtime world client pending source result with
      ⟨kept, outcome, same, keptSecret, keptSendto, keptOutSeq, _, _⟩
    rw [same]
    exact ⟨(keptSecret.trans secret).trans traffic.clientSecret, traffic.serverSecret, traffic.sound,
      (keptOutSeq.trans outSeq).trans traffic.numbered, traffic.bounded,
      fun issued => (keptSendto.trans sendto).trans (traffic.connected issued), traffic.greeting,
      traffic.others, nofun, traffic.copies⟩
  cases step_cases stepped with
  | connect nonce fresh =>
      have room : world.issued.length < 2 ^ 32 := by
        rw [fresh]
        decide
      rw [UdpClient.connect]
      apply traffic.issue room { world.client with
        transport := true, sendto := true, state := .handshake } traffic.clientSecret rfl rfl
      · intro _
        exact ⟨_, _, rfl⟩
      · intro issued
        exact absurd fresh issued
  | request payload later room offered =>
      exact traffic.issue room world.client traffic.clientSecret (traffic.connected later) rfl
        (fun empty => absurd empty later) (fun _ => offered)
  | retransmit held encoded =>
      have current := traffic.current _ held
      refine ⟨traffic.clientSecret, traffic.serverSecret, traffic.sound, traffic.numbered,
        traffic.bounded, traffic.connected, traffic.greeting, traffic.others, ?_, ?_⟩
      · rintro later ⟨⟩
        exact current
      · intro datagram member
        rcases List.mem_append.mp member with old | new
        · exact traffic.copies datagram old
        · rw [List.mem_singleton.mp new]
          rw [traffic.clientSecret] at encoded
          exact ⟨_, _, _, decode_of_encode runtime.toDigests encoded, pending_isCopy current⟩
  | giveUp pending error => exact completion rfl rfl rfl
  | deliver draw found =>
      rename_i index data
      have receipt := UdpServer.onDatagram_receipt runtime traffic.sound data deployment.addr draw
      exact ⟨traffic.clientSecret, receipt.secret.trans traffic.serverSecret,
        receipt.sound traffic.sound, traffic.numbered, traffic.bounded, traffic.connected,
        traffic.greeting, traffic.others, traffic.current, traffic.copies⟩
  | arrive found =>
      exact ⟨traffic.clientSecret, traffic.serverSecret, traffic.sound, traffic.numbered,
        traffic.bounded, traffic.connected, traffic.greeting, traffic.others, traffic.current,
        traffic.copies⟩
  | wait ended =>
      exact ⟨traffic.clientSecret, traffic.serverSecret, traffic.sound, traffic.numbered,
        traffic.bounded, traffic.connected, traffic.greeting, traffic.others, traffic.current,
        traffic.copies⟩
  | reply held ended => exact completion rfl rfl rfl

theorem Traffic.treatment {world : World Addr} (traffic : Traffic runtime deployment world)
    {data : Bytes} {frame : Frame} (draw : Draw)
    (decoded : decode runtime.toDigests data (some deployment.secret) = .ok frame) :
    UdpServer.Treatment runtime world.server frame deployment.addr draw
      (world.server.onDatagram runtime data deployment.addr draw) := by
  rw [← traffic.serverSecret] at decoded
  exact (UdpServer.onDatagram_receipt runtime traffic.sound data deployment.addr draw).treatment
    runtime decoded

/-- Only a delivery touches the server's side, and a delivery touches nothing
else. -/
theorem step_server {world next : World Addr} {event : Event}
    (stepped : world.step runtime deployment event = some next) :
    (∃ index draw data, event = .deliver index draw ∧ world.toServer[index]? = some data ∧
        next = world.deliver runtime deployment data draw) ∨
      (next.server = world.server ∧ next.toClient = world.toClient ∧ next.handed = world.handed ∧
        next.calls = world.calls ∧ forall index draw, event ≠ .deliver index draw) := by
  have completion (client : UdpClient) (pending : Pending) (source : Option Bytes)
      (result : Except PyError Frame) :
      let after := world.finish runtime client pending source result
      after.server = world.server ∧ after.toClient = world.toClient ∧
        after.handed = world.handed ∧ after.calls = world.calls := by
    rcases finish_eq runtime world client pending source result with ⟨kept, outcome, same, _⟩
    dsimp only
    rw [same]
    exact ⟨rfl, rfl, rfl, rfl⟩
  have begun (request : Request) (begun : UdpClient × Attempt) :
      let after := world.issue request begun
      after.server = world.server ∧ after.toClient = world.toClient ∧
        after.handed = world.handed ∧ after.calls = world.calls := by
    rcases begun with ⟨client, attempt⟩
    cases attempt <;> exact ⟨rfl, rfl, rfl, rfl⟩
  cases step_cases stepped with
  | connect nonce fresh =>
      have kept := begun ⟨.hello, encodeHello world.client.clientId nonce.text⟩
        (world.client.connect runtime nonce)
      exact .inr ⟨kept.1, kept.2.1, kept.2.2.1, kept.2.2.2, nofun⟩
  | request payload later room offered =>
      rename_i msgType
      have kept := begun ⟨msgType, payload⟩ (world.client.begin runtime msgType payload)
      exact .inr ⟨kept.1, kept.2.1, kept.2.2.1, kept.2.2.2, nofun⟩
  | retransmit held encoded => exact .inr ⟨rfl, rfl, rfl, rfl, nofun⟩
  | giveUp pending error =>
      have kept := completion world.client pending none (.error error)
      exact .inr ⟨kept.1, kept.2.1, kept.2.2.1, kept.2.2.2, nofun⟩
  | deliver draw found => exact .inl ⟨_, draw, _, rfl, found, rfl⟩
  | arrive found => exact .inr ⟨rfl, rfl, rfl, rfl, nofun⟩
  | wait ended => exact .inr ⟨rfl, rfl, rfl, rfl, nofun⟩
  | reply held ended =>
      rename_i pending queue data result
      have kept := completion { world.client with queue := queue } pending (some data) result
      exact .inr ⟨kept.1, kept.2.1, kept.2.2.1, kept.2.2.2, nofun⟩

/-- What a step may do on the client's side: issue a request, receive a
datagram that the server has sent, and end a call.  A call that returns has
found its reply in the queue. -/
def ClientTurn (runtime : Runtime) (world next : World Addr) : Prop :=
  ∃ more finished, next.issued = world.issued ++ more ∧
    next.completed = world.completed ++ finished ∧
    (forall data, data ∈ next.client.queue ->
      data ∈ world.client.queue ∨ ∃ answer, answer ∈ world.toClient ∧ answer.data = data) ∧
    forall completion, completion ∈ finished -> forall reply, completion.result = .ok reply ->
      ∃ pending data, world.pending = some pending ∧
        completion = ⟨⟨pending.msgType, pending.payload⟩, pending.seq, some data, .ok reply⟩ ∧
        data ∈ world.client.queue ∧
        UdpClient.judge runtime world.client.secret pending.seq data = .returned reply

omit [DecidableEq Addr] in
/-- Nothing is issued and no call ends. -/
theorem ClientTurn.idle {world next : World Addr} (issued : next.issued = world.issued)
    (completed : next.completed = world.completed)
    (queue : forall data, data ∈ next.client.queue ->
      data ∈ world.client.queue ∨ ∃ answer, answer ∈ world.toClient ∧ answer.data = data) :
    ClientTurn runtime world next :=
  ⟨[], [], issued.trans (List.append_nil _).symm, completed.trans (List.append_nil _).symm, queue,
    fun _ member => nomatch member⟩

omit [DecidableEq Addr] in
/-- A request is issued, and its encoding may fail at once. -/
theorem ClientTurn.issue {world : World Addr} {request : Request} {begun : UdpClient × Attempt}
    (queue : begun.1.queue = world.client.queue) :
    ClientTurn runtime world (world.issue request begun) := by
  rcases begun with ⟨client, attempt⟩
  have kept (data : Bytes) (member : data ∈ client.queue) :
      data ∈ world.client.queue ∨ ∃ answer, answer ∈ world.toClient ∧ answer.data = data := by
    rw [queue] at member
    exact .inl member
  cases attempt with
  | waiting pending data =>
      exact ⟨[request], [], rfl, (List.append_nil world.completed).symm, kept,
        fun _ member => nomatch member⟩
  | raised error =>
      refine ⟨[request], [⟨request, world.client.outSeq, none, .error error⟩], rfl, rfl, kept, ?_⟩
      intro completion member reply result
      rw [List.mem_singleton.mp member] at result
      cases result

theorem step_client {world next : World Addr} {event : Event}
    (stepped : world.step runtime deployment event = some next) :
    ClientTurn runtime world next := by
  cases step_cases stepped with
  | connect nonce fresh => exact .issue (UdpClient.queue_connect ..)
  | request payload later room offered => exact .issue (UdpClient.queue_begin ..)
  | retransmit held encoded => exact .idle rfl rfl fun _ => .inl
  | giveUp pending error =>
      rcases finish_eq runtime world world.client pending none (.error error) with
        ⟨kept, outcome, same, _, _, _, keptQueue, succeeds⟩
      rw [same]
      refine ⟨[], _, (List.append_nil world.issued).symm, rfl, ?_, ?_⟩
      · intro datagram member
        exact .inl (keptQueue ▸ member)
      · intro completion member reply result
        rw [List.mem_singleton.mp member] at result
        cases succeeds reply result
  | deliver draw found => exact .idle rfl rfl fun _ => .inl
  | arrive found =>
      rename_i index answer
      refine .idle rfl rfl ?_
      intro data member
      rcases List.mem_append.mp member with old | new
      · exact .inl old
      · exact .inr ⟨answer, List.mem_of_getElem? found, (List.mem_singleton.mp new).symm⟩
  | wait ended =>
      exact .idle rfl rfl fun data member => .inl (UdpClient.mem_awaitReply ended member)
  | reply held ended =>
      rename_i pending queue data result
      rcases finish_eq runtime world { world.client with queue := queue } pending
        (some data) result with ⟨kept, outcome, same, _, _, _, keptQueue, succeeds⟩
      rw [same]
      refine ⟨[], _, (List.append_nil world.issued).symm, rfl, ?_, ?_⟩
      · intro datagram member
        dsimp only at member
        rw [keptQueue] at member
        exact .inl (UdpClient.mem_awaitReply ended member)
      · intro completion member reply returned
        have single := List.mem_singleton.mp member
        rw [single] at returned
        have awaited := UdpClient.awaitReply_ended ended
        refine ⟨pending, data, held, ?_, awaited.1, awaited.2 reply (succeeds reply returned)⟩
        rw [single]
        exact congrArg _ returned

end

end World
end Wireline
