import Wireline.Reference
import Wireline.Udp.Client

namespace Wireline

/-!
# Successive clients of one address

A client numbers its frames from 0, and closing it sends nothing: the server
keeps its session and its window.  The next client of the address therefore
meets them.  Its HELLO has number 0, which the window answers with the old
HELLO_ACK, or which the old session refuses as stale.

The network between them is perfect here.  A call is one step: its attempts
reach the server at once, and so do the answers the client.
-/

/-- A request that is over: both ends after it, what it returned or raised,
and the calls of the server in it. -/
structure Exchange (Addr : Type) where
  server : UdpServer Addr
  client : UdpClient
  result : Except PyError Frame
  deliveries : List (Delivery Addr)

namespace UdpClient

variable {Addr : Type} [DecidableEq Addr] (runtime : Runtime) (addr : Addr)

/-- The attempts of a request from this one on. -/
def attempts (server : UdpServer Addr) (client : UdpClient) (pending : Pending) (data : Bytes)
    (draws : Nat -> Draw) : Exchange Addr :=
  let delivery := server.onDatagram runtime data addr (draws pending.attempt)
  let queue := client.queue ++ delivery.sent.map Prod.fst
  match awaitReply runtime client.secret pending.seq queue with
  | (some (_, result), queue) =>
      ⟨delivery.server, { client with queue := queue }, result, [delivery]⟩
  | (none, queue) =>
      match _expired : { client with queue := queue }.expire runtime pending with
      | (client, .raised error) => ⟨delivery.server, client, .error error, [delivery]⟩
      | (client, .waiting pending data) =>
          let later := attempts delivery.server client pending data draws
          { later with deliveries := delivery :: later.deliveries }
termination_by client.maxRetries - pending.attempt
decreasing_by
  rcases expire_waiting _expired with ⟨more, next, retries⟩
  dsimp only at more retries
  omega

/-- A request from its beginning on. -/
def follow (server : UdpServer Addr) (draws : Nat -> Draw) : UdpClient × Attempt -> Exchange Addr
  | (client, .raised error) => ⟨server, client, .error error, []⟩
  | (client, .waiting pending data) => client.attempts runtime addr server pending data draws

variable {runtime} {addr}

/-- An attempt that is answered at once is the last. -/
theorem attempts_answered {server : UdpServer Addr} {client : UdpClient} {pending : Pending}
    {data answer : Bytes} {draws : Nat -> Draw} (idle : client.queue = [])
    (sent : (server.onDatagram runtime data addr (draws pending.attempt)).sent = [(answer, addr)])
    {result : Except PyError Frame}
    (ended : awaitReply runtime client.secret pending.seq [answer] = (some (answer, result), [])) :
    client.attempts runtime addr server pending data draws =
      ⟨(server.onDatagram runtime data addr (draws pending.attempt)).server, client, result,
        [server.onDatagram runtime data addr (draws pending.attempt)]⟩ := by
  have same : ({ client with queue := [] } : UdpClient) = client := by rw [← idle]
  have queued : client.queue ++
      (server.onDatagram runtime data addr (draws pending.attempt)).sent.map Prod.fst = [answer] := by
    rw [idle, sent]
    rfl
  rw [attempts.eq_def]
  dsimp only
  rw [queued, ended]
  dsimp only
  rw [same]

/-- An answer as the server builds it: the acknowledgement and one reply. -/
def answer (seq number : Int) (reply : Frame) : List Frame :=
  [⟨.ack, number, encodeAck seq, 0⟩, reply]

theorem awaitReply_answer {secret data : Bytes} {seq number : Int} (range : 0 ≤ seq ∧ seq ≤ maxSeq)
    {reply : Frame} (joined : join runtime.toDigests secret (answer seq number reply) = .ok data)
    (good : reply.msgType ≠ .error) :
    awaitReply runtime secret seq [data] = (some (data, .ok reply), []) := by
  have judged := judge_join range joined
  rw [List.getLastD_cons, List.getLastD_nil, takeReply, if_neg good] at judged
  rw [awaitReply, judged]

theorem awaitReply_refusal {secret data : Bytes} {seq number : Int}
    (range : 0 ≤ seq ∧ seq ≤ maxSeq) {outSeq : Int} {code : ErrorCode} {message : String}
    (joined : join runtime.toDigests secret
      (answer seq number ⟨.error, outSeq, encodeError code message, 0⟩) = .ok data) :
    awaitReply runtime secret seq [data] =
      (some (data, .error (.protocolError ⟨code, message⟩)), []) := by
  have judged := judge_join range joined
  rw [List.getLastD_cons, List.getLastD_nil, takeReply, if_pos rfl,
    decodeError_encodeError] at judged
  rw [awaitReply, judged]

section

variable {server : UdpServer Addr} {client : UdpClient} {pending : Pending} {data : Bytes}
  {draws : Nat -> Draw} (idle : client.queue = []) (secret : client.secret = server.secret)
  (encoded : encode runtime.toDigests pending.frame server.secret = .ok data)
include idle secret encoded

/-- A number in the window returns the reply that is stored there. -/
theorem attempts_cached {peer : Peer} (known : server.peers addr = some peer) {stored : Bytes}
    (hit : peer.dedup.get pending.seq = some stored) (range : (0 : Int) ≤ pending.seq ∧
      (pending.seq : Int) ≤ maxSeq) {number : Int} {reply : Frame}
    (joined : join runtime.toDigests server.secret (answer pending.seq number reply) = .ok stored)
    (good : reply.msgType ≠ .error) :
    client.attempts runtime addr server pending data draws =
      ⟨{ server with duplicates := server.duplicates + 1 }, client, .ok reply,
        [⟨{ server with duplicates := server.duplicates + 1 }, [(stored, addr)], none, [], none⟩]⟩ := by
  have decoded := decode_of_encode runtime.toDigests encoded
  have delivered := UdpServer.onDatagram_cached decoded known hit (draws pending.attempt)
  rw [if_pos (join_ne_nil _ joined)] at delivered
  have sent := congrArg Delivery.sent delivered
  have ended := awaitReply_answer range joined good
  rw [← secret] at ended
  rw [attempts_answered idle sent ended, delivered]

/-- A number that is not in the window is handled by the session. -/
theorem attempts_handled (sound : server.Sound) {peer : Peer}
    (here : server.peer addr (draws pending.attempt) = peer)
    (missed : peer.dedup.get pending.seq = none) {turn : Turn}
    (turned : { peer.session with outSeq := (peer.session.outSeq + 1) &&& maxSeq }.onFrame runtime
      (draws pending.attempt).nonce pending.frame = turn)
    {reaction : Reaction} (reacted : turn.result = .ok reaction) {reply : Frame}
    (single : reaction.frames = [reply]) {result : Except PyError Frame}
    (ended : forall stored, join runtime.toDigests server.secret
        (answer pending.seq peer.session.outSeq reply) = .ok stored ->
      awaitReply runtime server.secret pending.seq [stored] = (some (stored, result), [])) :
    ∃ stored delivery, join runtime.toDigests server.secret
        (answer pending.seq peer.session.outSeq reply) = .ok stored ∧
      delivery.server =
        server.settle addr ⟨turn.session, peer.dedup.put pending.seq stored⟩ reaction.close ∧
      delivery.calls = turn.calls ∧
      client.attempts runtime addr server pending data draws =
        ⟨delivery.server, client, result, [delivery]⟩ := by
  have decoded := decode_of_encode runtime.toDigests encoded
  rcases UdpServer.onDatagram_replied runtime sound decoded pending.asks here missed turned reacted
    single with ⟨stored, joined, delivered⟩
  have sent := congrArg Delivery.sent delivered
  have finished := ended stored joined
  rw [← secret] at finished
  refine ⟨stored, _, joined, congrArg Delivery.server delivered, congrArg Delivery.calls delivered,
    attempts_answered idle sent finished⟩

end

/-- A peer as these clients leave it. -/
structure Kept (digests : Digests) (secret : Bytes) (peer : Peer) : Prop where
  ready : peer.session.state = .ready
  accepted : 0 ≤ peer.session.lastPeerSeq
  answers : forall seq stored, peer.dedup.get seq = some stored -> ∃ number reply,
    join digests secret (answer seq number reply) = .ok stored ∧ reply.msgType ≠ .error

/-- The requests of `connect` and of `send_data`. -/
inductive Asks (pending : Pending) : Prop
  | hello {clientId nonce : String} (kind : pending.msgType = .hello)
      (payload : pending.payload = encodeHello clientId nonce) (first : pending.seq = 0)
  | data (kind : pending.msgType = .data)

variable (runtime addr) in
/-- The ways a request of these clients ends. -/
inductive Outcome (server : UdpServer Addr) (client : UdpClient) (pending : Pending) :
    Exchange Addr -> Prop
  | cached {peer : Peer} (known : server.peers addr = some peer) {stored : Bytes}
      (hit : peer.dedup.get pending.seq = some stored) {number : Int} {reply : Frame}
      (joined : join runtime.toDigests server.secret (answer pending.seq number reply) = .ok stored)
      {delivery : Delivery Addr} (unhandled : delivery.calls = []) :
      Outcome server client pending
        ⟨{ server with duplicates := server.duplicates + 1 }, client, .ok reply, [delivery]⟩
  | echoed (data : pending.msgType = .data) {peer : Peer} (known : server.peers addr = some peer)
      (missed : peer.dedup.get pending.seq = none) {session : ServerSession} {stored : Bytes}
      {delivery : Delivery Addr} (left : delivery.server =
        server.settle addr ⟨session, peer.dedup.put pending.seq stored⟩ false)
      (ready : session.state = .ready) (accepted : session.lastPeerSeq = pending.seq)
      {number outSeq : Int}
      (joined : join runtime.toDigests server.secret
        (answer pending.seq number ⟨.data, outSeq, pending.payload, 0⟩) = .ok stored) :
      Outcome server client pending
        ⟨delivery.server, client, .ok ⟨.data, outSeq, pending.payload, 0⟩, [delivery]⟩
  | welcomed (hello : pending.msgType = .hello) (unknown : server.peers addr = none)
      {session : ServerSession} {stored : Bytes} {delivery : Delivery Addr}
      (left : delivery.server = server.settle addr
        ⟨session, (DedupWindow.empty server.dedupSize).put pending.seq stored⟩ false)
      (ready : session.state = .ready) (accepted : session.lastPeerSeq = pending.seq)
      {number outSeq : Int} {nonce : Nonce}
      (joined : join runtime.toDigests server.secret (answer pending.seq number ⟨.helloAck, outSeq,
        encodeHelloAck session.sessionId.text nonce.text, 0⟩) = .ok stored)
      (handled : .onHello pending.frame ∈ delivery.calls) :
      Outcome server client pending
        ⟨delivery.server, client,
          .ok ⟨.helloAck, outSeq, encodeHelloAck session.sessionId.text nonce.text, 0⟩, [delivery]⟩
  | refused (missed : forall peer, server.peers addr = some peer ->
        peer.dedup.get pending.seq = none ∧ (pending.seq : Int) ≤ peer.session.lastPeerSeq)
      (known : pending.msgType = .hello -> server.peers addr ≠ none) {peer : Peer}
      {error : ProtocolError} {delivery : Delivery Addr}
      (left : delivery.server = server.settle addr peer true) :
      Outcome server client pending
        ⟨delivery.server, client, .error (.protocolError error), [delivery]⟩

theorem attempts_outcome {server : UdpServer Addr} {client : UdpClient} {pending : Pending}
    {data : Bytes} {draws : Nat -> Draw} (idle : client.queue = [])
    (secret : client.secret = server.secret)
    (encoded : encode runtime.toDigests pending.frame server.secret = .ok data)
    (sound : server.Sound) (numbered : pending.seq ≤ maxSeq) (asks : Asks pending)
    (kept : forall peer, server.peers addr = some peer -> Kept runtime.toDigests server.secret peer) :
    Outcome runtime addr server client pending
      (client.attempts runtime addr server pending data draws) := by
  have range : (0 : Int) ≤ pending.seq ∧ (pending.seq : Int) ≤ maxSeq :=
    ⟨Int.natCast_nonneg _, Int.ofNat_le.mpr numbered⟩
  cases known : server.peers addr with
  | none =>
      have here := UdpServer.peer_of_unknown known (draws pending.attempt)
      have accepted : (-1 : Int) < pending.seq := by
        have positive := range.1
        omega
      cases asks with
      | hello kind payload first =>
          rename_i clientId nonce
          have decodes := decodeHello_encodeHello runtime clientId nonce
          rw [← payload] at decodes
          rcases attempts_handled idle secret encoded sound here rfl
            (onFrame_welcomed runtime _ rfl accepted kind decodes) rfl rfl
            (fun stored joined => awaitReply_answer range joined (fun same => by cases same)) with
            ⟨stored, delivery, joined, left, calls, same⟩
          rw [same]
          refine .welcomed kind known left rfl rfl joined ?_
          rw [calls]
          exact List.mem_cons_of_mem _ (List.mem_singleton_self _)
      | data kind =>
          rcases attempts_handled idle secret encoded sound here rfl
            (onFrame_beforeHandshake runtime _ rfl accepted (by rw [Pending.frame, kind]; rintro ⟨⟩))
            rfl rfl (fun stored joined => awaitReply_refusal range joined) with
            ⟨stored, delivery, joined, left, calls, same⟩
          rw [same]
          refine .refused ?_ ?_ left
          · intro peer impossible
            rw [known] at impossible
            cases impossible
          · intro impossible
            rw [kind] at impossible
            cases impossible
  | some peer =>
      have here := UdpServer.peer_of_known known (draws pending.attempt)
      have held := kept peer known
      have ready : ServerSession.state
          { peer.session with outSeq := (peer.session.outSeq + 1) &&& maxSeq } = .ready := held.ready
      cases missed : peer.dedup.get pending.seq with
      | some stored =>
          rcases held.answers _ stored missed with ⟨number, reply, joined, good⟩
          rw [attempts_cached idle secret encoded known missed range joined good]
          exact .cached known missed joined rfl
      | none =>
          by_cases late : (pending.seq : Int) ≤ peer.session.lastPeerSeq
          · have unheld (other : Peer) (same : server.peers addr = some other) :
                other.dedup.get pending.seq = none ∧
                  (pending.seq : Int) ≤ other.session.lastPeerSeq := by
              rw [known] at same
              cases same
              exact ⟨missed, late⟩
            rcases attempts_handled idle secret encoded sound here missed
              (onFrame_stale runtime _ (.inr ready) late) rfl rfl
              (fun stored joined => awaitReply_refusal range joined) with
              ⟨stored, delivery, joined, left, calls, same⟩
            rw [same]
            exact .refused unheld (fun _ same => by rw [known] at same; cases same) left
          · have accepted := Int.lt_of_not_ge late
            cases asks with
            | hello kind payload first =>
                have positive := held.accepted
                rw [first] at accepted
                omega
            | data kind =>
                have echoes : echoType pending.frame.msgType = some .data := congrArg echoType kind
                rcases attempts_handled idle secret encoded sound here missed
                  (onFrame_echoed runtime _ ready accepted echoes) rfl rfl
                  (fun stored joined => awaitReply_answer range joined (fun same => by cases same)) with
                  ⟨stored, delivery, joined, left, calls, same⟩
                rw [same]
                exact .echoed kind known missed left held.ready rfl joined

variable (runtime addr) in
theorem attempts_sound {server : UdpServer Addr} (sound : server.Sound) (client : UdpClient)
    (pending : Pending) (data : Bytes) (draws : Nat -> Draw) :
    (client.attempts runtime addr server pending data draws).server.Sound ∧
      (client.attempts runtime addr server pending data draws).server.secret = server.secret ∧
      (client.attempts runtime addr server pending data draws).server.dedupSize =
        server.dedupSize := by
  have receipt := UdpServer.onDatagram_receipt runtime sound data addr (draws pending.attempt)
  have once := And.intro (receipt.sound sound) (And.intro receipt.secret receipt.dedupSize)
  rw [attempts.eq_def]
  dsimp only
  split
  · exact once
  · split
    · exact once
    · rename_i next again sent expired
      rcases expire_waiting expired with ⟨more, later, retries⟩
      have fewer : next.maxRetries - again.attempt < client.maxRetries - pending.attempt := by
        dsimp only at more retries
        omega
      have rest := attempts_sound once.1 next again sent draws
      exact ⟨rest.1, rest.2.1.trans once.2.1, rest.2.2.trans once.2.2⟩
termination_by client.maxRetries - pending.attempt

theorem Kept.put {digests : Digests} {secret : Bytes} {session : ServerSession} {seq : Nat}
    (ready : session.state = .ready) (accepted : session.lastPeerSeq = seq) {dedup : DedupWindow}
    (old : forall other reply, dedup.get other = some reply -> ∃ number answered,
      join digests secret (answer other number answered) = .ok reply ∧ answered.msgType ≠ .error)
    {stored : Bytes} {number : Int} {reply : Frame}
    (joined : join digests secret (answer seq number reply) = .ok stored)
    (good : reply.msgType ≠ .error) : Kept digests secret ⟨session, dedup.put seq stored⟩ := by
  refine ⟨ready, by rw [accepted]; exact Int.natCast_nonneg seq, ?_⟩
  intro other held hit
  rcases DedupWindow.mem_put (DedupWindow.mem_of_get hit) with before | new
  · exact old other held (DedupWindow.get_of_mem before)
  · cases new
    exact ⟨number, reply, joined, good⟩

theorem Outcome.kept {server : UdpServer Addr} {client : UdpClient} {pending : Pending}
    {exchange : Exchange Addr} (outcome : Outcome runtime addr server client pending exchange)
    (kept : forall peer, server.peers addr = some peer -> Kept runtime.toDigests server.secret peer) :
    forall peer, exchange.server.peers addr = some peer ->
      Kept runtime.toDigests server.secret peer := by
  intro peer known
  cases outcome with
  | cached _ hit joined unhandled => exact kept peer known
  | echoed data before missed left ready accepted joined =>
      dsimp only at known
      rw [left] at known
      rw [(UdpServer.settle_known known).2]
      exact .put ready accepted (kept _ before).answers joined nofun
  | welcomed hello unknown left ready accepted joined handled =>
      dsimp only at known
      rw [left] at known
      rw [(UdpServer.settle_known known).2]
      refine .put ready accepted ?_ joined nofun
      intro other reply hit
      rw [DedupWindow.get_empty] at hit
      cases hit
  | refused missed unheld left =>
      dsimp only at known
      rw [left] at known
      cases (UdpServer.settle_known known).1

theorem Outcome.client_eq {server : UdpServer Addr} {client : UdpClient} {pending : Pending}
    {exchange : Exchange Addr} (outcome : Outcome runtime addr server client pending exchange) :
    exchange.client = client := by
  cases outcome with
  | cached _ _ _ _ | echoed _ _ _ _ _ _ _ | welcomed _ _ _ _ _ _ _ | refused _ _ _ => rfl

theorem Pending.encodable {pending : Pending} (numbered : pending.seq ≤ maxSeq)
    (first : pending.attempt = 0) (fits : pending.payload.length ≤ maxPayload) :
    Encodable pending.frame := by
  have flags : 0 ≤ Int.lor flagRequireAck 0 ∧ Int.lor flagRequireAck 0 ≤ 3 := by decide
  refine ⟨fits, ⟨Int.natCast_nonneg _, Int.ofNat_le.mpr numbered⟩, ?_⟩
  rw [unknownFlags_eq_zero_iff, Pending.frame, first]
  exact flags

/-- A client that can send, with nothing in its queue. -/
structure Idle (secret : Bytes) (client : UdpClient) : Prop where
  secret : client.secret = secret
  queue : client.queue = []
  sendto : client.sendto = true
  outSeq : client.outSeq ≤ maxSeq

variable (runtime addr) in
/-- A request whose payload is too long is not sent. -/
inductive Followed (server : UdpServer Addr) (client : UdpClient) (pending : Pending) :
    Exchange Addr -> Prop
  | unsent (long : maxPayload < pending.payload.length) {raised : PyError} :
      Followed server client pending ⟨server, client, .error raised, []⟩
  | sent (fits : pending.payload.length ≤ maxPayload) {exchange : Exchange Addr}
      (outcome : Outcome runtime addr server client pending exchange) :
      Followed server client pending exchange

theorem follow_begin {server : UdpServer Addr} (sound : server.Sound)
    (kept : forall peer, server.peers addr = some peer -> Kept runtime.toDigests server.secret peer)
    {client : UdpClient} (idle : Idle server.secret client) {msgType : MsgType} {payload : Bytes}
    (asks : Asks ⟨msgType, payload, client.outSeq, 0⟩) (draws : Nat -> Draw)
    {exchange : Exchange Addr}
    (followed : follow runtime addr server draws (client.begin runtime msgType payload) = exchange) :
    exchange.server.Sound ∧ exchange.server.secret = server.secret ∧
      Followed runtime addr server { client with outSeq := (client.outSeq + 1) &&& maxSeq }
        ⟨msgType, payload, client.outSeq, 0⟩ exchange := by
  subst followed
  rw [begin, if_neg (by rw [idle.sendto]; decide)]
  dsimp only
  rw [transmit]
  cases encoded : encode runtime.toDigests
      (⟨msgType, payload, client.outSeq, 0⟩ : Pending).frame client.secret with
  | error raised =>
      refine ⟨sound, rfl, .unsent ?_⟩
      by_contra short
      have checks : Encodable (⟨msgType, payload, client.outSeq, 0⟩ : Pending).frame :=
        Pending.encodable idle.outSeq rfl (Nat.le_of_not_lt short)
      rcases exists_encode runtime.toDigests checks client.secret with ⟨raw, same⟩
      rw [same] at encoded
      cases encoded
  | ok data =>
      have fits := ((encode_ok_iff runtime.toDigests _ _ _).mp encoded).1.payload
      have answered := attempts_sound runtime addr sound
        { client with outSeq := (client.outSeq + 1) &&& maxSeq } ⟨msgType, payload, client.outSeq, 0⟩ data draws
      rw [idle.secret] at encoded
      exact ⟨answered.1, answered.2.1, .sent fits
        (attempts_outcome idle.queue idle.secret encoded sound idle.outSeq asks kept)⟩

end UdpClient

open UdpClient

/-! ## Any number of clients, one after the other -/

/-- The server, and the last client of the address. -/
structure Succession (Addr : Type) where
  server : UdpServer Addr
  client : Option UdpClient

/-- A call that a program makes.  `draws` are the server's in each attempt. -/
inductive ClientCall
  | connect (clientId : String) (maxRetries : Nat) (nonce : Nonce) (draws : Nat -> Draw)
  | sendData (payload : Bytes) (draws : Nat -> Draw)
  | close

namespace Succession

variable {Addr : Type}

def start (secret : Bytes) (dedupWindow : Nat) : Succession Addr :=
  ⟨.start secret dedupWindow, none⟩

/-- The client that has not been closed. -/
def live (succession : Succession Addr) : Option UdpClient :=
  succession.client.filter fun client => client.state ≠ .closed

variable [DecidableEq Addr] (runtime : Runtime) (addr : Addr)

/-- The request in a `connect`. -/
def greeting (succession : Succession Addr) (clientId : String) (maxRetries : Nat) (nonce : Nonce)
    (draws : Nat -> Draw) : Exchange Addr :=
  follow runtime addr succession.server draws
    ((UdpClient.init succession.server.secret clientId maxRetries).connect runtime nonce)

/-- The request in a `send_data`. -/
def sending (succession : Succession Addr) (client : UdpClient) (payload : Bytes)
    (draws : Nat -> Draw) : Exchange Addr :=
  follow runtime addr succession.server draws (client.begin runtime .data payload)

def step (succession : Succession Addr) : ClientCall -> Option (Succession Addr)
  | .connect clientId maxRetries nonce draws =>
      if succession.live = none then
        let exchange := succession.greeting runtime addr clientId maxRetries nonce draws
        match exchange.result.bind (exchange.client.connected runtime) with
        | .ok client => some ⟨exchange.server, some client⟩
        | .error _ => some ⟨exchange.server, some exchange.client⟩
      else none
  | .sendData payload draws =>
      succession.live.map fun client =>
        let exchange := succession.sending runtime addr client payload draws
        ⟨exchange.server, some exchange.client⟩
  | .close => succession.live.map fun client => ⟨succession.server, some client.close⟩

/-- `connect` yields a session of the HELLO that it sent, and what `send_data`
returns is what it sent. -/
def Own (succession : Succession Addr) : ClientCall -> Prop
  | .connect clientId maxRetries nonce draws =>
      succession.live = none ->
        let exchange := succession.greeting runtime addr clientId maxRetries nonce draws
        ∃ client delivery hello peer,
          exchange.result.bind (exchange.client.connected runtime) = .ok client ∧
          delivery ∈ exchange.deliveries ∧ .onHello hello ∈ delivery.calls ∧
          delivery.server.peers addr = some peer ∧
          client.sessionId = some peer.session.sessionId.text
  | .sendData payload draws =>
      forall client reply, succession.live = some client ->
        (succession.sending runtime addr client payload draws).result = .ok reply ->
        reply.payload = payload
  | .close => True

/-- The server keeps nothing of an earlier client: no entry when a client
connects, and no other reply under the number of a request. -/
def Fresh (succession : Succession Addr) : ClientCall -> Prop
  | .connect clientId _ nonce _ =>
      succession.live = none ->
        (encodeHello clientId nonce.text).length ≤ maxPayload ∧ succession.server.peers addr = none
  | .sendData payload _ =>
      forall client peer stored, succession.live = some client ->
        succession.server.peers addr = some peer ->
        peer.dedup.get client.outSeq = some stored -> payload.length ≤ maxPayload ->
        forall ack reply,
          splitDatagram runtime.toDigests stored succession.server.secret = .ok [ack, reply] ->
          reply.payload = payload
  | .close => True

/-! ## The calls of a run -/

variable {runtime} {addr}

structure Inv (runtime : Runtime) (addr : Addr) (succession : Succession Addr) : Prop where
  sound : succession.server.Sound
  kept : forall peer, succession.server.peers addr = some peer ->
    Kept runtime.toDigests succession.server.secret peer
  client : forall client, succession.live = some client -> Idle succession.server.secret client

omit [DecidableEq Addr] in
theorem inv_start (secret : Bytes) (dedupWindow : Nat) :
    Inv runtime addr (start secret dedupWindow : Succession Addr) :=
  ⟨UdpServer.sound_start secret dedupWindow, fun _ known => (nomatch known),
    fun _ alive => (nomatch alive)⟩

omit [DecidableEq Addr] in
theorem live_some {server : UdpServer Addr} {client found : UdpClient}
    (alive : (⟨server, some client⟩ : Succession Addr).live = some found) : found = client :=
  (Option.some.inj (Option.filter_eq_some_iff.mp alive).1).symm

/-- `connect` up to its first wait is the HELLO of a client that can send. -/
theorem idle_connecting (secret : Bytes) (clientId : String) (maxRetries : Nat) :
    Idle secret { UdpClient.init secret clientId maxRetries with
      transport := true, sendto := true, state := .handshake } :=
  ⟨rfl, rfl, rfl, Nat.zero_le _⟩

/-- Of a connected client only the state and the identifier are new. -/
theorem connected_eq {client next : UdpClient} {result : Except PyError Frame}
    (connected : result.bind (client.connected runtime) = .ok next) :
    ∃ sessionId, next = { client with sessionId := sessionId, state := .ready } := by
  cases result with
  | error raised => cases connected
  | ok reply =>
      change client.connected runtime reply = .ok next at connected
      rw [UdpClient.connected] at connected
      by_cases other : reply.msgType ≠ .helloAck
      · rw [if_pos other] at connected
        cases connected
      · rw [if_neg other] at connected
        cases decoded : decodeHelloAck runtime reply.payload with
        | error raised =>
            rw [decoded] at connected
            cases connected
        | ok fields =>
            rw [decoded] at connected
            cases connected
            exact ⟨_, rfl⟩

/-- What a request leaves behind. -/
theorem Inv.followed {succession : Succession Addr} (inv : Inv runtime addr succession)
    {client next : UdpClient} {pending : Pending} {exchange : Exchange Addr}
    (idle : Idle succession.server.secret client)
    (followed : Followed runtime addr succession.server
      { client with outSeq := (client.outSeq + 1) &&& maxSeq } pending exchange)
    (sound : exchange.server.Sound) (secret : exchange.server.secret = succession.server.secret)
    (same : next.secret = exchange.client.secret ∧ next.queue = exchange.client.queue ∧
      next.sendto = exchange.client.sendto ∧ next.outSeq = exchange.client.outSeq) :
    Inv runtime addr ⟨exchange.server, some next⟩ := by
  have left : exchange.client = { client with outSeq := (client.outSeq + 1) &&& maxSeq } ∧
      forall peer, exchange.server.peers addr = some peer ->
        Kept runtime.toDigests succession.server.secret peer := by
    cases followed with
    | unsent long => exact ⟨rfl, inv.kept⟩
    | sent fits outcome => exact ⟨outcome.client_eq, outcome.kept inv.kept⟩
  rcases left with ⟨kept, peers⟩
  rw [kept] at same
  refine ⟨sound, ?_, ?_⟩
  · intro peer known
    rw [secret]
    exact peers peer known
  · intro found alive
    rw [live_some alive, secret]
    exact ⟨same.1.trans idle.secret, same.2.1.trans idle.queue, same.2.2.1.trans idle.sendto,
      same.2.2.2 ▸ masked_le _⟩

theorem Inv.step {succession next : Succession Addr} {call : ClientCall}
    (inv : Inv runtime addr succession) (stepped : succession.step runtime addr call = some next) :
    Inv runtime addr next := by
  cases call with
  | connect clientId maxRetries nonce draws =>
      rw [Succession.step] at stepped
      by_cases free : succession.live = none
      · rw [if_pos free] at stepped
        generalize greeted : succession.greeting runtime addr clientId maxRetries nonce draws =
          exchange at stepped
        have idle := idle_connecting succession.server.secret clientId maxRetries
        rcases follow_begin inv.sound inv.kept idle (.hello rfl rfl rfl) draws greeted with
          ⟨sound, secret, followed⟩
        dsimp only at stepped
        cases connected : exchange.result.bind (exchange.client.connected runtime) with
        | error raised =>
            rw [connected] at stepped
            cases stepped
            exact inv.followed idle followed sound secret ⟨rfl, rfl, rfl, rfl⟩
        | ok client =>
            rw [connected] at stepped
            cases stepped
            rcases connected_eq connected with ⟨sessionId, rfl⟩
            exact inv.followed idle followed sound secret ⟨rfl, rfl, rfl, rfl⟩
      · rw [if_neg free] at stepped
        cases stepped
  | sendData payload draws =>
      rcases Option.map_eq_some_iff.mp stepped with ⟨client, alive, rfl⟩
      have idle := inv.client client alive
      rcases follow_begin inv.sound inv.kept idle (.data rfl) draws rfl with
        ⟨sound, secret, followed⟩
      exact inv.followed idle followed sound secret ⟨rfl, rfl, rfl, rfl⟩
  | close =>
      rcases Option.map_eq_some_iff.mp stepped with ⟨client, alive, rfl⟩
      refine ⟨inv.sound, inv.kept, ?_⟩
      intro found closed
      cases closed

/-- A `connect` gets its own session exactly if its HELLO is sent and finds
no entry. -/
theorem Inv.own_connect {succession : Succession Addr} (inv : Inv runtime addr succession)
    (clientId : String) (maxRetries : Nat) (nonce : Nonce) (draws : Nat -> Draw) :
    succession.Own runtime addr (.connect clientId maxRetries nonce draws) <->
      succession.Fresh runtime addr (.connect clientId maxRetries nonce draws) := by
  rw [Own, Fresh]
  refine imp_congr_right fun free => ?_
  generalize greeted : succession.greeting runtime addr clientId maxRetries nonce draws = exchange
  have idle := idle_connecting succession.server.secret clientId maxRetries
  rcases follow_begin inv.sound inv.kept idle (.hello rfl rfl rfl) draws greeted with ⟨_, _, followed⟩
  dsimp only
  cases followed with
  | unsent long =>
      constructor
      · rintro ⟨_, _, _, _, connected, _⟩
        cases connected
      · intro fresh
        exact absurd fresh.1 (Nat.not_le_of_gt long)
  | sent fits outcome =>
      cases outcome with
      | cached known hit joined unhandled =>
          constructor
          · rintro ⟨_, delivery, _, _, _, member, handled, _⟩
            rw [List.mem_singleton.mp member, unhandled] at handled
            cases handled
          · intro fresh
            rw [known] at fresh
            cases fresh.2
      | echoed data _ _ _ _ _ _ => cases data
      | welcomed hello unknown left ready accepted joined handled =>
          have entry := congrArg (fun server => server.peers addr) left
          dsimp only at entry
          rw [UdpServer.peers_settle, Function.update_self, if_neg Bool.false_ne_true] at entry
          exact ⟨fun _ => ⟨fits, unknown⟩, fun _ => ⟨_, _, _, _,
            connected_helloAck runtime _ _ _ _ _, List.mem_singleton_self _, handled, entry, rfl⟩⟩
      | refused missed known left =>
          constructor
          · rintro ⟨_, _, _, _, connected, _⟩
            cases connected
          · intro fresh
            exact absurd fresh.2 (known rfl)

/-- What a `send_data` returns is its own unless the window holds another
reply under its number. -/
theorem Inv.own_sendData {succession : Succession Addr} (inv : Inv runtime addr succession)
    (payload : Bytes) (draws : Nat -> Draw) :
    succession.Own runtime addr (.sendData payload draws) <->
      succession.Fresh runtime addr (.sendData payload draws) := by
  rw [Own, Fresh]
  refine forall_congr' fun client => ?_
  generalize sent : succession.sending runtime addr client payload draws = exchange
  by_cases alive : succession.live = some client
  · rcases follow_begin inv.sound inv.kept (inv.client client alive) (.data rfl) draws sent with
      ⟨_, _, followed⟩
    cases followed with
    | unsent long =>
        constructor
        · intro _ _ _ _ _ _ fits
          exact absurd fits (Nat.not_le_of_gt long)
        · intro _ _ _ returned
          cases returned
    | sent fits outcome =>
        cases outcome with
        | cached known hit joined unhandled =>
            have split := splitDatagram_join _ joined
            constructor
            · intro own peer stored _ sameKnown sameHit _ ack reply sameSplit
              rw [known] at sameKnown
              cases sameKnown
              rw [hit] at sameHit
              cases sameHit
              rw [split] at sameSplit
              cases sameSplit
              exact own _ alive rfl
            · intro fresh reply _ returned
              cases returned
              exact fresh _ _ alive known hit fits _ _ split
        | echoed data known missed left ready accepted joined =>
            constructor
            · intro _ peer stored _ sameKnown sameHit
              rw [known] at sameKnown
              cases sameKnown
              rw [missed] at sameHit
              cases sameHit
            · intro _ reply _ returned
              cases returned
              rfl
        | welcomed hello _ _ _ _ _ _ => cases hello
        | refused missed _ left =>
            constructor
            · intro _ peer stored _ known hit
              rw [(missed peer known).1] at hit
              cases hit
            · intro _ reply _ returned
              cases returned
  · exact ⟨fun _ _ _ impossible => absurd impossible alive,
      fun _ _ impossible => absurd impossible alive⟩

/-! ## Without a wrap of the counters -/

/-- Only the first client of the address connects. -/
def Alone (succession : Succession Addr) : ClientCall -> Prop
  | .connect clientId _ nonce _ =>
      succession.live = none ->
        (encodeHello clientId nonce.text).length ≤ maxPayload ∧ succession.client = none
  | .sendData _ _ => True
  | .close => True

/-- After `count` calls: no client yet, or an entry whose numbers lie below
the client's. -/
inductive Counted (addr : Addr) (succession : Succession Addr) (count : Nat) : Prop
  | before (first : succession.client = none) (unknown : succession.server.peers addr = none)
  | after (later : succession.client ≠ none) {peer : Peer}
      (known : succession.server.peers addr = some peer)
      (below : forall seq stored, peer.dedup.get seq = some stored ->
        seq ≤ peer.session.lastPeerSeq)
      (numbered : forall client, succession.live = some client ->
        peer.session.lastPeerSeq < client.outSeq ∧ client.outSeq ≤ count)

omit [DecidableEq Addr] in
theorem Counted.fresh_iff_alone {succession : Succession Addr} {count : Nat}
    (counted : Counted addr succession count) (call : ClientCall) :
    succession.Fresh runtime addr call <-> succession.Alone call := by
  cases call with
  | connect clientId maxRetries nonce draws =>
      refine imp_congr_right fun _ => and_congr_right fun _ => ?_
      cases counted with
      | before first unknown => exact iff_of_true unknown first
      | after later known _ _ => exact iff_of_false (by rw [known]; nofun) later
  | sendData payload draws =>
      refine iff_of_true ?_ trivial
      intro client peer stored alive known hit
      cases counted with
      | before _ unknown =>
          rw [unknown] at known
          cases known
      | after _ same below numbered =>
          rw [same] at known
          cases known
          have old := below _ _ hit
          have new := (numbered client alive).1
          omega
  | close => exact Iff.rfl

theorem below_put {session : ServerSession} {seq : Nat} {dedup : DedupWindow} {stored : Bytes}
    (last : session.lastPeerSeq = seq)
    (old : forall other reply, dedup.get other = some reply -> other ≤ seq) :
    forall other reply, (dedup.put seq stored).get other = some reply ->
      other ≤ session.lastPeerSeq := by
  intro other reply hit
  rw [last]
  rcases DedupWindow.mem_put (DedupWindow.mem_of_get hit) with before | new
  · exact old other reply (DedupWindow.get_of_mem before)
  · cases new
    exact Int.le_refl _

/-- An entry under the number of a request that was answered. -/
theorem counted_settled {server : UdpServer Addr} {session : ServerSession} {dedup : DedupWindow}
    {seq count : Nat} {stored : Bytes} {after : UdpServer Addr} {client next : UdpClient}
    (left : after = server.settle addr ⟨session, dedup.put seq stored⟩ false)
    (last : session.lastPeerSeq = seq)
    (old : forall other reply, dedup.get other = some reply -> other ≤ seq)
    (outSeq : next.outSeq = (client.outSeq + 1) &&& maxSeq) (own : client.outSeq = seq)
    (counted : seq ≤ count) (few : count + 1 < 2 ^ 32) :
    Counted addr (⟨after, some next⟩ : Succession Addr) (count + 1) := by
  have entry : after.peers addr = some ⟨session, dedup.put seq stored⟩ := by
    rw [left, UdpServer.peers_settle, Function.update_self]
    rfl
  have limit : maxSeq = 2 ^ 32 - 1 := rfl
  refine .after nofun entry (below_put last old) ?_
  intro found alive
  rw [live_some alive, last, outSeq, own, masked_succ (by omega)]
  omega

theorem Counted.connect {succession next : Succession Addr} {count : Nat}
    (few : count + 1 < 2 ^ 32) (inv : Inv runtime addr succession) {clientId : String}
    {maxRetries : Nat} {nonce : Nonce} {draws : Nat -> Draw}
    (fresh : succession.Fresh runtime addr (.connect clientId maxRetries nonce draws))
    (stepped : succession.step runtime addr (.connect clientId maxRetries nonce draws) =
      some next) : Counted addr next (count + 1) := by
  rw [step] at stepped
  by_cases free : succession.live = none
  · rcases fresh free with ⟨fits, unknown⟩
    rw [if_pos free] at stepped
    generalize greeted : succession.greeting runtime addr clientId maxRetries nonce draws =
      exchange at stepped
    have idle := idle_connecting succession.server.secret clientId maxRetries
    rcases follow_begin inv.sound inv.kept idle (.hello rfl rfl rfl) draws greeted with
      ⟨_, _, followed⟩
    cases followed with
    | unsent long => exact absurd fits (Nat.not_le_of_gt long)
    | sent _ outcome =>
        cases outcome with
        | cached known _ _ _ =>
            rw [unknown] at known
            cases known
        | echoed data _ _ _ _ _ _ => cases data
        | refused _ known _ => exact absurd unknown (known rfl)
        | welcomed _ _ left ready accepted joined handled =>
            dsimp only [Except.bind] at stepped
            rw [connected_helloAck] at stepped
            cases stepped
            refine counted_settled left accepted ?_ rfl rfl (Nat.zero_le count) few
            intro other reply hit
            rw [DedupWindow.get_empty] at hit
            cases hit
  · rw [if_neg free] at stepped
    cases stepped

theorem Counted.step {succession next : Succession Addr} {count : Nat} {call : ClientCall}
    (counted : Counted addr succession count) (few : count + 1 < 2 ^ 32)
    (inv : Inv runtime addr succession) (fresh : succession.Fresh runtime addr call)
    (stepped : succession.step runtime addr call = some next) :
    Counted addr next (count + 1) := by
  cases call with
  | connect clientId maxRetries nonce draws => exact .connect few inv fresh stepped
  | sendData payload draws =>
      rcases Option.map_eq_some_iff.mp stepped with ⟨client, alive, rfl⟩
      cases counted with
      | before first _ =>
          rw [live, first] at alive
          cases alive
      | after later known below numbered =>
          rcases numbered client alive with ⟨new, counts⟩
          generalize sent : succession.sending runtime addr client payload draws = exchange
          rcases follow_begin inv.sound inv.kept (inv.client client alive) (.data rfl) draws sent
            with ⟨_, _, followed⟩
          cases followed with
          | unsent long =>
              refine .after nofun known below ?_
              have limit : maxSeq = 2 ^ 32 - 1 := rfl
              intro found same
              rw [live_some same]
              dsimp only
              rw [masked_succ (by omega)]
              omega
          | sent fits outcome =>
              cases outcome with
              | cached same hit _ _ =>
                  rw [known] at same
                  cases same
                  have old := below _ _ hit
                  dsimp only at old
                  omega
              | echoed _ same missed left ready accepted joined =>
                  rw [known] at same
                  cases same
                  refine counted_settled left accepted ?_ rfl rfl counts few
                  intro other reply hit
                  have old := below other reply hit
                  dsimp only
                  omega
              | welcomed hello _ _ _ _ _ _ => cases hello
              | refused missed _ _ =>
                  have late := (missed _ known).2
                  dsimp only at late
                  omega
  | close =>
      rcases Option.map_eq_some_iff.mp stepped with ⟨client, alive, rfl⟩
      cases counted with
      | before first _ =>
          rw [live, first] at alive
          cases alive
      | after later known below numbered =>
          refine .after nofun known below ?_
          intro found closed
          cases closed

theorem along_fresh_iff_alone {succession : Succession Addr} {count : Nat}
    (counted : Counted addr succession count) (inv : Inv runtime addr succession)
    (calls : List ClientCall) (few : count + calls.length < 2 ^ 32) :
    Execution.Along (step runtime addr) (Fresh runtime addr) succession calls <->
      Execution.Along (step runtime addr) Alone succession calls := by
  induction calls generalizing succession count with
  | nil => exact Iff.rfl
  | cons call calls ih =>
      rw [List.length_cons] at few
      have agree : succession.Fresh runtime addr call <-> succession.Alone call :=
        counted.fresh_iff_alone call
      have later (now : succession.Fresh runtime addr call) {next : Succession Addr}
          (stepped : succession.step runtime addr call = some next) :=
        ih (counted.step (by omega) inv now stepped) (inv.step stepped) (by omega)
      constructor
      · intro along
        exact ⟨agree.mp along.1, fun next stepped =>
          (later along.1 stepped).mp (along.2 next stepped)⟩
      · intro along
        have now := agree.mpr along.1
        exact ⟨now, fun next stepped => (later now stepped).mpr (along.2 next stepped)⟩

theorem Inv.own_iff_fresh {succession : Succession Addr} (inv : Inv runtime addr succession)
    (call : ClientCall) : succession.Own runtime addr call <-> succession.Fresh runtime addr call := by
  cases call with
  | connect clientId maxRetries nonce draws => exact inv.own_connect clientId maxRetries nonce draws
  | sendData payload draws => exact inv.own_sendData payload draws
  | close => exact Iff.rfl

variable (runtime addr) in
theorem along_own_iff_fresh (secret : Bytes) (dedupWindow : Nat) (calls : List ClientCall) :
    Execution.Along (step runtime addr) (Own runtime addr) (start secret dedupWindow) calls <->
      Execution.Along (step runtime addr) (Fresh runtime addr) (start secret dedupWindow) calls := by
  have kept {before after : Succession Addr} {call : ClientCall} (inv : Inv runtime addr before)
      (_ : before.Own runtime addr call) (stepped : before.step runtime addr call = some after) :
      Inv runtime addr after := inv.step stepped
  exact Execution.along_iff (step runtime addr) (fun inv => inv.own_iff_fresh _) kept
    (inv_start secret dedupWindow) calls

variable (runtime addr) in
/-- A second client of the address does not get a session of its own. -/
theorem not_own_again (secret : Bytes) (dedupWindow : Nat) (clientId : String) (maxRetries : Nat)
    (nonce : Nonce) (draws : Nat -> Draw) :
    ¬ Execution.Along (step runtime addr) (Own runtime addr) (start secret dedupWindow)
      [.connect clientId maxRetries nonce draws, .close,
        .connect clientId maxRetries nonce draws] := by
  intro along
  have counted : Counted addr (start secret dedupWindow) 0 := .before rfl rfl
  have few : 0 + [ClientCall.connect clientId maxRetries nonce draws, .close,
      .connect clientId maxRetries nonce draws].length < 2 ^ 32 := by
    simp
  have alone := (along_fresh_iff_alone counted (inv_start secret dedupWindow) _ few).mp
    ((along_own_iff_fresh runtime addr secret dedupWindow _).mp along)
  rcases along.1 rfl with ⟨client, _, _, _, connected, _⟩
  rcases connected_eq connected with ⟨sessionId, same⟩
  generalize greeted : (start secret dedupWindow).greeting runtime addr clientId maxRetries nonce
    draws = exchange at connected same
  have opened : step runtime addr (start secret dedupWindow)
      (.connect clientId maxRetries nonce draws) = some ⟨exchange.server, some client⟩ := by
    have free : (start secret dedupWindow : Succession Addr).live = none := rfl
    rw [step, if_pos free, greeted]
    dsimp only
    rw [connected]
  have alive : live ⟨exchange.server, some client⟩ = some client := by
    rw [live, same]
    rfl
  have closed : step runtime addr ⟨exchange.server, some client⟩ .close =
      some ⟨exchange.server, some client.close⟩ := by
    rw [step, alive]
    rfl
  have again := ((alone.2 _ opened).2 _ closed).1 rfl
  cases again.2

/-- In every run of clients of one address, every client gets its own session
and its own answers exactly if no `connect` meets an entry of the server for
the address, and no request another reply in the window.  As long as no
counter wraps, this leaves the first client. -/
theorem along_own_iff (secret : Bytes) (dedupWindow : Nat) (calls : List ClientCall) :
    (Execution.Along (step runtime addr) (Own runtime addr) (start secret dedupWindow) calls <->
        Execution.Along (step runtime addr) (Fresh runtime addr) (start secret dedupWindow) calls) ∧
      (calls.length < 2 ^ 32 ->
        (Execution.Along (step runtime addr) (Own runtime addr) (start secret dedupWindow) calls <->
          Execution.Along (step runtime addr) Alone (start secret dedupWindow) calls)) := by
  have exactly := along_own_iff_fresh runtime addr secret dedupWindow calls
  refine ⟨exactly, fun few => exactly.trans ?_⟩
  have none : Counted addr (start secret dedupWindow) 0 := .before rfl rfl
  exact along_fresh_iff_alone none (inv_start secret dedupWindow) calls (by omega)

/-- The second client does not get a session that the server issued to it. -/
theorem successor_not_own :
    ¬ Execution.Along (step Reference.runtime (0 : Nat)) (Own Reference.runtime 0)
      (start Reference.secret 1)
      [.connect "client" 5 Reference.nonce fun _ => ⟨Reference.sessionId, Reference.nonce⟩, .close,
        .connect "client" 5 Reference.nonce fun _ => ⟨Reference.sessionId, Reference.nonce⟩] :=
  not_own_again Reference.runtime 0 Reference.secret 1 "client" 5 Reference.nonce _

end Succession
end Wireline
