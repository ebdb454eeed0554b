import Wireline.Reference
import Wireline.Udp.Network

namespace Wireline

/-!
# A network without faults

Where the datagram of a request is delivered once, and its answer once, the
request returns in four steps.  A PING or DATA is echoed and the session goes
on; a BYE is answered with BYE and the entry is gone.
-/

namespace World

variable {Addr : Type} {runtime : Runtime} {deployment : Deployment Addr}

/-- One request, with both of its datagrams delivered at once. -/
def faultless (start : Event) (number : Nat) (draw : Draw) : List Event :=
  [start, .deliver number draw, .arrive number, .poll]

/-- Between two requests of a run without faults. -/
structure Idle (deployment : Deployment Addr) (world : World Addr) (number : Nat) : Prop where
  pending : world.pending = none
  queue : world.client.queue = []
  secret : world.client.secret = deployment.secret
  sendto : 0 < number -> world.client.sendto = true
  outSeq : world.client.outSeq = number
  issued : world.issued.length = number
  toServer : world.toServer.length = number
  toClient : world.toClient.length = number
  serverSecret : world.server.secret = deployment.secret
  sound : world.server.Sound

/-- The entry of the client after its first `number` requests. -/
structure Attended (deployment : Deployment Addr) (world : World Addr) (number : Nat)
    (peer : Peer) : Prop where
  known : world.server.peers deployment.addr = some peer
  ready : peer.session.state = .ready
  last : peer.session.lastPeerSeq + 1 = number
  below : forall seq stored, peer.dedup.get seq = some stored -> seq ≤ peer.session.lastPeerSeq
  newest : ∃ stored, peer.dedup.get peer.session.lastPeerSeq = some stored

theorem idle_start : Idle deployment (start deployment) 0 where
  pending := rfl
  queue := rfl
  secret := rfl
  sendto := nofun
  outSeq := rfl
  issued := rfl
  toServer := rfl
  toClient := rfl
  serverSecret := rfl
  sound := UdpServer.sound_start deployment.secret deployment.dedupWindow

variable [DecidableEq Addr]

/-- A request whose answer is delivered returns the reply in it. -/
theorem run_faultless {world : World Addr} {number : Nat} (idle : Idle deployment world number)
    {start : Event} {request : Request} {client : UdpClient} {pending : Pending} {data : Bytes}
    (begun : world.step runtime deployment start =
      some (world.issue request (client, .waiting pending data)))
    (queue : client.queue = []) {draw : Draw} {delivery : Delivery Addr}
    (delivered : world.server.onDatagram runtime data deployment.addr draw = delivery)
    {stored : Bytes} (sent : delivery.sent = [(stored, deployment.addr)]) {reply : Frame}
    (judged : UdpClient.judge runtime client.secret pending.seq stored = .returned reply) :
    ∃ handed, Execution.run (World.step runtime deployment) world (faultless start number draw) =
      some (World.finish runtime
        { world with
          server := delivery.server, client := { client with queue := [stored] },
          pending := some pending, toServer := world.toServer ++ [data],
          toClient := world.toClient ++ [⟨stored, data⟩], issued := world.issued ++ [request],
          handed := handed, calls := world.calls ++ delivery.calls }
        client pending (some stored) (.ok reply)) := by
  have emptied : ({ client with queue := [] } : UdpClient) = client := by rw [← queue]
  have toServer : (world.toServer ++ [data])[number]? = some data := by
    rw [← idle.toServer]
    exact List.getElem?_concat_length
  have toClient : (world.toClient ++ [(⟨stored, data⟩ : Answer)])[number]? = some ⟨stored, data⟩ := by
    rw [← idle.toClient]
    exact List.getElem?_concat_length
  have awaited : UdpClient.awaitReply runtime client.secret pending.seq [stored] =
      (some (stored, .ok reply), []) := by
    rw [UdpClient.awaitReply, judged]
  refine ⟨(if (world.server.peers deployment.addr).isNone then [] else world.handed) ++
    delivery.handed.toList, ?_⟩
  rw [faultless, Execution.run, begun]
  simp only [Option.bind_some, Execution.run, World.step, issue, toServer, Option.map_some,
    World.deliver, delivered, sent, List.map_cons, List.map_nil, toClient,
    UdpClient.datagramReceived, queue, List.nil_append, awaited, emptied]

/-- The answer that a session with this entry gives to a request. -/
theorem Idle.replied {world : World Addr} {number : Nat} (idle : Idle deployment world number)
    (room : number < 2 ^ 32) {msgType : MsgType} {payload : Bytes}
    (fits : payload.length ≤ maxPayload) {draw : Draw} {peer : Peer}
    (here : world.server.peer deployment.addr draw = peer)
    (missed : peer.dedup.get number = none) {turn : Turn}
    (turned : { peer.session with outSeq := (peer.session.outSeq + 1) &&& maxSeq }.onFrame runtime
      draw.nonce (Pending.frame ⟨msgType, payload, number, 0⟩) = turn)
    {reaction : Reaction} (result : turn.result = .ok reaction) {reply : Frame}
    (single : reaction.frames = [reply]) (good : reply.msgType ≠ .error) :
    ∃ data stored delivery,
      encode runtime.toDigests (Pending.frame ⟨msgType, payload, number, 0⟩) deployment.secret =
          .ok data ∧
        world.server.onDatagram runtime data deployment.addr draw = delivery ∧
        delivery.server = world.server.settle deployment.addr
          ⟨turn.session, peer.dedup.put number stored⟩ reaction.close ∧
        delivery.sent = [(stored, deployment.addr)] ∧ delivery.calls = turn.calls ∧
        UdpClient.judge runtime deployment.secret number stored = .returned reply := by
  have range : (0 : Int) ≤ number ∧ (number : Int) ≤ maxSeq := by
    have limit : maxSeq = 2 ^ 32 - 1 := rfl
    omega
  have checks : Encodable (Pending.frame ⟨msgType, payload, number, 0⟩) :=
    encodable_requireAck fits range
  rcases exists_encode runtime.toDigests checks deployment.secret with ⟨data, encoded⟩
  have decoded := decode_of_encode runtime.toDigests encoded
  rw [← idle.serverSecret] at decoded
  rcases UdpServer.onDatagram_replied runtime idle.sound decoded (Pending.asks _) here missed turned
    result single with ⟨stored, joined, delivered⟩
  have judged := UdpClient.judge_join range joined
  rw [List.getLastD_cons, List.getLastD_nil, UdpClient.takeReply, if_neg good,
    idle.serverSecret] at judged
  exact ⟨data, stored, _, encoded, delivered, rfl, rfl, rfl, judged⟩

theorem Idle.begin {world : World Addr} {number : Nat} (idle : Idle deployment world number)
    (later : 0 < number) (room : number < 2 ^ 32) {msgType : MsgType} (own : msgType ∈ deployment.requests)
    {payload data : Bytes} (encoded : encode runtime.toDigests
      (Pending.frame ⟨msgType, payload, number, 0⟩) deployment.secret = .ok data) :
    world.step runtime deployment (.request msgType payload) =
      some (world.issue ⟨msgType, payload⟩
        ({ world.client with outSeq := (number + 1) &&& maxSeq },
          .waiting ⟨msgType, payload, number, 0⟩ data)) := by
  have issued : world.issued ≠ [] := by
    rintro empty
    have length := idle.issued
    rw [empty, List.length_nil] at length
    omega
  have able : world.pending.isNone ∧ world.issued ≠ [] ∧ world.issued.length < 2 ^ 32 ∧
      msgType ∈ deployment.requests :=
    ⟨by rw [idle.pending]; rfl, issued, by rw [idle.issued]; exact room, own⟩
  rw [← idle.secret, ← idle.outSeq] at encoded
  rw [World.step, if_pos able, UdpClient.begin_waiting (idle.sendto later) encoded, idle.outSeq]

omit [DecidableEq Addr] in
theorem Idle.finish {world : World Addr} {number : Nat} (idle : Idle deployment world number)
    (room : number + 1 < 2 ^ 32) {server : UdpServer Addr}
    (secret : server.secret = world.server.secret) (sound : server.Sound) {client : UdpClient}
    (queue : client.queue = []) (clientSecret : client.secret = world.client.secret) (sendto : client.sendto = true)
    (outSeq : client.outSeq = (number + 1) &&& maxSeq) (data : Bytes) (answer : Answer)
    (request : Request) (completion : Completed) (handed : List Frame) (calls : List Call) :
    Idle deployment
      { world with
        server := server, client := client, pending := none, toServer := world.toServer ++ [data],
        toClient := world.toClient ++ [answer], issued := world.issued ++ [request],
        completed := world.completed ++ [completion], handed := handed, calls := calls }
      (number + 1) where
  pending := rfl
  queue := queue
  secret := clientSecret.trans idle.secret
  sendto := fun _ => sendto
  outSeq := by
    have limit : maxSeq = 2 ^ 32 - 1 := rfl
    rw [outSeq, masked_succ (by omega)]
  issued := by rw [List.length_append, idle.issued, List.length_singleton]
  toServer := by rw [List.length_append, idle.toServer, List.length_singleton]
  toClient := by rw [List.length_append, idle.toClient, List.length_singleton]
  serverSecret := secret.trans idle.serverSecret
  sound := sound

/-- A request that returned, with the calls of the server in it. -/
structure Returned (runtime : Runtime) (deployment : Deployment Addr) (world next : World Addr)
    (number : Nat) (request : Request) (reply : Frame) (calls : List Call) (data : Bytes) : Prop where
  idle : Idle deployment next (number + 1)
  toServer : next.toServer = world.toServer ++ [data]
  decoded : decode runtime.toDigests data (some deployment.secret) =
    .ok (Pending.frame ⟨request.msgType, request.payload, number, 0⟩)
  issued : next.issued = world.issued ++ [request]
  calls : next.calls = world.calls ++ calls
  completed : ∃ stored, next.completed =
    world.completed ++ [⟨request, number, some stored, .ok reply⟩]

/-- A request that the server answers returns its answer. -/
theorem Idle.request {world : World Addr} {number : Nat} (idle : Idle deployment world number)
    (later : 0 < number) (room : number + 1 < 2 ^ 32) {msgType : MsgType}
    (own : msgType ∈ deployment.requests) {payload : Bytes} (fits : payload.length ≤ maxPayload)
    {draw : Draw} {peer : Peer} (here : world.server.peer deployment.addr draw = peer)
    (missed : peer.dedup.get number = none) {turn : Turn}
    (turned : { peer.session with outSeq := (peer.session.outSeq + 1) &&& maxSeq }.onFrame runtime
      draw.nonce (Pending.frame ⟨msgType, payload, number, 0⟩) = turn)
    {reaction : Reaction} (result : turn.result = .ok reaction) {reply : Frame}
    (single : reaction.frames = [reply]) (good : reply.msgType ≠ .error) :
    ∃ next data stored,
      Execution.run (World.step runtime deployment) world
          (faultless (.request msgType payload) number draw) = some next ∧
        Returned runtime deployment world next number ⟨msgType, payload⟩ reply turn.calls data ∧
        next.server = world.server.settle deployment.addr
          ⟨turn.session, peer.dedup.put number stored⟩ reaction.close := by
  rcases idle.replied (by omega) fits here missed turned result single good with
    ⟨data, stored, delivery, encoded, delivered, server, sent, calls, judged⟩
  have begun := idle.begin later (by omega) own encoded
  rw [← idle.secret] at judged
  have queue : UdpClient.queue { world.client with outSeq := (number + 1) &&& maxSeq } = [] :=
    idle.queue
  rcases run_faultless idle begun queue delivered sent judged with ⟨handed, reached⟩
  rw [World.finish, if_neg (Nat.ne_of_gt later)] at reached
  have receipt := UdpServer.onDatagram_receipt runtime idle.sound data deployment.addr draw
  rw [delivered] at receipt
  refine ⟨_, data, stored, reached, ⟨?_, rfl, decode_of_encode _ encoded, rfl, ?_, stored, rfl⟩, server⟩
  · exact idle.finish room receipt.secret (receipt.sound idle.sound) queue rfl
      (idle.sendto later) rfl data _ _ _ _ _
  · exact congrArg (world.calls ++ ·) calls

/-! ## Each kind of request -/

omit [DecidableEq Addr] in
theorem Attended.missed {world : World Addr} {number : Nat} {peer : Peer}
    (attended : Attended deployment world number peer) : peer.dedup.get number = none := by
  cases hit : peer.dedup.get number with
  | none => rfl
  | some stored =>
      have old := attended.below _ _ hit
      have last := attended.last
      omega

/-- The entry after a reply that keeps the session. -/
theorem attended_settled {world next : World Addr} {number : Nat} {dedup : DedupWindow}
    {session : ServerSession} {stored : Bytes}
    (server : next.server = world.server.settle deployment.addr ⟨session, dedup.put number stored⟩
      false)
    (ready : session.state = .ready) (last : session.lastPeerSeq = number)
    (below : forall seq reply, dedup.get seq = some reply -> seq ≤ number)
    (window : 0 < dedup.size) :
    Attended deployment next (number + 1) ⟨session, dedup.put number stored⟩ where
  known := by rw [server, UdpServer.peers_settle_self]
  ready := ready
  last := by
    dsimp only
    rw [last]
    omega
  below := by
    intro seq reply hit
    dsimp only at hit ⊢
    rw [last]
    rcases DedupWindow.mem_put (DedupWindow.mem_of_get hit) with old | new
    · exact below seq reply (DedupWindow.get_of_mem old)
    · cases new
      exact Int.le_refl _
  newest := by
    dsimp only
    rw [last]
    exact ⟨stored, dedup.get_put_self window number stored⟩

variable (runtime) in
/-- A PING or DATA is echoed, and the session goes on. -/
theorem Attended.echo {world : World Addr} {number : Nat} {peer : Peer}
    (attended : Attended deployment world number peer) (idle : Idle deployment world number)
    (window : 0 < peer.dedup.size) (later : 0 < number) (room : number + 1 < 2 ^ 32)
    {msgType kind : MsgType} (asks : echoType msgType = some kind)
    (own : msgType ∈ deployment.requests) {payload : Bytes} (fits : payload.length ≤ maxPayload)
    (draw : Draw) :
    ∃ next data outSeq after,
      Execution.run (World.step runtime deployment) world
          (faultless (.request msgType payload) number draw) = some next ∧
        Returned runtime deployment world next number ⟨msgType, payload⟩ ⟨kind, outSeq, payload, 0⟩
          (.dispatch (Pending.frame ⟨msgType, payload, number, 0⟩) ::
            if msgType = .data then [.onData (Pending.frame ⟨msgType, payload, number, 0⟩)] else [])
          data ∧
        Attended deployment next (number + 1) after ∧ after.dedup.size = peer.dedup.size := by
  have last := attended.last
  have accepted : peer.session.lastPeerSeq < number := by omega
  have good (outSeq : Int) : Frame.msgType ⟨kind, outSeq, payload, 0⟩ ≠ .error := by
    rintro rfl
    cases msgType <;> cases asks
  have ready : ServerSession.state
      { peer.session with outSeq := (peer.session.outSeq + 1) &&& maxSeq } = .ready := attended.ready
  have echoes : echoType (Pending.frame ⟨msgType, payload, number, 0⟩).msgType = some kind := asks
  rcases idle.request later room own fits (UdpServer.peer_of_known attended.known draw)
    attended.missed (onFrame_echoed runtime draw.nonce ready accepted echoes) rfl rfl (good _) with
    ⟨next, data, stored, reached, returned, server⟩
  have below (seq : Int) (reply : Bytes) (hit : peer.dedup.get seq = some reply) : seq ≤ number := by
    have old := attended.below seq reply hit
    omega
  have attends := attended_settled server attended.ready rfl below window
  exact ⟨next, data, _, _, reached, returned, attends, rfl⟩

variable (runtime) in
/-- A BYE is answered with BYE, and the entry is gone. -/
theorem Attended.farewell {world : World Addr} {number : Nat} {peer : Peer}
    (attended : Attended deployment world number peer) (idle : Idle deployment world number)
    (later : 0 < number) (room : number + 1 < 2 ^ 32) (own : .bye ∈ deployment.requests)
    (draw : Draw) :
    ∃ next data outSeq,
      Execution.run (World.step runtime deployment) world
          (faultless (.request .bye []) number draw) = some next ∧
        Returned runtime deployment world next number ⟨.bye, []⟩ ⟨.bye, outSeq, [], 0⟩
          [.dispatch (Pending.frame ⟨.bye, [], number, 0⟩)] data ∧
        next.server.peers deployment.addr = none := by
  have last := attended.last
  have accepted : peer.session.lastPeerSeq < number := by omega
  have empty : ([] : Bytes).length ≤ maxPayload := Nat.zero_le _
  rcases idle.request later room own empty (UdpServer.peer_of_known attended.known draw)
    attended.missed (onFrame_farewell runtime draw.nonce attended.ready accepted rfl) rfl rfl nofun
    with ⟨next, data, stored, reached, returned, server⟩
  refine ⟨next, data, _, reached, returned, ?_⟩
  rw [server]
  exact UdpServer.peers_settle_closed ..

variable (runtime) (deployment)

/-- The first exchange is the handshake. -/
theorem connect_faultless (nonce : Nonce) (draw : Draw)
    (fits : (encodeHello deployment.clientId nonce.text).length ≤ maxPayload) :
    ∃ next data reply peer,
      Execution.run (World.step runtime deployment) (start deployment)
          (faultless (.connect nonce) 0 draw) = some next ∧
        Returned runtime deployment (start deployment) next 0
          ⟨.hello, encodeHello deployment.clientId nonce.text⟩ reply
          [.dispatch (Pending.frame ⟨.hello, encodeHello deployment.clientId nonce.text, 0, 0⟩),
            .onHello (Pending.frame ⟨.hello, encodeHello deployment.clientId nonce.text, 0, 0⟩)]
          data ∧
        Attended deployment next 1 peer ∧ peer.dedup.size = deployment.dedupWindow := by
  have idle : Idle deployment (start deployment) 0 := idle_start
  have unknown : (start deployment).server.peers deployment.addr = none := rfl
  have accepted : (-1 : Int) < (0 : Nat) := by decide
  rcases idle.replied (by decide) fits (UdpServer.peer_of_unknown unknown draw) rfl
    (onFrame_welcomed runtime draw.nonce rfl accepted rfl
      (decodeHello_encodeHello runtime deployment.clientId nonce.text)) rfl rfl nofun with
    ⟨data, stored, delivery, encoded, delivered, server, sent, calls, judged⟩
  have begun : (start deployment).step runtime deployment (.connect nonce) =
      some ((start deployment).issue ⟨.hello, encodeHello deployment.clientId nonce.text⟩
        ({ UdpClient.init deployment.secret deployment.clientId deployment.maxRetries with
            transport := true, sendto := true, state := .handshake, outSeq := (0 + 1) &&& maxSeq },
          .waiting ⟨.hello, encodeHello deployment.clientId nonce.text, 0, 0⟩ data)) := by
    have fresh : (start deployment).issued = [] := rfl
    have waiting := UdpClient.connect_waiting
      (show encode runtime.toDigests (Pending.frame ⟨.hello,
        encodeHello (start deployment).client.clientId nonce.text, (start deployment).client.outSeq,
        0⟩) (start deployment).client.secret = .ok data from encoded)
    rw [World.step, if_pos fresh, waiting]
    rfl
  rcases run_faultless idle begun rfl delivered sent judged with ⟨handed, reached⟩
  rw [World.finish, if_pos (rfl : (0 : Nat) = 0), UdpClient.connected_helloAck] at reached
  have receipt := UdpServer.onDatagram_receipt runtime idle.sound data deployment.addr draw
  rw [delivered] at receipt
  have few : 0 + 1 < 2 ^ 32 := by decide
  have below (seq : Int) (reply : Bytes)
      (hit : (DedupWindow.empty deployment.dedupWindow).get seq = some reply) : seq ≤ (0 : Nat) := by
    rw [DedupWindow.get_empty] at hit
    cases hit
  refine ⟨_, data, _, _, reached, ⟨?_, rfl, decode_of_encode _ encoded, rfl, calls, stored, rfl⟩,
    attended_settled server rfl rfl below deployment.window_pos, rfl⟩
  apply idle.finish few receipt.secret (receipt.sound idle.sound)
  · exact idle.queue
  · rfl
  · rfl
  · rfl

/-- The handshake and one DATA. -/
theorem data_faultless (nonce : Nonce) (draw : Draw)
    (greets : (encodeHello deployment.clientId nonce.text).length ≤ maxPayload)
    (own : .data ∈ deployment.requests) {payload : Bytes} (fits : payload.length ≤ maxPayload) :
    ∃ next hello data outSeq peer greeting stored,
      Execution.run (World.step runtime deployment) (start deployment)
          (faultless (.connect nonce) 0 draw ++ faultless (.request .data payload) 1 draw) =
        some next ∧
      Idle deployment next 2 ∧ Attended deployment next 2 peer ∧
      peer.dedup.size = deployment.dedupWindow ∧ next.toServer = [hello, data] ∧
      decode runtime.toDigests hello (some deployment.secret) = .ok
        (Pending.frame ⟨.hello, encodeHello deployment.clientId nonce.text, 0, 0⟩) ∧
      decode runtime.toDigests data (some deployment.secret) = .ok
        (Pending.frame ⟨.data, payload, 1, 0⟩) ∧
      next.issued =
        [⟨.hello, encodeHello deployment.clientId nonce.text⟩, ⟨.data, payload⟩] ∧
      next.calls =
        [.dispatch (Pending.frame ⟨.hello, encodeHello deployment.clientId nonce.text, 0, 0⟩),
          .onHello (Pending.frame ⟨.hello, encodeHello deployment.clientId nonce.text, 0, 0⟩),
          .dispatch (Pending.frame ⟨.data, payload, 1, 0⟩),
          .onData (Pending.frame ⟨.data, payload, 1, 0⟩)] ∧
      next.completed =
        [greeting, ⟨⟨.data, payload⟩, 1, some stored, .ok ⟨.data, outSeq, payload, 0⟩⟩] := by
  rcases connect_faultless runtime deployment nonce draw greets with
    ⟨middle, hello, reply, peer, connected, greeted, attended, sized⟩
  have window : 0 < peer.dedup.size := by
    rw [sized]
    exact deployment.window_pos
  rcases attended.echo runtime greeted.idle window Nat.one_pos (by decide) rfl own fits draw with
    ⟨next, data, outSeq, after, requested, returned, attends, same⟩
  rcases greeted.completed with ⟨greeting, first⟩
  rcases returned.completed with ⟨stored, second⟩
  refine ⟨next, hello, data, outSeq, after,
    ⟨⟨.hello, encodeHello deployment.clientId nonce.text⟩, 0, some greeting, .ok reply⟩, stored, ?_,
    returned.idle, attends, same.trans sized, ?_, greeted.decoded, returned.decoded, ?_, ?_, ?_⟩
  · exact Execution.run_trans _ connected requested
  · rw [returned.toServer, greeted.toServer]
    rfl
  · rw [returned.issued, greeted.issued]
    rfl
  · rw [returned.calls, greeted.calls]
    rfl
  · rw [second, first]
    rfl

end World

def Reference.draw : Draw := ⟨sessionId, nonce⟩

/-- A deployment with the smallest window. -/
def Reference.deployment : Deployment Nat where
  addr := 0
  secret := secret
  dedupWindow := 1
  window_pos := Nat.le_refl 1
  clientId := "client"
  maxRetries := 5
  requests := [.data, .ping, .bye]

/-- The same for a client that never says BYE. -/
def Reference.echoes : Deployment Nat := { Reference.deployment with requests := [.data, .ping] }

end Wireline
