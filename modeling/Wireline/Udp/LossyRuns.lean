import Wireline.Udp.Lossy

namespace Wireline

open Retrying

/-!
# Calls over lossy links

A client connects and then issues its requests, one after the other, whatever
the links do.  Each call is settled by its own attempts: it returns its own
reply as soon as one attempt is answered, and it times out after the last of
them otherwise.  The session handles it once if any attempt arrives.
-/

/-- A call of `request` that is over, with its attempts. -/
structure Account (Addr : Type) where
  request : Request
  seq : Nat
  result : Except PyError Frame
  trials : List (Trial Addr)

/-- The type of the reply that a session gives to a request. -/
def replyType : MsgType -> Option MsgType
  | .hello => some .helloAck
  | msgType => echoType msgType

/-- What a session runs for a request. -/
def handlers (frame : Frame) : List Call :=
  .dispatch frame ::
    if frame.msgType = .hello then [.onHello frame]
    else if frame.msgType = .data then [.onData frame] else []

/-- A run: the hooks' state, both ends, and the calls so far. -/
structure LossyWorld (Link Addr : Type) where
  link : Link
  server : UdpServer Addr
  client : UdpClient
  accounts : List (Account Addr)

/-- A call that the program makes.  `draws` are the server's in each attempt. -/
inductive LossyCall
  | connect (nonce : Nonce) (draws : Nat -> Draw)
  | request (request : Request) (draws : Nat -> Draw)

namespace LossyWorld

variable {Link Addr : Type}

def start (deployment : Deployment Addr) (link : Link) : LossyWorld Link Addr :=
  ⟨link, .start deployment.secret deployment.dedupWindow,
    .init deployment.secret deployment.clientId deployment.maxRetries, []⟩

/-- The run after a call, for the client that the call leaves. -/
def settle (world : LossyWorld Link Addr) (request : Request) (exchange : LossyExchange Link Addr)
    (client : UdpClient) : LossyWorld Link Addr :=
  ⟨exchange.link, exchange.server, client,
    world.accounts ++ [⟨request, world.client.outSeq, exchange.result, exchange.trials⟩]⟩

variable [DecidableEq Addr] (runtime : Runtime) (deployment : Deployment Addr) (hooks : Hooks Link)

def step (world : LossyWorld Link Addr) : LossyCall -> Option (LossyWorld Link Addr)
  | .connect nonce draws =>
      if world.client.state = .new then
        let exchange := lossyFollow runtime deployment.addr hooks world.link world.server draws
          (world.client.connect runtime nonce)
        let request := ⟨.hello, encodeHello world.client.clientId nonce.text⟩
        match exchange.result.bind (exchange.client.connected runtime) with
        | .ok client => some (world.settle request exchange client)
        | .error _ => some (world.settle request exchange exchange.client)
      else none
  | .request request draws =>
      -- the program asks for echoes, and stops before the counter wraps
      if world.client.state = .ready ∧ (echoType request.msgType).isSome ∧
          world.accounts.length < 2 ^ 32 then
        let exchange := lossyFollow runtime deployment.addr hooks world.link world.server draws
          (world.client.begin runtime request.msgType request.payload)
        some (world.settle request exchange exchange.client)
      else none

end LossyWorld

/-! ## One request -/

/-- What a session does with the first arrival of a request. -/
structure FirstArrival (request : Request) (seq : Nat) (session : ServerSession) (reply : Frame)
    (calls : List Call) : Prop where
  ready : session.state = .ready
  last : session.lastPeerSeq = seq
  kind : replyType request.msgType = some reply.msgType
  echoed : request.msgType ≠ .hello -> reply.payload = request.payload
  welcomed : request.msgType = .hello ->
    ∃ nonce, reply.payload = encodeHelloAck session.sessionId.text nonce
  ran : ∃ attempt, calls = handlers (Pending.frame ⟨request.msgType, request.payload, seq, attempt⟩)

/-- A call ends as its attempts determine. -/
structure Account.Settled {Addr : Type} (digests : Digests) (deployment : Deployment Addr)
    (account : Account Addr) : Prop where
  unsent : maxPayload < account.request.payload.length -> account.trials = [] ∧
    ∃ error, encode digests
        (Pending.frame ⟨account.request.msgType, account.request.payload, account.seq, 0⟩)
        deployment.secret = .error error ∧
      account.result = .error (.protocolError error)
  tries : account.request.payload.length ≤ maxPayload ->
    Tries Trial.answered deployment.maxRetries account.trials
  returned : account.trials.any Trial.answered = true -> ∃ reply, account.result = .ok reply ∧
    replyType account.request.msgType = some reply.msgType ∧
    (account.request.msgType ≠ .hello -> reply.payload = account.request.payload)
  timedOut : account.request.payload.length ≤ maxPayload ->
    account.trials.any Trial.answered = false ->
      account.result = .error (noReply account.seq deployment.maxRetries)
  once : if account.trials.any Trial.reached then
      ∃ attempt, account.trials.flatMap Trial.calls = handlers
        (Pending.frame ⟨account.request.msgType, account.request.payload, account.seq, attempt⟩)
    else account.trials.flatMap Trial.calls = []

section

variable {Link Addr : Type} [DecidableEq Addr] {runtime : Runtime} {addr : Addr}
  {hooks : Hooks Link}

variable (runtime) (addr) (hooks) in
/-- A request is not sent, or it ends as its attempts determine. -/
inductive Concluded (server : UdpServer Addr) (dedup : DedupWindow) (request : Request)
    (first : ServerSession -> Frame -> List Call -> Prop) (link : Link) (client : UdpClient) :
    LossyExchange Link Addr -> Prop
  | unsent (long : maxPayload < request.payload.length) {error : ProtocolError}
      (refused : encode runtime.toDigests
        (Pending.frame ⟨request.msgType, request.payload, client.outSeq, 0⟩) server.secret =
          .error error) :
      Concluded server dedup request first link client
        ⟨link, server, { client with outSeq := (client.outSeq + 1) &&& maxSeq },
          .error (.protocolError error), []⟩
  | sent (fits : request.payload.length ≤ maxPayload) {exchange : LossyExchange Link Addr}
      (ended : Ended hooks (Handled runtime.toDigests addr server dedup client.outSeq first)
        (StoredReply addr dedup client.outSeq first) link
        { client with outSeq := (client.outSeq + 1) &&& maxSeq } client.outSeq 0 0 [] exchange) :
      Concluded server dedup request first link client exchange

variable (hooks) in
theorem lossyFollow_begin {server : UdpServer Addr} (sound : server.Sound) {dedup : DedupWindow}
    (window : 0 < dedup.size) (client : UdpClient) (numbered : client.outSeq ≤ maxSeq)
    (sendto : client.sendto = true) (idle : client.queue = []) (keyed : client.secret = server.secret)
    (missed : dedup.get client.outSeq = none) {request : Request} {draws : Nat -> Draw}
    {first : ServerSession -> Frame -> List Call -> Prop}
    (handles : forall attempt, ∃ peer session reply calls,
      server.peer addr (draws attempt) = peer ∧ peer.dedup = dedup ∧
      { peer.session with outSeq := (peer.session.outSeq + 1) &&& maxSeq }.onFrame runtime
          (draws attempt).nonce
          (Pending.frame ⟨request.msgType, request.payload, client.outSeq, attempt⟩) =
        ⟨session, .ok { frames := [reply] }, calls⟩ ∧
      first session reply calls ∧ reply.msgType ≠ .error) (link : Link) :
    Concluded runtime addr hooks server dedup request first link client
      (lossyFollow runtime addr hooks link server draws
        (client.begin runtime request.msgType request.payload)) := by
  cases encoded : encode runtime.toDigests
      (Pending.frame ⟨request.msgType, request.payload, client.outSeq, 0⟩) server.secret with
  | error error =>
      have long : maxPayload < request.payload.length := by
        by_contra short
        have checks := encodable_attempt numbered (Nat.le_of_not_lt short) request.msgType 0
        rcases exists_encode runtime.toDigests checks server.secret with ⟨raw, same⟩
        rw [same] at encoded
        cases encoded
      have refused := encoded
      rw [← keyed] at encoded
      rw [UdpClient.begin, if_neg (Bool.ne_false_iff.mpr sendto)]
      dsimp only
      rw [UdpClient.transmit, encoded]
      exact .unsent long refused
  | ok data =>
      have fits := ((encode_ok_iff runtime.toDigests _ _ _).mp encoded).1.payload
      have serves := serves_handled sound window numbered missed handles
      have own := encoded
      rw [← keyed] at own
      rw [UdpClient.begin_waiting sendto own]
      exact .sent fits (serves.ended numbered fits idle keyed encoded .untouched)

namespace Concluded

variable {server : UdpServer Addr} {dedup : DedupWindow} {request : Request}
  {first : ServerSession -> Frame -> List Call -> Prop} {link : Link} {client : UdpClient}
  {exchange : LossyExchange Link Addr}
  (concluded : Concluded runtime addr hooks server dedup request first link client exchange)
include concluded

theorem client_eq : ∃ retransmits, exchange.client =
    { client with outSeq := (client.outSeq + 1) &&& maxSeq, retransmits := retransmits } := by
  cases concluded with
  | unsent long refused => exact ⟨_, rfl⟩
  | sent fits ended => exact ⟨_, ended.left⟩

/-- A reply that is returned was left by the first arrival. -/
theorem stored_of_ok {reply : Frame} (returned : exchange.result = .ok reply) :
    StoredReply addr dedup client.outSeq first reply exchange.server := by
  cases concluded with
  | unsent long refused => cases returned
  | sent fits ended =>
      cases answered : exchange.trials.any Trial.answered with
      | true =>
          rcases ended.returned answered with ⟨same, result, stored⟩
          rw [returned] at result
          cases result
          exact stored
      | false =>
          have timedOut := ended.timedOut answered
          rw [returned] at timedOut
          cases timedOut

/-- An answer is returned. -/
theorem ok_of_answered (answered : exchange.trials.any Trial.answered = true) :
    ∃ reply, exchange.result = .ok reply := by
  cases concluded with
  | unsent long refused => cases answered
  | sent fits ended =>
      rcases ended.returned answered with ⟨reply, result, _⟩
      exact ⟨reply, result⟩

/-- The entry of the address is as it was, or as the first arrival left it. -/
theorem entry : exchange.server.peers addr = server.peers addr ∨
    ∃ reply, StoredReply addr dedup client.outSeq first reply exchange.server := by
  cases concluded with
  | unsent long refused => exact .inl rfl
  | sent fits ended =>
      have phase := ended.phase
      rw [Nat.zero_add] at phase
      generalize [] ++ exchange.trials.flatMap Trial.calls = calls at phase
      generalize exchange.trials.countP Trial.reached = arrivals at phase
      generalize exchange.server = after at phase ⊢
      cases phase with
      | untouched => exact .inl rfl
      | stored ran good joined kept again =>
          exact .inr ⟨_, _, _, _, UdpServer.peers_settle_self .., ran⟩

end Concluded

/-- What some arrivals of a request add to the counters of the server. -/
theorem Handled.counters {digests : Digests} {before server : UdpServer Addr} {dedup : DedupWindow}
    {seq arrivals : Nat} {first : ServerSession -> Frame -> List Call -> Prop} {calls : List Call}
    (handled : Handled digests addr before dedup seq first server arrivals calls)
    (sound : before.Sound) :
    server.Sound ∧ server.secret = before.secret ∧ server.dedupSize = before.dedupSize ∧
      server.handled = before.handled + (if 0 < arrivals then 1 else 0) ∧
      server.duplicates + server.handled = before.duplicates + before.handled + arrivals := by
  cases handled with
  | untouched => exact ⟨sound, rfl, rfl, rfl, rfl⟩
  | stored ran good joined kept again =>
      refine ⟨⟨kept.peers, kept.windows⟩, UdpServer.secret_settle .., UdpServer.dedupSize_settle ..,
        ?_, ?_⟩
      · rw [if_pos (Nat.succ_pos again)]
        exact UdpServer.handled_settle ..
      · change before.duplicates + again + (before.handled + 1) = _
        omega

end

/-! ## What a run adds up to -/

section

variable {Addr : Type}

def attemptsOf (accounts : List (Account Addr)) : Nat :=
  (accounts.map fun account => account.trials.length).sum

def arrivalsOf (accounts : List (Account Addr)) : Nat :=
  (accounts.map fun account => account.trials.countP Trial.reached).sum

def lossesOf (accounts : List (Account Addr)) : Nat :=
  (accounts.map fun account => account.trials.countP fun trial => !trial.answered).sum

/-- The calls that were sent at all. -/
def sentOf (accounts : List (Account Addr)) : Nat :=
  accounts.countP fun account => 0 < account.trials.length

/-- The calls that reached the server. -/
def reachedOf (accounts : List (Account Addr)) : Nat :=
  accounts.countP fun account => 0 < account.trials.countP Trial.reached

/-- The calls that were answered. -/
def answeredOf (accounts : List (Account Addr)) : Nat :=
  accounts.countP fun account => account.trials.any Trial.answered

variable (accounts : List (Account Addr)) (account : Account Addr)

@[simp] theorem attemptsOf_concat :
    attemptsOf (accounts ++ [account]) = attemptsOf accounts + account.trials.length := by
  simp [attemptsOf]

@[simp] theorem arrivalsOf_concat :
    arrivalsOf (accounts ++ [account]) =
      arrivalsOf accounts + account.trials.countP Trial.reached := by
  simp [arrivalsOf]

@[simp] theorem lossesOf_concat :
    lossesOf (accounts ++ [account]) =
      lossesOf accounts + account.trials.countP (fun trial => !trial.answered) := by
  simp [lossesOf]

@[simp] theorem sentOf_concat :
    sentOf (accounts ++ [account]) =
      sentOf accounts + if 0 < account.trials.length then 1 else 0 := by
  simp [sentOf, List.countP_singleton]

@[simp] theorem reachedOf_concat :
    reachedOf (accounts ++ [account]) =
      reachedOf accounts + if 0 < account.trials.countP Trial.reached then 1 else 0 := by
  simp [reachedOf, List.countP_singleton]

end

section

variable {Link Addr : Type} {hooks : Hooks Link}

/-- The counters of both ends and of the links, as the attempts of the calls
determine them. -/
structure Tally (hooks : Hooks Link) (start link : Link) (server : UdpServer Addr)
    (retransmits : Nat) (accounts : List (Account Addr)) : Prop where
  handled : server.handled = reachedOf accounts
  arrivals : server.duplicates + server.handled = arrivalsOf accounts
  attempts : retransmits + sentOf accounts = attemptsOf accounts
  linked : forall {offered dropped : Link -> Nat}, hooks.client.Counts offered dropped ->
    hooks.server.Counts offered dropped ->
    offered link = offered start + attemptsOf accounts + arrivalsOf accounts ∧
      dropped link = dropped start + lossesOf accounts
  kept : forall {inv : Link -> Prop}, hooks.client.Keeps inv -> hooks.server.Keeps inv ->
    inv start -> inv link

theorem Tally.ended [DecidableEq Addr] {digests : Digests} {addr : Addr} {start link : Link}
    {server : UdpServer Addr} {client : UdpClient} {accounts : List (Account Addr)}
    (sound : server.Sound) {dedup : DedupWindow} {seq attempt : Nat} {first : ServerSession -> Frame -> List Call -> Prop}
    {good : Frame -> UdpServer Addr -> Prop} {exchange : LossyExchange Link Addr}
    (ended : Ended hooks (Handled digests addr server dedup seq first) good link client seq attempt 0
      [] exchange) (tally : Tally hooks start link server client.retransmits accounts)
    (account : Account Addr) (same : account.trials = exchange.trials) :
    Tally hooks start exchange.link exchange.server exchange.client.retransmits
      (accounts ++ [account]) := by
  have counters := ended.phase.counters sound
  rw [Nat.zero_add] at counters
  have positive := ended.tries.length_pos
  have handled := tally.handled
  have arrivals := tally.arrivals
  have attempts := tally.attempts
  refine ⟨?_, ?_, ?_, ?_,
    fun replies answers holds => ended.kept replies answers (tally.kept replies answers holds)⟩
  · rw [reachedOf_concat, same, counters.2.2.2.1, handled]
  · rw [arrivalsOf_concat, same, counters.2.2.2.2, arrivals]
  · rw [sentOf_concat, attemptsOf_concat, same, ended.left, if_pos positive]
    dsimp only
    omega
  · intro offered dropped replies answers
    have before := tally.linked replies answers
    have added := ended.counted replies answers
    rw [attemptsOf_concat, arrivalsOf_concat, lossesOf_concat, same, added.1, added.2, before.1,
      before.2]
    omega

theorem Tally.unsent {start link : Link} {server : UdpServer Addr} {retransmits : Nat}
    {accounts : List (Account Addr)} (tally : Tally hooks start link server retransmits accounts)
    (account : Account Addr) (nothing : account.trials = []) :
    Tally hooks start link server retransmits (accounts ++ [account]) := by
  refine ⟨?_, ?_, ?_, ?_, tally.kept⟩
  · rw [reachedOf_concat, nothing]
    exact tally.handled
  · rw [arrivalsOf_concat, nothing]
    exact tally.arrivals
  · rw [sentOf_concat, attemptsOf_concat, nothing]
    exact tally.attempts
  · intro offered dropped replies answers
    rw [attemptsOf_concat, arrivalsOf_concat, lossesOf_concat, nothing]
    exact tally.linked replies answers

end

/-! ## The steps of a run -/

section

variable {Link Addr : Type} [DecidableEq Addr] {runtime : Runtime} {hooks : Hooks Link}
  {deployment : Deployment Addr}

/-- A request that was sent ends as its attempts determine. -/
theorem settled_of_ended {server : UdpServer Addr} {dedup : DedupWindow} {request : Request}
    {client : UdpClient} {seq : Nat}
    {first : ServerSession -> Frame -> List Call -> Prop}
    (firsts : forall session reply calls, first session reply calls ->
      FirstArrival request seq session reply calls) {link : Link}
    {exchange : LossyExchange Link Addr}
    (ended : Ended hooks (Handled runtime.toDigests deployment.addr server dedup seq first)
      (StoredReply deployment.addr dedup seq first) link client seq 0 0 [] exchange)
    (retries : client.maxRetries = deployment.maxRetries)
    (fits : request.payload.length ≤ maxPayload) :
    Account.Settled runtime.toDigests deployment
      (⟨request, seq, exchange.result, exchange.trials⟩ : Account Addr) where
  unsent := fun long => absurd fits (Nat.not_le_of_gt long)
  tries := by
    intro _
    rw [← retries]
    exact ended.tries
  returned := by
    intro answered
    rcases ended.returned answered with ⟨reply, result, session, stored, calls, known, ran⟩
    have arrival := firsts _ _ _ ran
    exact ⟨reply, result, arrival.kind, arrival.echoed⟩
  timedOut := by
    intro _ silent
    rw [← retries]
    exact ended.timedOut silent
  once := by
    have phase := ended.phase
    rw [Nat.zero_add, List.nil_append] at phase
    dsimp only
    generalize trials : exchange.trials.flatMap Trial.calls = calls at phase
    generalize arrivals : exchange.trials.countP Trial.reached = count at phase
    generalize exchange.server = after at phase
    cases phase with
    | untouched =>
        have never : exchange.trials.any Trial.reached = false := by
          rw [List.countP_eq_zero] at arrivals
          exact List.any_eq_false.mpr arrivals
        rw [never]
        rfl
    | stored ran good joined kept again =>
        have some : exchange.trials.any Trial.reached = true := by
          have positive : 0 < exchange.trials.countP Trial.reached := by omega
          exact List.any_eq_true.mpr (List.countP_pos_iff.mp positive)
        rw [some]
        exact (firsts _ _ _ ran).ran

/-- Two clients that send alike. -/
structure UdpClient.Alike (client other : UdpClient) : Prop where
  secret : client.secret = other.secret
  queue : client.queue = other.queue
  maxRetries : client.maxRetries = other.maxRetries
  outSeq : client.outSeq = other.outSeq
  retransmits : client.retransmits = other.retransmits

namespace LossyWorld

/-- Between two calls of a connected client. -/
structure Serving (deployment : Deployment Addr) (world : LossyWorld Link Addr) (peer : Peer) :
    Prop where
  known : world.server.peers deployment.addr = some peer
  ready : peer.session.state = .ready
  below : peer.session.lastPeerSeq < world.accounts.length
  window : forall seq stored, peer.dedup.get seq = some stored -> seq ≤ peer.session.lastPeerSeq
  sendto : world.client.sendto = true
  session : world.client.sessionId = some peer.session.sessionId.text

/-- How far the client is: not connected yet, failed to connect for want of an
answer, or connected. -/
inductive Standing (deployment : Deployment Addr) (world : LossyWorld Link Addr) : Prop
  | fresh (state : world.client.state = .new) (first : world.accounts = [])
      (unknown : world.server.peers deployment.addr = none)
  | failed (state : world.client.state = .handshake)
      (unanswered : forall account, account ∈ world.accounts ->
        account.trials.any Trial.answered = false)
  | connected (state : world.client.state = .ready) {peer : Peer}
      (serving : Serving deployment world peer)

structure Inv (runtime : Runtime) (deployment : Deployment Addr) (hooks : Hooks Link) (start : Link)
    (world : LossyWorld Link Addr) : Prop where
  sound : world.server.Sound
  serverSecret : world.server.secret = deployment.secret
  dedupSize : world.server.dedupSize = deployment.dedupWindow
  secret : world.client.secret = deployment.secret
  queue : world.client.queue = []
  retries : world.client.maxRetries = deployment.maxRetries
  outSeq : world.accounts.length < 2 ^ 32 -> world.client.outSeq = world.accounts.length
  numbers : world.accounts.map Account.seq = List.range world.accounts.length
  settled : forall account, account ∈ world.accounts ->
    account.Settled runtime.toDigests deployment
  tally : Tally hooks start world.link world.server world.client.retransmits world.accounts
  standing : Standing deployment world

omit [DecidableEq Addr] in
theorem inv_start (link : Link) : Inv runtime deployment hooks link (start deployment link) where
  sound := UdpServer.sound_start deployment.secret deployment.dedupWindow
  serverSecret := rfl
  dedupSize := rfl
  secret := rfl
  queue := rfl
  retries := rfl
  outSeq := fun _ => rfl
  numbers := rfl
  settled := nofun
  tally := ⟨rfl, rfl, rfl, fun _ _ => ⟨rfl, rfl⟩, fun _ _ holds => holds⟩
  standing := .fresh rfl rfl rfl

/-- What a call leaves behind, apart from the standing of the client. -/
theorem Inv.settle {start : Link} {world : LossyWorld Link Addr}
    (inv : Inv runtime deployment hooks start world) (room : world.accounts.length < 2 ^ 32)
    {request : Request} {dedup : DedupWindow}
    {first : ServerSession -> Frame -> List Call -> Prop}
    (firsts : forall session reply calls, first session reply calls ->
      FirstArrival request world.client.outSeq session reply calls)
    {client : UdpClient} (alike : client.Alike world.client) {exchange : LossyExchange Link Addr}
    (concluded : Concluded runtime deployment.addr hooks world.server dedup request first world.link
      client exchange)
    {after : UdpClient} (left : after.Alike exchange.client)
    (standing : Standing deployment (world.settle request exchange after)) :
    Inv runtime deployment hooks start (world.settle request exchange after) := by
  have number : world.client.outSeq = world.accounts.length := inv.outSeq room
  have next : (client.outSeq + 1) &&& maxSeq = (world.accounts.length + 1) &&& maxSeq := by
    rw [alike.outSeq, number]
  -- what the two ends of a call have in common
  have ended : exchange.server.Sound ∧ exchange.server.secret = world.server.secret ∧
      exchange.server.dedupSize = world.server.dedupSize ∧
      exchange.client.secret = client.secret ∧ exchange.client.queue = client.queue ∧
      exchange.client.maxRetries = client.maxRetries ∧
      exchange.client.outSeq = (client.outSeq + 1) &&& maxSeq ∧
      Account.Settled runtime.toDigests deployment
        (⟨request, world.client.outSeq, exchange.result, exchange.trials⟩ : Account Addr) ∧
      Tally hooks start exchange.link exchange.server exchange.client.retransmits
        (world.accounts ++ [⟨request, world.client.outSeq, exchange.result, exchange.trials⟩]) := by
    have tally := inv.tally
    rw [← alike.retransmits] at tally
    rw [← alike.outSeq] at firsts ⊢
    cases concluded with
    | unsent long refused =>
        rw [inv.serverSecret] at refused
        refine ⟨inv.sound, rfl, rfl, rfl, rfl, rfl, rfl, ?_, tally.unsent _ rfl⟩
        refine ⟨fun _ => ⟨rfl, _, refused, rfl⟩, fun fits => absurd long (Nat.not_lt_of_ge fits), nofun,
          fun fits => absurd long (Nat.not_lt_of_ge fits), rfl⟩
    | sent fits ended =>
        have counters := ended.phase.counters inv.sound
        have retries := alike.maxRetries.trans inv.retries
        have left := ended.left
        refine ⟨counters.1, counters.2.1, counters.2.2.1, by rw [left], by rw [left], by rw [left],
          by rw [left], settled_of_ended firsts ended retries fits, ?_⟩
        exact Tally.ended inv.sound ended tally _ rfl
  rcases ended with ⟨sound, keyed, sized, secret, queue, retries, outSeq, settled, tally⟩
  exact {
    sound := sound
    serverSecret := keyed.trans inv.serverSecret
    dedupSize := sized.trans inv.dedupSize
    secret := left.secret.trans (secret.trans (alike.secret.trans inv.secret))
    queue := left.queue.trans (queue.trans (alike.queue.trans inv.queue))
    retries := left.maxRetries.trans (retries.trans (alike.maxRetries.trans inv.retries))
    outSeq := by
      intro more
      rw [LossyWorld.settle, List.length_append, List.length_singleton] at more ⊢
      dsimp only
      rw [left.outSeq, outSeq, next, masked_succ (by have limit : maxSeq = 2 ^ 32 - 1 := rfl; omega)]
    numbers := by
      rw [LossyWorld.settle, List.map_append, inv.numbers, List.length_append, List.length_singleton,
        List.range_succ, List.map_singleton, number]
    settled := by
      intro account member
      rcases List.mem_append.mp member with old | new
      · exact inv.settled account old
      · rw [List.mem_singleton.mp new]
        exact settled
    tally := by
      have same := tally
      rw [← left.retransmits] at same
      exact same
    standing := standing }

omit [DecidableEq Addr] in
/-- The handshake of a server that does not know the address. -/
theorem handles_hello {server : UdpServer Addr} (unknown : server.peers deployment.addr = none)
    (clientId : String) (nonce : Nonce) {seq : Nat} (draws : Nat -> Draw) (attempt : Nat) :
    ∃ peer session reply calls, server.peer deployment.addr (draws attempt) = peer ∧
      peer.dedup = .empty server.dedupSize ∧
      { peer.session with outSeq := (peer.session.outSeq + 1) &&& maxSeq }.onFrame runtime
          (draws attempt).nonce
          (Pending.frame ⟨.hello, encodeHello clientId nonce.text, seq, attempt⟩) =
        ⟨session, .ok { frames := [reply] }, calls⟩ ∧
      FirstArrival ⟨.hello, encodeHello clientId nonce.text⟩ seq session reply calls ∧
      reply.msgType ≠ .error := by
  have accepted : (-1 : Int) < seq := by omega
  refine ⟨_, _, _, _, UdpServer.peer_of_unknown unknown _, rfl,
    onFrame_welcomed runtime _ rfl accepted rfl (decodeHello_encodeHello runtime clientId nonce.text),
    ?_, nofun⟩
  exact ⟨rfl, rfl, rfl, fun other => absurd rfl other, fun _ => ⟨_, rfl⟩, attempt, rfl⟩

variable (runtime) in
omit [DecidableEq Addr] in
/-- A request of a session that has not seen its number. -/
theorem handles_echo {server : UdpServer Addr} {peer : Peer}
    (known : server.peers deployment.addr = some peer) (ready : peer.session.state = .ready)
    {seq : Nat} (accepted : peer.session.lastPeerSeq < seq) {request : Request} {kind : MsgType}
    (echoes : echoType request.msgType = some kind) (draws : Nat -> Draw) (attempt : Nat) :
    ∃ same session reply calls, server.peer deployment.addr (draws attempt) = same ∧
      same.dedup = peer.dedup ∧
      { same.session with outSeq := (same.session.outSeq + 1) &&& maxSeq }.onFrame runtime
          (draws attempt).nonce (Pending.frame ⟨request.msgType, request.payload, seq, attempt⟩) =
        ⟨session, .ok { frames := [reply] }, calls⟩ ∧
      (FirstArrival request seq session reply calls ∧
        session.sessionId = peer.session.sessionId) ∧
      reply.msgType ≠ .error := by
  have other : request.msgType ≠ .hello := by
    intro hello
    rw [hello] at echoes
    cases echoes
  have replies : replyType request.msgType = some kind := by
    rw [← echoes]
    cases hello : request.msgType with
    | hello => exact absurd hello other
    | helloAck | ping | pong | data | ack | error | bye => rfl
  have stillReady : ServerSession.state
      { peer.session with outSeq := (peer.session.outSeq + 1) &&& maxSeq } = .ready := ready
  refine ⟨peer, _, _, _, UdpServer.peer_of_known known _, rfl,
    onFrame_echoed runtime _ stillReady accepted echoes, ⟨⟨ready, rfl, replies, fun _ => rfl,
      fun hello => absurd hello other, attempt, ?_⟩, rfl⟩, ?_⟩
  · have unlike : (Pending.frame ⟨request.msgType, request.payload, seq, attempt⟩).msgType ≠ .hello :=
      other
    rw [handlers, if_neg unlike]
  · intro report
    dsimp only at report
    rw [report] at echoes
    cases kind : request.msgType <;> rw [kind] at echoes <;> cases echoes

/-- The session that a reply to HELLO belongs to. -/
theorem connected_of_arrival {client : UdpClient} {request : Request}
    (hello : request.msgType = .hello) {seq : Nat} {session : ServerSession} {reply : Frame}
    {calls : List Call} (arrival : FirstArrival request seq session reply calls) :
    client.connected runtime reply =
      .ok { client with sessionId := some session.sessionId.text, state := .ready } := by
  rcases reply with ⟨msgType, number, payload, flags⟩
  rcases arrival.welcomed hello with ⟨nonce, same⟩
  have kind := arrival.kind
  rw [hello] at kind
  cases kind
  dsimp only at same
  rw [same]
  exact UdpClient.connected_helloAck ..

omit [DecidableEq Addr] in
/-- What the window holds lies below the number that was stored last. -/
theorem serving_of_stored {world : LossyWorld Link Addr} {session : ServerSession}
    {dedup : DedupWindow} {stored : Bytes} {seq : Nat}
    (known : world.server.peers deployment.addr = some ⟨session, dedup.put seq stored⟩)
    (ready : session.state = .ready) (last : session.lastPeerSeq = seq)
    (below : seq < world.accounts.length)
    (old : forall other reply, dedup.get other = some reply -> other ≤ seq)
    (sendto : world.client.sendto = true)
    (named : world.client.sessionId = some session.sessionId.text) :
    Serving deployment world ⟨session, dedup.put seq stored⟩ where
  known := known
  ready := ready
  below := by
    dsimp only
    rw [last]
    exact Int.ofNat_lt.mpr below
  window := Succession.below_put last old
  sendto := sendto
  session := named

theorem Inv.connect {start : Link} {world next : LossyWorld Link Addr}
    (inv : Inv runtime deployment hooks start world) {nonce : Nonce} {draws : Nat -> Draw}
    (stepped : world.step runtime deployment hooks (.connect nonce draws) = some next) :
    Inv runtime deployment hooks start next := by
  rw [step] at stepped
  by_cases new : world.client.state = .new
  · rw [if_pos new] at stepped
    cases inv.standing with
    | failed state | connected state =>
        rw [new] at state
        cases state
    | fresh _ first unknown =>
        have room : world.accounts.length < 2 ^ 32 := by
          rw [first, List.length_nil]
          decide
        have number : world.client.outSeq = 0 := by
          rw [inv.outSeq room, first]
          rfl
        have window : 0 < (DedupWindow.empty world.server.dedupSize).size := by
          rw [DedupWindow.empty, inv.dedupSize]
          exact deployment.window_pos
        have concluded : Concluded runtime deployment.addr hooks world.server
            (.empty world.server.dedupSize)
            ⟨.hello, encodeHello world.client.clientId nonce.text⟩
            (FirstArrival ⟨.hello, encodeHello world.client.clientId nonce.text⟩ world.client.outSeq)
            world.link { world.client with transport := true, sendto := true, state := .handshake }
            (lossyFollow runtime deployment.addr hooks world.link world.server draws
              (world.client.connect runtime nonce)) :=
          lossyFollow_begin hooks inv.sound window
            { world.client with transport := true, sendto := true, state := .handshake }
            (by dsimp only; rw [number]; exact Nat.zero_le _) rfl inv.queue (inv.secret.trans inv.serverSecret.symm) rfl
            (handles_hello unknown world.client.clientId nonce draws) world.link
        generalize lossyFollow runtime deployment.addr hooks world.link world.server draws
          (world.client.connect runtime nonce) = exchange at concluded stepped
        rcases concluded.client_eq with ⟨retransmits, client⟩
        have alike : UdpClient.Alike
            { world.client with transport := true, sendto := true, state := .handshake }
            world.client := ⟨rfl, rfl, rfl, rfl, rfl⟩
        dsimp only at stepped
        cases connects : exchange.result.bind (exchange.client.connected runtime) with
        | error raised =>
            rw [connects] at stepped
            cases stepped
            refine inv.settle room (fun _ _ _ arrival => arrival) alike concluded
              ⟨rfl, rfl, rfl, rfl, rfl⟩ (.failed ?_ ?_)
            · rw [LossyWorld.settle]
              dsimp only
              rw [client]
            · intro account member
              rw [LossyWorld.settle] at member
              dsimp only at member
              rw [first, List.nil_append, List.mem_singleton] at member
              rw [member]
              by_contra answered
              rcases concluded.ok_of_answered (Bool.eq_true_of_not_eq_false answered) with
                ⟨reply, result⟩
              rcases concluded.stored_of_ok result with ⟨session, stored, calls, _, arrival⟩
              rw [result] at connects
              cases (connected_of_arrival rfl arrival).symm.trans connects
        | ok after =>
            rw [connects] at stepped
            cases stepped
            cases result : exchange.result with
            | error raised =>
                rw [result] at connects
                cases connects
            | ok reply =>
                rcases concluded.stored_of_ok result with ⟨session, stored, calls, known, arrival⟩
                have connected : exchange.client.connected runtime reply = .ok after := by
                  rw [result] at connects
                  exact connects
                rw [connected_of_arrival rfl arrival, client] at connected
                cases connected
                refine inv.settle room (fun _ _ _ arrival => arrival) alike concluded
                  ⟨by rw [client], by rw [client], by rw [client], by rw [client], by rw [client]⟩
                  (.connected rfl (serving_of_stored known arrival.ready arrival.last ?_ ?_ rfl rfl))
                · rw [LossyWorld.settle, List.length_append, List.length_singleton, number]
                  exact Nat.succ_pos _
                · intro other stored hit
                  rw [DedupWindow.get_empty] at hit
                  cases hit
  · rw [if_neg new] at stepped
    cases stepped

theorem Inv.request {start : Link} {world next : LossyWorld Link Addr}
    (inv : Inv runtime deployment hooks start world) {request : Request} {draws : Nat -> Draw}
    (stepped : world.step runtime deployment hooks (.request request draws) = some next) :
    Inv runtime deployment hooks start next := by
  rw [step] at stepped
  by_cases able : world.client.state = .ready ∧ (echoType request.msgType).isSome ∧
      world.accounts.length < 2 ^ 32
  · rw [if_pos able] at stepped
    rcases able with ⟨ready, echoes, room⟩
    rcases Option.isSome_iff_exists.mp echoes with ⟨kind, echoes⟩
    cases inv.standing with
    | fresh state _ _ | failed state =>
        rw [ready] at state
        cases state
    | connected state serving =>
        rename_i peer
        have number : world.client.outSeq = world.accounts.length := inv.outSeq room
        have limit : maxSeq = 2 ^ 32 - 1 := rfl
        have below := serving.below
        have accepted : peer.session.lastPeerSeq < world.client.outSeq := by
          rw [number]
          exact below
        have window : 0 < peer.dedup.size := by
          rw [inv.sound.windows serving.known, inv.dedupSize]
          exact deployment.window_pos
        have old (other : Int) (reply : Bytes) (hit : peer.dedup.get other = some reply) :
            other < world.client.outSeq :=
          Int.lt_of_le_of_lt (serving.window other reply hit) accepted
        have missed : peer.dedup.get world.client.outSeq = none := by
          cases hit : peer.dedup.get world.client.outSeq with
          | none => rfl
          | some reply => exact absurd (old _ _ hit) (Int.lt_irrefl _)
        have concluded := lossyFollow_begin hooks inv.sound window world.client
          (by rw [number]; omega) serving.sendto inv.queue (inv.secret.trans inv.serverSecret.symm)
          missed (handles_echo runtime serving.known serving.ready accepted echoes draws)
          world.link
        dsimp only at stepped
        generalize lossyFollow runtime deployment.addr hooks world.link world.server draws
          (world.client.begin runtime request.msgType request.payload) = exchange at concluded stepped
        cases stepped
        rcases concluded.client_eq with ⟨retransmits, client⟩
        have alike : world.client.Alike world.client := ⟨rfl, rfl, rfl, rfl, rfl⟩
        refine inv.settle room (fun _ _ _ arrival => arrival.1) alike concluded
          ⟨rfl, rfl, rfl, rfl, rfl⟩ ?_
        have stillReady : exchange.client.state = .ready := by rw [client]; exact state
        have sendto : exchange.client.sendto = true := by rw [client]; exact serving.sendto
        have named : exchange.client.sessionId = some peer.session.sessionId.text := by
          rw [client]
          exact serving.session
        have longer : (world.settle request exchange exchange.client).accounts.length =
            world.accounts.length + 1 := List.length_append ..
        rcases concluded.entry with same | ⟨reply, session, stored, calls, known, arrival, kept⟩
        · refine .connected stillReady ⟨same.trans serving.known, serving.ready, ?_, serving.window,
            sendto, named⟩
          rw [longer]
          omega
        · refine .connected stillReady (serving_of_stored known arrival.ready arrival.last ?_ ?_ sendto ?_)
          · rw [longer, number]
            exact Nat.lt_succ_self _
          · intro other stored hit
            exact Int.le_of_lt (old other stored hit)
          · rw [kept]
            exact named
  · rw [if_neg able] at stepped
    cases stepped

theorem inv_of_run {link : Link} {calls : List LossyCall} {world : LossyWorld Link Addr}
    (reached : Execution.run (step runtime deployment hooks) (start deployment link) calls =
      some world) : Inv runtime deployment hooks link world := by
  have kept {before : LossyWorld Link Addr} {call : LossyCall} {after : LossyWorld Link Addr}
      (inv : Inv runtime deployment hooks link before)
      (stepped : before.step runtime deployment hooks call = some after) :
      Inv runtime deployment hooks link after := by
    cases call with
    | connect nonce draws => exact inv.connect stepped
    | request request draws => exact inv.request stepped
  exact Execution.run_invariant _ kept (inv_start link) reached

omit [DecidableEq Addr] in
/-- A client that has been answered is connected. -/
theorem Inv.ready_of_answered {start : Link} {world : LossyWorld Link Addr}
    (inv : Inv runtime deployment hooks start world) (answered : 0 < answeredOf world.accounts) :
    world.client.state = .ready := by
  cases inv.standing with
  | fresh _ first _ =>
      rw [first] at answered
      cases answered
  | failed _ unanswered =>
      rcases List.countP_pos_iff.mp answered with ⟨account, member, heard⟩
      rw [unanswered account member] at heard
      cases heard
  | connected state _ => exact state

/-! ## What a lossy link drops -/

section

variable {accounts : List (Account Addr)} (settled : forall account, account ∈ accounts ->
  account.Settled runtime.toDigests deployment)
include settled

omit [DecidableEq Addr] in
/-- Each attempt of a call loses a datagram, except the one that is answered. -/
theorem losses_add_answered : lossesOf accounts + answeredOf accounts = attemptsOf accounts := by
  induction accounts with
  | nil => rfl
  | cons account accounts ih =>
      have others := ih fun other member => settled other (List.mem_cons_of_mem account member)
      have own := settled account List.mem_cons_self
      have total : account.trials.countP (fun trial => !trial.answered) +
          (if account.trials.any Trial.answered then 1 else 0) = account.trials.length := by
        by_cases fits : account.request.payload.length ≤ maxPayload
        · exact (own.tries fits).count_failures
        · rw [(own.unsent (Nat.lt_of_not_ge fits)).1]
          rfl
      simp only [lossesOf, answeredOf, attemptsOf, List.map_cons, List.sum_cons,
        List.countP_cons] at others ⊢
      omega

omit [DecidableEq Addr] in
/-- While no more is lost than one call can repeat, every call that is sent is
answered. -/
theorem answered_of_few_losses (few : lossesOf accounts ≤ deployment.maxRetries) :
    answeredOf accounts = sentOf accounts := by
  apply List.countP_congr
  intro account member
  have own := settled account member
  by_cases fits : account.request.payload.length ≤ maxPayload
  · have tries := own.tries fits
    have answered : account.trials.any Trial.answered = true := by
      by_contra silent
      have unanswered := Bool.eq_false_of_not_eq_true silent
      have count := tries.count_failures
      have within : account.trials.countP (fun trial => !trial.answered) ≤ lossesOf accounts :=
        List.single_le_sum (by intro _ _; exact Nat.zero_le _) _
          (List.mem_map_of_mem (f := fun account : Account Addr =>
            account.trials.countP fun trial => !trial.answered) member)
      rw [tries.length_of_failed unanswered, unanswered, if_neg Bool.false_ne_true] at count
      omega
    exact iff_of_true answered (decide_eq_true tries.length_pos)
  · rw [(own.unsent (Nat.lt_of_not_ge fits)).1]
    exact iff_of_false Bool.false_ne_true Bool.false_ne_true

omit [DecidableEq Addr] in
/-- A call whose payload fits is sent. -/
theorem sentOf_eq_length (fit : forall account, account ∈ accounts ->
    account.request.payload.length ≤ maxPayload) : sentOf accounts = accounts.length := by
  apply List.countP_eq_length.mpr
  intro account member
  exact decide_eq_true ((settled account member).tries (fit account member)).length_pos

end

omit [DecidableEq Addr] in
theorem answeredOf_le (accounts : List (Account Addr)) :
    answeredOf accounts ≤ reachedOf accounts ∧ reachedOf accounts ≤ sentOf accounts := by
  constructor
  · apply List.countP_mono_left
    intro account _ answered
    rcases List.any_eq_true.mp answered with ⟨trial, member, heard⟩
    exact decide_eq_true
      (List.countP_pos_iff.mpr ⟨trial, member, Trial.reached_of_answered heard⟩)
  · apply List.countP_mono_left
    intro account _ reached
    rcases List.countP_pos_iff.mp (of_decide_eq_true reached) with ⟨trial, member, _⟩
    exact decide_eq_true (List.length_pos_of_mem member)

/-- The numbers of such a generator. -/
def patchy : Rng := ⟨fun n => if n = 0 ∨ n = 2 then 0 else 1, 0⟩

theorem keeps_patchy : SendHook.Keeps LossyLink.sendto fun link =>
    link.lossRate = 1 / 2 ∧ link.rng.values = patchy.values ∧
      link.dropped = (if 0 < link.rng.drawn then 1 else 0) + if 2 < link.rng.drawn then 1 else 0 := by
  rintro link data ⟨rate, numbers, count⟩
  rw [LossyLink.sendto_eq, rate, numbers]
  by_cases low : link.rng.drawn = 0 ∨ link.rng.drawn = 2
  · have drops : patchy.values link.rng.drawn < 1 / 2 := by
      rw [show patchy.values link.rng.drawn = 0 from if_pos low]
      norm_num
    rw [if_pos drops]
    refine ⟨rfl, rfl, ?_⟩
    dsimp only
    rw [count]
    rcases low with first | third
    · rw [first]
      rfl
    · rw [third]
      rfl
  · have passes : ¬ patchy.values link.rng.drawn < 1 / 2 := by
      rw [show patchy.values link.rng.drawn = 1 from if_neg low]
      norm_num
    rw [if_neg passes]
    refine ⟨rfl, rfl, ?_⟩
    dsimp only
    rw [count]
    split_ifs <;> omega

variable (runtime) (deployment) (hooks) in
theorem step_connect (link : Link) (nonce : Nonce) (draws : Nat -> Draw) :
    ∃ world, (start deployment link).step runtime deployment hooks (.connect nonce draws) =
        some world ∧
      world.accounts.map Account.request = [⟨.hello, encodeHello deployment.clientId nonce.text⟩] := by
  have fresh : (start deployment link : LossyWorld Link Addr).client.state = .new := rfl
  rw [step, if_pos fresh]
  dsimp only
  generalize lossyFollow runtime deployment.addr hooks (start deployment link).link
    (start deployment link).server draws ((start deployment link).client.connect runtime nonce) =
      exchange
  cases exchange.result.bind (exchange.client.connected runtime) <;> exact ⟨_, rfl, rfl⟩

variable (runtime) (deployment) (hooks) in
theorem step_request {world : LossyWorld Link Addr} (ready : world.client.state = .ready)
    (room : world.accounts.length < 2 ^ 32) {request : Request}
    (echoes : (echoType request.msgType).isSome) (draws : Nat -> Draw) :
    ∃ next, world.step runtime deployment hooks (.request request draws) = some next ∧
      next.accounts.map Account.request = world.accounts.map Account.request ++ [request] := by
  rw [step, if_pos ⟨ready, echoes, room⟩]
  exact ⟨_, rfl, List.map_append⟩

/-- What is known of a run over this link whose calls fit their datagrams. -/
theorem patchy_answered {world : LossyWorld LossyLink Nat} (inv : Inv Reference.runtime
    Reference.deployment LossyLink.hooks (.init (1 / 2) patchy) world) {requests : List Request}
    (asked : world.accounts.map Account.request = requests)
    (fit : forall request, request ∈ requests -> request.payload.length ≤ maxPayload) :
    world.accounts.length = requests.length ∧ answeredOf world.accounts = requests.length ∧
      (2 ≤ requests.length -> world.link.dropped = 2) := by
  have long := congrArg List.length asked
  rw [List.length_map] at long
  have linked := inv.tally.linked LossyLink.counts LossyLink.counts
  have count : world.link.dropped = _ :=
    (inv.tally.kept keeps_patchy keeps_patchy ⟨rfl, rfl, rfl⟩).2.2
  have few : world.link.dropped ≤ 2 := by
    rw [count]
    split_ifs <;> omega
  have drawn : world.link.rng.drawn = 0 + attemptsOf world.accounts + arrivalsOf world.accounts :=
    linked.1
  have losses : world.link.dropped = 0 + lossesOf world.accounts := linked.2
  have answered := answered_of_few_losses inv.settled
    (show lossesOf world.accounts ≤ 5 by omega)
  rw [sentOf_eq_length inv.settled] at answered
  · have total := losses_add_answered inv.settled
    have reached := (answeredOf_le world.accounts).1
    have handled := inv.tally.handled
    have arrivals := inv.tally.arrivals
    refine ⟨long, answered.trans long, fun both => ?_⟩
    rw [count, if_pos (by omega), if_pos (by omega)]
  · intro account member
    exact fit _ (asked ▸ List.mem_map_of_mem member)

/-- A client connects over this link and asks once. -/
theorem talk_reached : ∃ world : LossyWorld LossyLink Nat,
    Execution.run (step Reference.runtime Reference.deployment LossyLink.hooks)
        (start Reference.deployment (.init (1 / 2) patchy))
        [.connect Reference.nonce fun _ => Reference.draw,
          .request ⟨.ping, [1]⟩ fun _ => Reference.draw] = some world ∧
      world.accounts.map Account.request = [⟨.hello, Reference.hello⟩, ⟨.ping, [1]⟩] ∧
      answeredOf world.accounts = 2 ∧ world.link.dropped = 2 := by
  rcases step_connect Reference.runtime LossyLink.hooks Reference.deployment
    (LossyLink.init (1 / 2) patchy) Reference.nonce (fun _ => Reference.draw) with
    ⟨first, connected, greeting⟩
  have greets := patchy_answered (inv_of_run (Execution.run_single _ connected)) greeting (by decide)
  have ready := (inv_of_run (Execution.run_single _ connected)).ready_of_answered
    (by rw [greets.2.1]; exact Nat.one_pos)
  rcases step_request Reference.runtime LossyLink.hooks Reference.deployment ready
    (by rw [greets.1]; decide) (show (echoType (Request.msgType ⟨.ping, [1]⟩)).isSome from rfl)
    (fun _ => Reference.draw) with
    ⟨second, requested, asked⟩
  rw [greeting] at asked
  have reached := Execution.run_of_step _ connected (Execution.run_single _ requested)
  have ended := patchy_answered (inv_of_run reached) asked (by decide)
  exact ⟨second, reached, asked, ended.2.1, ended.2.2 (Nat.le_refl 2)⟩

/-! ## Whole runs -/

/-- Whatever the links do, every call of a run is settled by its own attempts,
and a client that is connected still has its session at the server. -/
theorem run_settled {link : Link} {calls : List LossyCall} {world : LossyWorld Link Addr}
    (reached : Execution.run (step runtime deployment hooks) (start deployment link) calls =
      some world) :
    world.accounts.map Account.seq = List.range world.accounts.length ∧
      (forall account, account ∈ world.accounts ->
        account.Settled runtime.toDigests deployment) ∧
      world.server.handled = reachedOf world.accounts ∧
      world.server.duplicates + world.server.handled = arrivalsOf world.accounts ∧
      world.client.retransmits + sentOf world.accounts = attemptsOf world.accounts ∧
      (world.client.state = .ready -> ∃ peer, world.server.peers deployment.addr = some peer ∧
        peer.session.state = .ready ∧
        world.client.sessionId = some peer.session.sessionId.text) ∧
      (0 < answeredOf world.accounts -> world.client.state = .ready) := by
  have inv := inv_of_run reached
  refine ⟨inv.numbers, inv.settled, inv.tally.handled, inv.tally.arrivals, inv.tally.attempts, ?_,
    inv.ready_of_answered⟩
  intro ready
  cases inv.standing with
  | fresh state _ _ | failed state =>
      rw [ready] at state
      cases state
  | connected _ serving => exact ⟨_, serving.known, serving.ready, serving.session⟩

/-- Both calls of a run that loses two datagrams are settled. -/
theorem talk_settled :
    ∃ world : LossyWorld LossyLink Nat,
      Execution.run (step Reference.runtime Reference.deployment LossyLink.hooks)
          (start Reference.deployment (.init (1 / 2) patchy))
          [.connect Reference.nonce fun _ => Reference.draw,
            .request ⟨.ping, [1]⟩ fun _ => Reference.draw] = some world ∧
        world.link.dropped = 2 ∧ answeredOf world.accounts = 2 ∧
        world.accounts.map Account.seq = [0, 1] ∧
        (forall account, account ∈ world.accounts ->
          account.Settled Reference.runtime.toDigests Reference.deployment) ∧
        world.client.retransmits + sentOf world.accounts = attemptsOf world.accounts ∧
        ∃ peer, world.server.peers Reference.deployment.addr = some peer ∧
          peer.session.state = .ready := by
  rcases talk_reached with ⟨world, reached, asked, answered, dropped⟩
  rcases run_settled reached with ⟨numbers, settled, _, _, attempts, kept, connected⟩
  rcases kept (connected (by rw [answered]; decide)) with ⟨peer, known, ready, _⟩
  have long := congrArg List.length asked
  rw [List.length_map] at long
  rw [long] at numbers
  exact ⟨world, reached, dropped, answered, numbers, settled, attempts, peer, known, ready⟩

end LossyWorld
end
end Wireline
