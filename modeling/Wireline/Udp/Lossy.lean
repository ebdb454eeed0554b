import Mathlib.Data.Rat.Init
import Mathlib.Tactic.NormNum
import Mathlib.Algebra.Order.Ring.Unbundled.Rat
import Wireline.Library.Retrying
import Wireline.Udp.Faultless
import Wireline.Udp.Successors

namespace Wireline

open Retrying

/-!
# Links that drop datagrams

A `send_hook` stands in front of the `sendto` of one end and may keep a
datagram to itself.  What it passes on arrives at once.  Each attempt of a
request therefore comes to one of three things: its datagram is dropped, the
answer to it is dropped, or the answer arrives and ends the request.
-/

/-- What a hook makes of `sendto`: its state after a call, and whether it calls
the callable that it wraps. -/
abbrev SendHook (Link : Type) := Link -> Bytes -> Link × Bool

/-- A generator: the numbers that it returns, and how many were drawn. -/
structure Rng where
  values : Nat -> ℚ
  drawn : Nat

def Rng.random (rng : Rng) : ℚ × Rng :=
  (rng.values rng.drawn, { rng with drawn := rng.drawn + 1 })

structure LossyLink where
  lossRate : ℚ
  rng : Rng
  dropped : Nat

namespace LossyLink

def init (lossRate : ℚ) (rng : Rng) : LossyLink := ⟨lossRate, rng, 0⟩

def sendto (link : LossyLink) (_ : Bytes) : LossyLink × Bool :=
  let (value, rng) := link.rng.random
  if value < link.lossRate then ({ link with rng := rng, dropped := link.dropped + 1 }, false)
  else ({ link with rng := rng }, true)

end LossyLink

/-- The hooks of both ends.  They may share their state, as one `LossyLink` at
both ends does. -/
structure Hooks (Link : Type) where
  client : SendHook Link
  server : SendHook Link

/-- One link at both ends. -/
def LossyLink.hooks : Hooks LossyLink := ⟨sendto, sendto⟩

/-- One attempt: its datagram is dropped, or the server gets it and these
datagrams reach the client in turn. -/
inductive Trial (Addr : Type)
  | dropped
  | delivered (delivery : Delivery Addr) (arrived : List Bytes)

namespace Trial

variable {Addr : Type}

def arrived : Trial Addr -> List Bytes
  | dropped => []
  | delivered _ arrived => arrived

def reached : Trial Addr -> Bool
  | dropped => false
  | delivered _ _ => true

def answered (trial : Trial Addr) : Bool := !trial.arrived.isEmpty

/-- The handlers that ran in the attempt. -/
def calls : Trial Addr -> List Call
  | dropped => []
  | delivered delivery _ => delivery.calls

theorem reached_of_answered {trial : Trial Addr} (answered : trial.answered = true) :
    trial.reached = true := by
  cases trial with
  | dropped => cases answered
  | delivered delivery arrived => rfl

end Trial

/-- A request that is over, with its attempts. -/
structure LossyExchange (Link Addr : Type) where
  link : Link
  server : UdpServer Addr
  client : UdpClient
  result : Except PyError Frame
  trials : List (Trial Addr)

section

variable {Link Addr : Type} [DecidableEq Addr] (runtime : Runtime) (addr : Addr)
  (hooks : Hooks Link)

/-- The datagrams of one end that its hook passes on. -/
def passAll (hook : SendHook Link) (link : Link) : List Bytes -> Link × List Bytes
  | [] => (link, [])
  | data :: queue =>
      let (link, passes) := hook link data
      let (link, passed) := passAll hook link queue
      (link, if passes then data :: passed else passed)

/-- One attempt, up to what the client receives. -/
def cross (link : Link) (server : UdpServer Addr) (data : Bytes) (draw : Draw) :
    Link × UdpServer Addr × Trial Addr :=
  match hooks.client link data with
  | (link, false) => (link, server, .dropped)
  | (link, true) =>
      let delivery := server.onDatagram runtime data addr draw
      let (link, arrived) := passAll hooks.server link (delivery.sent.map Prod.fst)
      (link, delivery.server, .delivered delivery arrived)

/-- The attempts of a request from this one on. -/
def lossyAttempts (link : Link) (server : UdpServer Addr) (client : UdpClient) (pending : Pending)
    (data : Bytes) (draws : Nat -> Draw) : LossyExchange Link Addr :=
  match cross runtime addr hooks link server data (draws pending.attempt) with
  | (link, server, trial) =>
      match UdpClient.awaitReply runtime client.secret pending.seq (client.queue ++ trial.arrived) with
      | (some (_, result), queue) => ⟨link, server, { client with queue := queue }, result, [trial]⟩
      | (none, queue) =>
          match _expired : { client with queue := queue }.expire runtime pending with
          | (client, .raised error) => ⟨link, server, client, .error error, [trial]⟩
          | (client, .waiting pending data) =>
              let later := lossyAttempts link server client pending data draws
              { later with trials := trial :: later.trials }
termination_by client.maxRetries - pending.attempt
decreasing_by
  rcases UdpClient.expire_waiting _expired with ⟨more, next, retries⟩
  dsimp only at more retries
  omega

/-- A request from its beginning on. -/
def lossyFollow (link : Link) (server : UdpServer Addr) (draws : Nat -> Draw) :
    UdpClient × Attempt -> LossyExchange Link Addr
  | (client, .raised error) => ⟨link, server, client, .error error, []⟩
  | (client, .waiting pending data) =>
      lossyAttempts runtime addr hooks link server client pending data draws

end

/-! ## One attempt -/

/-- A hook that counts its calls, and those that it does not pass on. -/
def SendHook.Counts {Link : Type} (hook : SendHook Link) (offered dropped : Link -> Nat) : Prop :=
  forall link data, offered (hook link data).1 = offered link + 1 ∧
    dropped (hook link data).1 = dropped link + if (hook link data).2 then 0 else 1

/-- A property of the hook's state that its calls preserve. -/
def SendHook.Keeps {Link : Type} (hook : SendHook Link) (inv : Link -> Prop) : Prop :=
  forall link data, inv link -> inv (hook link data).1

/-- A number below the rate drops the datagram. -/
theorem LossyLink.sendto_eq (link : LossyLink) (data : Bytes) :
    link.sendto data =
      if link.rng.values link.rng.drawn < link.lossRate then
        (⟨link.lossRate, ⟨link.rng.values, link.rng.drawn + 1⟩, link.dropped + 1⟩, false)
      else (⟨link.lossRate, ⟨link.rng.values, link.rng.drawn + 1⟩, link.dropped⟩, true) := rfl

theorem LossyLink.counts :
    SendHook.Counts LossyLink.sendto (fun link => link.rng.drawn) LossyLink.dropped := by
  intro link data
  rw [sendto_eq]
  by_cases low : link.rng.values link.rng.drawn < link.lossRate
  · rw [if_pos low]
    exact ⟨rfl, rfl⟩
  · rw [if_neg low]
    exact ⟨rfl, rfl⟩

/-- The frame of every attempt can be encoded. -/
theorem encodable_attempt {seq : Nat} (numbered : seq ≤ maxSeq) {payload : Bytes}
    (fits : payload.length ≤ maxPayload) (msgType : MsgType) (attempt : Nat) :
    Encodable (Pending.frame ⟨msgType, payload, seq, attempt⟩) := by
  refine ⟨fits, ⟨Int.natCast_nonneg _, Int.ofNat_le.mpr numbered⟩, ?_⟩
  rw [unknownFlags_eq_zero_iff, Pending.frame]
  dsimp only
  by_cases again : attempt ≠ 0
  · rw [if_pos again]
    decide
  · rw [if_neg again]
    decide

theorem passAll_single {Link : Type} (hook : SendHook Link) (link : Link) (data : Bytes) :
    passAll hook link [data] =
      ((hook link data).1, if (hook link data).2 then [data] else []) := rfl

section

variable {Link Addr : Type} [DecidableEq Addr] {runtime : Runtime} {addr : Addr}
  {hooks : Hooks Link}

/-- What one attempt comes to, where the server answers with one datagram. -/
inductive Crossed (hooks : Hooks Link) (link : Link) (server : UdpServer Addr)
    (delivery : Delivery Addr) (stored : Bytes) : Link × UdpServer Addr × Trial Addr -> Prop
  | lost {next : Link} : Crossed hooks link server delivery stored (next, server, .dropped)
  | unheard {next : Link} :
      Crossed hooks link server delivery stored (next, delivery.server, .delivered delivery [])
  | heard {next : Link} :
      Crossed hooks link server delivery stored (next, delivery.server, .delivered delivery [stored])

theorem cross_crossed {link : Link} {server : UdpServer Addr} {data : Bytes} {draw : Draw}
    {stored : Bytes} (sent : (server.onDatagram runtime data addr draw).sent = [(stored, addr)]) :
    Crossed hooks link server (server.onDatagram runtime data addr draw) stored
      (cross runtime addr hooks link server data draw) := by
  rw [cross]
  rcases offered : hooks.client link data with ⟨next, passes⟩
  cases passes with
  | false => exact .lost
  | true =>
      dsimp only
      rw [sent, List.map_singleton, passAll_single]
      rcases hooks.server next stored with ⟨last, heard⟩
      cases heard with
      | false => exact .unheard
      | true => exact .heard

/-- Every attempt offers one datagram to the hook of the client, and one more
to that of the server if it arrives. -/
theorem cross_counted {link : Link} {server : UdpServer Addr} {data : Bytes} {draw : Draw}
    {stored : Bytes} (sent : (server.onDatagram runtime data addr draw).sent = [(stored, addr)])
    {offered dropped : Link -> Nat} (client : hooks.client.Counts offered dropped)
    (replies : hooks.server.Counts offered dropped) {next : Link} {after : UdpServer Addr}
    {trial : Trial Addr}
    (crossed : cross runtime addr hooks link server data draw = (next, after, trial)) :
    offered next = offered link + 1 + (if trial.reached then 1 else 0) ∧
      dropped next = dropped link + if trial.answered then 0 else 1 := by
  rw [cross] at crossed
  have first := client link data
  rcases request : hooks.client link data with ⟨middle, passes⟩
  rw [request] at first crossed
  cases passes with
  | false =>
      cases crossed
      exact first
  | true =>
      dsimp only at crossed first
      rw [sent, List.map_singleton, passAll_single] at crossed
      have second := replies middle stored
      rcases answer : hooks.server middle stored with ⟨last, heard⟩
      rw [answer] at second crossed
      cases crossed
      cases heard with
      | false => exact ⟨by rw [second.1, first.1]; rfl, by rw [second.2, first.2]; rfl⟩
      | true => exact ⟨by rw [second.1, first.1]; rfl, by rw [second.2, first.2]; rfl⟩

theorem cross_kept {link : Link} {server : UdpServer Addr} {data : Bytes} {draw : Draw}
    {stored : Bytes} (sent : (server.onDatagram runtime data addr draw).sent = [(stored, addr)])
    {inv : Link -> Prop} (client : hooks.client.Keeps inv) (replies : hooks.server.Keeps inv)
    (holds : inv link) : inv (cross runtime addr hooks link server data draw).1 := by
  have first := client link data holds
  rw [cross]
  rcases request : hooks.client link data with ⟨middle, passes⟩
  rw [request] at first
  cases passes with
  | false => exact first
  | true =>
      dsimp only
      rw [sent, List.map_singleton, passAll_single]
      exact replies middle stored first

/-! ## The rule for the attempts of a request -/

variable (runtime) (addr) in
/-- What is known of a server after some arrivals of a request and the calls
that they ran, where every arrival is answered with a good reply. -/
structure Serves (secret : Bytes) (request : Request) (seq : Nat) (draws : Nat -> Draw)
    (phase : UdpServer Addr -> Nat -> List Call -> Prop) (good : Frame -> UdpServer Addr -> Prop) :
    Prop where
  arrival : forall {server arrivals calls}, phase server arrivals calls -> forall attempt data,
    encode runtime.toDigests (Pending.frame ⟨request.msgType, request.payload, seq, attempt⟩)
        secret = .ok data ->
      ∃ stored reply,
        (server.onDatagram runtime data addr (draws attempt)).sent = [(stored, addr)] ∧
        UdpClient.awaitReply runtime secret seq [stored] = (some (stored, .ok reply), []) ∧
        good reply (server.onDatagram runtime data addr (draws attempt)).server ∧
        phase (server.onDatagram runtime data addr (draws attempt)).server (arrivals + 1)
          (calls ++ (server.onDatagram runtime data addr (draws attempt)).calls)

/-- The exception of a request that nothing answers. -/
def noReply (seq maxRetries : Nat) : PyError :=
  .protocolError ⟨.errTimeout, s!"no reply for seq {seq} after {maxRetries} retries"⟩

/-- The end of a request, as its attempts determine it. -/
structure Ended (hooks : Hooks Link) (phase : UdpServer Addr -> Nat -> List Call -> Prop)
    (good : Frame -> UdpServer Addr -> Prop) (link : Link) (client : UdpClient) (seq attempt : Nat)
    (arrivals : Nat) (calls : List Call) (exchange : LossyExchange Link Addr) : Prop where
  tries : Tries Trial.answered (client.maxRetries - attempt) exchange.trials
  left : exchange.client =
    { client with retransmits := client.retransmits + (exchange.trials.length - 1) }
  counted : forall {offered dropped : Link -> Nat}, hooks.client.Counts offered dropped ->
    hooks.server.Counts offered dropped ->
    offered exchange.link =
        offered link + exchange.trials.length + exchange.trials.countP Trial.reached ∧
      dropped exchange.link =
        dropped link + exchange.trials.countP (fun trial => !trial.answered)
  kept : forall {inv : Link -> Prop}, hooks.client.Keeps inv -> hooks.server.Keeps inv ->
    inv link -> inv exchange.link
  phase : phase exchange.server (arrivals + exchange.trials.countP Trial.reached)
    (calls ++ exchange.trials.flatMap Trial.calls)
  returned : exchange.trials.any Trial.answered = true ->
    ∃ reply, exchange.result = .ok reply ∧ good reply exchange.server
  timedOut : exchange.trials.any Trial.answered = false ->
    exchange.result = .error (noReply seq client.maxRetries)

section

variable {link next : Link} {server after : UdpServer Addr} {client : UdpClient} (pending : Pending)
  {data : Bytes} {draws : Nat -> Draw} {trial : Trial Addr} (idle : client.queue = [])
  (crossed : cross runtime addr hooks link server data (draws pending.attempt) =
    (next, after, trial))
include idle crossed

/-- An attempt whose answer arrives is the last. -/
theorem lossyAttempts_heard {source : Bytes} {result : Except PyError Frame}
    (ended : UdpClient.awaitReply runtime client.secret pending.seq trial.arrived =
      (some (source, result), [])) :
    lossyAttempts runtime addr hooks link server client pending data draws =
      ⟨next, after, client, result, [trial]⟩ := by
  have same : ({ client with queue := [] } : UdpClient) = client := by rw [← idle]
  rw [lossyAttempts, crossed]
  dsimp only
  rw [idle, List.nil_append, ended]
  dsimp only
  rw [same]

/-- After an attempt without an answer there is another one. -/
theorem lossyAttempts_again (silent : trial.arrived = [])
    (more : pending.attempt < client.maxRetries) {again : Bytes}
    (encoded : encode runtime.toDigests (Pending.frame { pending with attempt := pending.attempt + 1 })
      client.secret = .ok again) :
    lossyAttempts runtime addr hooks link server client pending data draws =
      let later := lossyAttempts runtime addr hooks next after
        { client with retransmits := client.retransmits + 1 }
        { pending with attempt := pending.attempt + 1 } again draws
      { later with trials := trial :: later.trials } := by
  have same : ({ client with queue := [] } : UdpClient) = client := by rw [← idle]
  have expired : client.expire runtime pending =
      ({ client with retransmits := client.retransmits + 1 },
        .waiting { pending with attempt := pending.attempt + 1 } again) := by
    rw [UdpClient.expire, if_pos more]
    dsimp only
    rw [UdpClient.transmit, encoded]
  have nothing : client.queue ++ trial.arrived = [] := by rw [idle, silent, List.nil_append]
  rw [lossyAttempts, crossed]
  dsimp only
  rw [nothing, UdpClient.awaitReply]
  dsimp only
  rw [same, expired]

/-- The last attempt without an answer ends the request. -/
theorem lossyAttempts_exhausted (silent : trial.arrived = [])
    (last : ¬ pending.attempt < client.maxRetries) :
    lossyAttempts runtime addr hooks link server client pending data draws =
      ⟨next, after, client, .error (noReply pending.seq client.maxRetries), [trial]⟩ := by
  have same : ({ client with queue := [] } : UdpClient) = client := by rw [← idle]
  have expired : client.expire runtime pending =
      (client, .raised (noReply pending.seq client.maxRetries)) := by
    rw [UdpClient.expire, if_neg last]
    rfl
  have nothing : client.queue ++ trial.arrived = [] := by rw [idle, silent, List.nil_append]
  rw [lossyAttempts, crossed]
  dsimp only
  rw [nothing, UdpClient.awaitReply]
  dsimp only
  rw [same, expired]

end

section

variable {secret : Bytes} {request : Request} {seq : Nat} {draws : Nat -> Draw}
  {phase : UdpServer Addr -> Nat -> List Call -> Prop} {good : Frame -> UdpServer Addr -> Prop}

variable (hooks) in
/-- What one attempt leaves behind. -/
theorem Serves.cross (serves : Serves runtime addr secret request seq draws phase good)
    {server : UdpServer Addr} {arrivals : Nat} {calls : List Call}
    (start : phase server arrivals calls) {attempt : Nat} {data : Bytes}
    (encoded : encode runtime.toDigests
      (Pending.frame ⟨request.msgType, request.payload, seq, attempt⟩) secret = .ok data)
    (link : Link) :
    ∃ next after trial, cross runtime addr hooks link server data (draws attempt) =
        (next, after, trial) ∧
      phase after (arrivals + if trial.reached then 1 else 0) (calls ++ trial.calls) ∧
      (trial.arrived = [] ∨ ∃ stored reply, trial.arrived = [stored] ∧ good reply after ∧
        UdpClient.awaitReply runtime secret seq [stored] = (some (stored, .ok reply), [])) ∧
      (forall {offered dropped : Link -> Nat}, hooks.client.Counts offered dropped ->
        hooks.server.Counts offered dropped ->
        offered next = offered link + 1 + (if trial.reached then 1 else 0) ∧
          dropped next = dropped link + if trial.answered then 0 else 1) ∧
      forall {inv : Link -> Prop}, hooks.client.Keeps inv -> hooks.server.Keeps inv ->
        inv link -> inv next := by
  rcases serves.arrival start attempt data encoded with ⟨stored, reply, sent, awaited, fine, after⟩
  rcases outcome : Wireline.cross runtime addr hooks link server data (draws attempt) with
    ⟨next, left, trial⟩
  have crossed : Crossed hooks link server _ stored _ := cross_crossed sent
  have kept {inv : Link -> Prop} (client : hooks.client.Keeps inv)
      (replies : hooks.server.Keeps inv) (holds : inv link) :=
    cross_kept sent client replies holds
  rw [outcome] at crossed kept
  refine ⟨next, left, trial, rfl, ?_, ?_,
    fun client replies => cross_counted sent client replies outcome, kept⟩
  · cases crossed with
    | lost =>
        rw [Trial.calls, List.append_nil]
        exact start
    | unheard | heard => exact after
  · cases crossed with
    | lost | unheard => exact .inl rfl
    | heard => exact .inr ⟨stored, reply, rfl, fine, awaited⟩

section

variable {link next : Link} {after : UdpServer Addr} {client : UdpClient} {attempt arrivals : Nat}
  {calls : List Call} {trial : Trial Addr}
  (counted : forall {offered dropped : Link -> Nat}, hooks.client.Counts offered dropped ->
    hooks.server.Counts offered dropped ->
    offered next = offered link + 1 + (if trial.reached then 1 else 0) ∧
      dropped next = dropped link + if trial.answered then 0 else 1)
  (kept : forall {inv : Link -> Prop}, hooks.client.Keeps inv -> hooks.server.Keeps inv ->
    inv link -> inv next)
include counted kept

omit [DecidableEq Addr] in
/-- A request that ends with this attempt. -/
theorem ended_last {result : Except PyError Frame}
    (left : phase after (arrivals + if trial.reached then 1 else 0) (calls ++ trial.calls))
    (tries : Tries Trial.answered (client.maxRetries - attempt) [trial])
    (returned : trial.answered = true -> ∃ reply, result = .ok reply ∧ good reply after)
    (timedOut : trial.answered = false -> result = .error (noReply seq client.maxRetries)) :
    Ended hooks phase good link client seq attempt arrivals calls
      ⟨next, after, client, result, [trial]⟩ where
  tries := tries
  left := rfl
  counted := by
    intro offered dropped replies answers
    have once := counted replies answers
    rw [List.countP_singleton, List.countP_singleton, List.length_singleton]
    refine ⟨once.1, once.2.trans ?_⟩
    cases trial.answered <;> rfl
  kept := kept
  phase := by
    rw [List.countP_singleton, List.flatMap_singleton]
    exact left
  returned := by
    rw [List.any_cons, List.any_nil, Bool.or_false]
    exact returned
  timedOut := by
    rw [List.any_cons, List.any_nil, Bool.or_false]
    exact timedOut

omit [DecidableEq Addr] in
/-- An attempt without an answer in front of the others. -/
theorem ended_again (unanswered : trial.answered = false) (more : attempt < client.maxRetries)
    {later : LossyExchange Link Addr}
    (rest : Ended hooks phase good next { client with retransmits := client.retransmits + 1 } seq
      (attempt + 1) (arrivals + if trial.reached then 1 else 0) (calls ++ trial.calls) later) :
    Ended hooks phase good link client seq attempt arrivals calls
      { later with trials := trial :: later.trials } where
  tries := by
    have fewer : client.maxRetries - attempt = client.maxRetries - (attempt + 1) + 1 := by omega
    rw [fewer]
    exact .again unanswered rest.tries
  left := by
    have positive := rest.tries.length_pos
    have total : client.retransmits + 1 + (later.trials.length - 1) =
        client.retransmits + ((trial :: later.trials).length - 1) := by
      rw [List.length_cons]
      omega
    rw [rest.left, ← total]
  counted := by
    intro offered dropped replies answers
    have once := counted replies answers
    have others := rest.counted replies answers
    have failed : (if (!trial.answered) = true then 1 else 0) = 1 := by rw [unanswered]; rfl
    rw [unanswered, if_neg Bool.false_ne_true] at once
    rw [List.countP_cons, List.countP_cons, failed, List.length_cons]
    refine ⟨?_, ?_⟩
    · rw [others.1, once.1]
      omega
    · rw [others.2, once.2]
      omega
  kept := fun replies answers holds => rest.kept replies answers (kept replies answers holds)
  phase := by
    have total : arrivals + (if trial.reached then 1 else 0) + later.trials.countP Trial.reached =
        arrivals + (trial :: later.trials).countP Trial.reached := by
      rw [List.countP_cons]
      omega
    have holds := rest.phase
    rw [total, List.append_assoc, ← List.flatMap_cons] at holds
    exact holds
  returned := by
    rw [List.any_cons, unanswered, Bool.false_or]
    exact rest.returned
  timedOut := by
    rw [List.any_cons, unanswered, Bool.false_or]
    exact rest.timedOut

end

/-- What every arrival of a request preserves holds after all its attempts. -/
theorem Serves.ended (serves : Serves runtime addr secret request seq draws phase good)
    (numbered : seq ≤ maxSeq) (fits : request.payload.length ≤ maxPayload) {link : Link}
    {server : UdpServer Addr} {client : UdpClient} {arrivals : Nat} {calls : List Call}
    {attempt : Nat} {data : Bytes} (idle : client.queue = []) (keyed : client.secret = secret)
    (encoded : encode runtime.toDigests
      (Pending.frame ⟨request.msgType, request.payload, seq, attempt⟩) secret = .ok data)
    (start : phase server arrivals calls) :
    Ended hooks phase good link client seq attempt arrivals calls
      (lossyAttempts runtime addr hooks link server client
        ⟨request.msgType, request.payload, seq, attempt⟩ data draws) := by
  rcases serves.cross hooks start encoded link with
    ⟨next, after, trial, crossed, left, outcome, counted, kept⟩
  rcases outcome with silent | ⟨stored, reply, heard, fine, awaited⟩
  · have unanswered : trial.answered = false := by
      rw [Trial.answered, silent]
      rfl
    by_cases more : attempt < client.maxRetries
    · -- the induction is on the attempts that are left
      have checks := encodable_attempt numbered fits request.msgType (attempt + 1)
      rcases exists_encode runtime.toDigests checks secret with ⟨again, encodes⟩
      have rest : Ended hooks phase good next { client with retransmits := client.retransmits + 1 }
          seq (attempt + 1) _ _ _ := Serves.ended serves numbered fits idle keyed encodes left
      rw [← keyed] at encodes
      rw [lossyAttempts_again ⟨request.msgType, request.payload, seq, attempt⟩ idle crossed silent
        more encodes]
      exact ended_again counted kept unanswered more rest
    · have none : client.maxRetries - attempt = 0 := Nat.sub_eq_zero_of_le (Nat.le_of_not_lt more)
      rw [lossyAttempts_exhausted ⟨request.msgType, request.payload, seq, attempt⟩ idle crossed silent
        more]
      refine ended_last counted kept left (by rw [none]; exact .exhausted unanswered) ?_ fun _ => rfl
      rw [unanswered]
      nofun
  · rw [← keyed, ← heard] at awaited
    have answered : trial.answered = true := by
      rw [Trial.answered, heard]
      rfl
    rw [lossyAttempts_heard ⟨request.msgType, request.payload, seq, attempt⟩ idle crossed awaited]
    refine ended_last counted kept left (.succeeded answered) (fun _ => ⟨reply, rfl, fine⟩) ?_
    rw [answered]
    nofun
termination_by client.maxRetries - attempt

end

/-! ## A request that the server has not handled -/

/-- A server that answered `count` datagrams more from its windows. -/
def UdpServer.replayed (server : UdpServer Addr) (count : Nat) : UdpServer Addr :=
  { server with duplicates := server.duplicates + count }

/-- The server after some arrivals of a request: the first is handled, and its
reply is what the others are answered with. -/
inductive Handled (digests : Digests) (addr : Addr) (before : UdpServer Addr) (dedup : DedupWindow)
    (seq : Nat) (first : ServerSession -> Frame -> List Call -> Prop) :
    UdpServer Addr -> Nat -> List Call -> Prop
  | untouched : Handled digests addr before dedup seq first before 0 []
  | stored {session : ServerSession} {reply : Frame} {calls : List Call}
      (ran : first session reply calls) (good : reply.msgType ≠ .error) {number : Int}
      {stored : Bytes}
      (joined : join digests before.secret (UdpClient.answer seq number reply) = .ok stored)
      (sound : (before.settle addr ⟨session, dedup.put seq stored⟩ false).Sound) (again : Nat) :
      Handled digests addr before dedup seq first
        ((before.settle addr ⟨session, dedup.put seq stored⟩ false).replayed again) (again + 1) calls

/-- The reply is what the first arrival left in the entry of the address. -/
def StoredReply (addr : Addr) (dedup : DedupWindow) (seq : Nat)
    (first : ServerSession -> Frame -> List Call -> Prop) (reply : Frame) (server : UdpServer Addr) :
    Prop :=
  ∃ session stored calls, server.peers addr = some ⟨session, dedup.put seq stored⟩ ∧
    first session reply calls

/-- Every arrival of a request that the first arrival's handler answers is
answered. -/
theorem serves_handled {before : UdpServer Addr} (sound : before.Sound) {dedup : DedupWindow}
    (window : 0 < dedup.size) {request : Request} {seq : Nat} (numbered : seq ≤ maxSeq)
    (missed : dedup.get seq = none) {draws : Nat -> Draw}
    {first : ServerSession -> Frame -> List Call -> Prop}
    (handles : forall attempt, ∃ peer session reply calls,
      before.peer addr (draws attempt) = peer ∧ peer.dedup = dedup ∧
      { peer.session with outSeq := (peer.session.outSeq + 1) &&& maxSeq }.onFrame runtime
          (draws attempt).nonce (Pending.frame ⟨request.msgType, request.payload, seq, attempt⟩) =
        ⟨session, .ok { frames := [reply] }, calls⟩ ∧
      first session reply calls ∧ reply.msgType ≠ .error) :
    Serves runtime addr before.secret request seq draws
      (Handled runtime.toDigests addr before dedup seq first)
      (StoredReply addr dedup seq first) where
  arrival := by
    intro server arrivals calls phase attempt data encoded
    have range : (0 : Int) ≤ seq ∧ (seq : Int) ≤ maxSeq :=
      ⟨Int.natCast_nonneg _, Int.ofNat_le.mpr numbered⟩
    have decoded := decode_of_encode runtime.toDigests encoded
    cases phase with
    | untouched =>
        rcases handles attempt with ⟨peer, session, reply, calls, here, rfl, turned, ran, good⟩
        rcases UdpServer.onDatagram_replied runtime sound decoded (Pending.asks _) here missed turned
          rfl rfl with ⟨stored, joined, delivered⟩
        have receipt := UdpServer.onDatagram_receipt runtime sound data addr (draws attempt)
        have kept := receipt.sound sound
        rw [delivered] at kept ⊢
        exact ⟨stored, reply, rfl, UdpClient.awaitReply_answer range joined good,
          ⟨session, stored, calls, UdpServer.peers_settle_self .., ran⟩, .stored ran good joined kept 0⟩
    | stored ran good joined kept again =>
        rename_i session reply number stored
        have known : ((before.settle addr ⟨session, dedup.put seq stored⟩ false).replayed again).peers
            addr = some ⟨session, dedup.put seq stored⟩ := UdpServer.peers_settle_self ..
        have hit := dedup.get_put_self window seq stored
        have keyed : ((before.settle addr ⟨session, dedup.put seq stored⟩ false).replayed again).secret =
            before.secret := UdpServer.secret_settle ..
        rw [← keyed] at decoded
        have replayed := UdpServer.onDatagram_cached decoded known hit (draws attempt)
        rw [if_pos (join_ne_nil _ joined)] at replayed
        rw [replayed, List.append_nil]
        exact ⟨stored, reply, rfl, UdpClient.awaitReply_answer range joined good,
          ⟨session, stored, calls, known, ran⟩, .stored ran good joined kept (again + 1)⟩

end
end Wireline
