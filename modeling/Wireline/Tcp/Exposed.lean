import Mathlib
import Wireline.Library.Execution
import Wireline.Library.Sequences
import Wireline.Reference
import Wireline.SessionRuns
import Wireline.Tcp.Client
import Wireline.Transport.Authenticity

namespace Wireline

open ExactReader Sequences

/-!
# A connection with an adversary on the path

Both ends write to the adversary, who sees everything, and read what the
adversary delivers.  The only restriction is that of `Unforged`: what verifies
at the front of a stream has been signed by one of the ends on this
connection.

The MAC does not say which of them.  The server tells its own frames from the
client's by their numbers, since it has never said more than it has accepted.
The client has no such rule.
-/

/-- The two ends of a connection, the octets that the adversary has delivered
to them, and what has happened so far: how many frames the client has
numbered, the frames that each end has signed, the frames that advanced the
session's `lastPeerSeq`, and those that `_recv` returned. -/
structure Exposed where
  session : ServerSession
  listening : Bool
  client : WirelineClient
  waiting : Bool
  toServer : Bytes
  toClient : Bytes
  made : Nat
  sent : List Frame
  written : List Frame
  accepted : List Frame
  returned : List Frame

inductive ExposedEvent
  | hello (nonce : Nonce)
  | request (msgType : MsgType) (payload : Bytes) (flags : Int)
  | close
  | deliverToServer (chunk : Bytes)
  | deliverToClient (chunk : Bytes)
  | serve
  | hangUp (cut : Cut)
  | receive
  | giveUp (seen : Nat)

namespace Exposed

variable (runtime : Runtime) (secret : Bytes) (nonce : Nonce)

/-- A connection that has just been opened. -/
def opened (sessionId : SessionId) (clientId : String) : Exposed where
  session := { sessionId := sessionId }
  listening := true
  client := .opened secret clientId
  waiting := false
  toServer := []
  toClient := []
  made := 0
  sent := []
  written := []
  accepted := []
  returned := []

/-- The client after a call.  A number that the encoder refused is gone. -/
def called (link : Exposed) (client : WirelineClient) (waiting : Bool) (sent : List Frame) :
    Exposed :=
  { link with
    client := client
    waiting := waiting
    made := if client.outSeq = link.client.outSeq then link.made else link.made + 1
    sent := link.sent ++ sent }

/-- One round of the server's loop. -/
def serve (link : Exposed) : Option Exposed :=
  if link.listening = false ∨ 2 ^ 32 ≤ link.written.length + 1 then none
  else
    match (readFrame runtime.toDigests secret).run link.toServer with
    | (.incomplete, _) => none
    | (.raised error, rest) =>
        let (reaction, session) := link.session.onProtocolError error
        let (written, _) := WirelineServer.apply runtime secret reaction.frames
        some { link with
          session := session, listening := false, toServer := rest,
          written := link.written ++ written }
    | (.returned frame, rest) =>
        let turn := link.session.onFrame runtime nonce frame
        let accepted :=
          if turn.session.lastPeerSeq = link.session.lastPeerSeq then link.accepted
          else link.accepted ++ [frame]
        match turn.result with
        | .error _ =>
            some { link with
              session := turn.session, listening := false, toServer := rest, accepted := accepted }
        | .ok reaction =>
            let (written, raised) := WirelineServer.apply runtime secret reaction.frames
            some { link with
              session := turn.session, listening := !reaction.close && raised.isNone,
              toServer := rest, written := link.written ++ written, accepted := accepted }

/-- The client's read completes. -/
def receive (link : Exposed) : Option Exposed :=
  if link.waiting = false then none
  else
    match (readFrame runtime.toDigests secret).run link.toClient with
    | (.incomplete, _) => none
    | (.raised _, rest) => some { link with waiting := false, toClient := rest }
    | (.returned frame, rest) =>
        match link.client.receive frame with
        | (client, .error _) =>
            some { link with client := client, waiting := false, toClient := rest }
        | (client, .ok frame) =>
            let greeted :=
              if client.state = .handshake then
                match client.greeted runtime frame with
                | .error _ => client
                | .ok ready => ready
              else client
            some { link with
              client := greeted, waiting := false, toClient := rest,
              returned := link.returned ++ [frame] }

/-- The server's wait for octets ends without them. -/
def hangUp (link : Exposed) (cut : Cut) : Option Exposed :=
  if link.listening = false then none
  else
    let session := match cut with
      | .timeout => link.session.onIdleTimeout.2
      | .endOfStream => link.session
      | .connectionReset => link.session
    some { link with session := session, listening := false }

/-- The client's read is given up.  It has seen a part of what was delivered,
and has taken from it what it could use. -/
def giveUp (link : Exposed) (seen : Nat) : Option Exposed :=
  if link.waiting = false then none
  else
    let (_, rest) := (readFrame runtime.toDigests secret).advance (link.toClient.take seen)
    some { link with waiting := false, toClient := rest ++ link.toClient.drop seen }

/-- The calls of the client follow one another, and each end makes fewer than
2^32 frames. -/
def step (link : Exposed) : ExposedEvent -> Option Exposed
  | .hello nonce =>
      if link.waiting = false ∧ link.client.state = .new ∧ link.made + 1 < 2 ^ 32 then
        match link.client.hello runtime nonce with
        | (client, .error _) => some (link.called client false [])
        | (client, .ok (frame, _)) => some (link.called client true [frame])
      else none
  | .request msgType payload flags =>
      if link.waiting = false ∧ link.made + 1 < 2 ^ 32 then
        match link.client.request runtime msgType payload flags with
        | (client, .error _) => some (link.called client false [])
        | (client, .ok (frame, _)) => some (link.called client true [frame])
      else none
  | .close =>
      if link.waiting = false ∧ link.made + 1 < 2 ^ 32 then
        match link.client.close runtime with
        | (client, .error _) => some (link.called client false [])
        | (client, .ok none) => some (link.called client false [])
        | (client, .ok (some (frame, _))) => some (link.called client false [frame])
      else none
  | .deliverToServer chunk => some { link with toServer := link.toServer ++ chunk }
  | .deliverToClient chunk => some { link with toClient := link.toClient ++ chunk }
  | .serve => link.serve runtime secret nonce
  | .hangUp cut => link.hangUp cut
  | .receive => link.receive runtime secret
  | .giveUp seen => link.giveUp runtime secret seen

/-- Where an end is about to read, what verifies has been signed by an end. -/
def Signed (link : Exposed) (event : ExposedEvent) : Prop :=
  (event = .serve ->
      Unforged runtime.toDigests secret (link.sent ++ link.written) link.toServer) ∧
    (event = .receive ->
      Unforged runtime.toDigests secret (link.sent ++ link.written) link.toClient)

/-- A frame that advances the session's counter is the client's, and not one
of the server's own. -/
def Distinguishes (link : Exposed) (event : ExposedEvent) : Prop :=
  forall next frame, link.step runtime secret nonce event = some next ->
    next.accepted = link.accepted ++ [frame] -> frame ∈ link.sent ∧ frame ∉ link.written

/-! ## What the ends have signed -/

/-- Frames with increasing numbers below a bound, which the encoder takes. -/
structure Below (bound : Nat) (frames : List Frame) : Prop where
  increasing : IncreasingBy Frame.seq frames
  below : forall frame, frame ∈ frames -> frame.seq < bound
  encodable : forall frame, frame ∈ frames -> Encodable frame

theorem below_nil (bound : Nat) : Below bound [] := by
  refine ⟨increasingBy_nil, ?_, ?_⟩ <;>
  · intro frame member
    cases member

theorem Below.mono {bound larger : Nat} {frames : List Frame} (below : Below bound frames)
    (le : bound ≤ larger) : Below larger frames := by
  refine ⟨below.increasing, ?_, below.encodable⟩
  intro frame member
  have less := below.below frame member
  omega

theorem Below.append {bound : Nat} {frames : List Frame} (below : Below bound frames)
    {frame : Frame} (number : frame.seq = bound) (checks : Encodable frame) :
    Below (bound + 1) (frames ++ [frame]) := by
  refine ⟨below.increasing.append ?_, ?_, ?_⟩
  · intro earlier member
    rw [number]
    exact below.below earlier member
  · intro other member
    rcases List.mem_append.mp member with before | now
    · have less := below.below other before
      omega
    · rw [List.mem_singleton.mp now, number]
      omega
  · intro other member
    rcases List.mem_append.mp member with before | now
    · exact below.encodable other before
    · rw [List.mem_singleton.mp now]
      exact checks

/-- What holds of a connection whatever the adversary does.  While the server
listens it has said no more than it has accepted, so that its own numbers lie
at or below the last accepted one. -/
structure Inv (link : Exposed) : Prop where
  live : link.listening = true -> link.session.Open ∧ link.session.InRange
  few : link.made < 2 ^ 32
  counter : link.client.outSeq = link.made
  sent : Below link.made link.sent
  written : Below link.written.length link.written
  counted : link.listening = true -> link.session.outSeq = link.written.length
  behind : link.listening = true -> (link.written.length : Int) ≤ link.session.lastPeerSeq + 1
  accepted : IncreasingBy Frame.seq link.accepted
  known : forall frame, frame ∈ link.accepted ->
    frame.seq ≤ link.session.lastPeerSeq ∧ frame ∈ link.sent

theorem inv_opened (sessionId : SessionId) (clientId : String) :
    Inv (opened secret sessionId clientId) where
  live := fun _ => ⟨.inl rfl, ServerSession.inRange_init sessionId⟩
  few := show 0 < 2 ^ 32 by decide
  counter := rfl
  sent := below_nil 0
  written := below_nil 0
  counted := fun _ => rfl
  behind := fun _ => show ((0 : Nat) : Int) ≤ -1 + 1 by decide
  accepted := increasingBy_nil
  known := by
    intro frame member
    cases member

variable {runtime} {secret} {nonce}

/-! ## Calls of the client -/

/-- What a call of the client leaves: nothing new, or a number that is gone,
or a frame with the next number. -/
inductive Call (link : Exposed) : Nat -> List Frame -> Prop
  | nothing : Call link link.client.outSeq []
  | refused : Call link ((link.client.outSeq + 1) &&& maxSeq) []
  | sent {frame : Frame} (number : frame.seq = link.client.outSeq) (checks : Encodable frame) :
      Call link ((link.client.outSeq + 1) &&& maxSeq) [frame]

/-- Sending takes a number, if there is a connection, whether or not the
encoder takes the frame. -/
theorem call_of_send {link : Exposed} {after : WirelineClient} {msgType : MsgType}
    {payload : Bytes} {flags : Int} {result : Except PyError (Frame × Bytes)}
    (sent : link.client.send runtime msgType payload flags = (after, result)) :
    after.lastPeerSeq = link.client.lastPeerSeq ∧
      ((∃ raised, result = .error raised ∧ Call link after.outSeq []) ∨
        ∃ frame data, result = .ok (frame, data) ∧ Call link after.outSeq [frame]) := by
  rw [WirelineClient.send] at sent
  by_cases unconnected : link.client.connected = false
  · rw [if_pos unconnected] at sent
    cases sent
    exact ⟨rfl, .inl ⟨_, rfl, .nothing⟩⟩
  · rw [if_neg unconnected] at sent
    dsimp only at sent
    cases encoded : encode runtime.toDigests ⟨msgType, link.client.outSeq, payload, flags⟩
        link.client.secret with
    | error raised =>
        rw [encoded] at sent
        cases sent
        exact ⟨rfl, .inl ⟨_, rfl, .refused⟩⟩
    | ok data =>
        rw [encoded] at sent
        cases sent
        exact ⟨rfl, .inr ⟨_, data, rfl, .sent rfl ((encode_ok_iff _ _ _ _).mp encoded).1⟩⟩

/-- The calls do nothing but that. -/
theorem step_call {link next : Exposed} {event : ExposedEvent}
    (calling : (∃ draw, event = .hello draw) ∨
      (∃ msgType payload flags, event = .request msgType payload flags) ∨ event = .close)
    (stepped : link.step runtime secret nonce event = some next) :
    link.made + 1 < 2 ^ 32 ∧ ∃ client waiting frames, Call link client.outSeq frames ∧
      client.lastPeerSeq = link.client.lastPeerSeq ∧
      next = link.called client waiting frames := by
  rcases calling with ⟨draw, rfl⟩ | ⟨msgType, payload, flags, rfl⟩ | rfl
  · rw [step] at stepped
    split at stepped
    · rename_i guard
      refine ⟨guard.2.2, ?_⟩
      rcases sent : link.client.send runtime .hello (encodeHello link.client.clientId draw.text) 0
        with ⟨after, result⟩
      rw [WirelineClient.hello, sent] at stepped
      rcases call_of_send sent with ⟨last, ⟨raised, rfl, call⟩ | ⟨frame, data, rfl, call⟩⟩
      · cases stepped
        exact ⟨_, _, _, call, last, rfl⟩
      · cases stepped
        exact ⟨{ after with state := .handshake }, _, _, call, last, rfl⟩
    · cases stepped
  · rw [step] at stepped
    split at stepped
    · rename_i guard
      refine ⟨guard.2, ?_⟩
      rw [WirelineClient.request] at stepped
      by_cases unready : link.client.state ≠ .ready
      · rw [if_pos unready] at stepped
        cases stepped
        exact ⟨_, _, _, .nothing, rfl, rfl⟩
      · rw [if_neg unready] at stepped
        rcases sent : link.client.send runtime msgType payload flags with ⟨after, result⟩
        rw [sent] at stepped
        rcases call_of_send sent with ⟨last, ⟨raised, rfl, call⟩ | ⟨frame, data, rfl, call⟩⟩
        · cases stepped
          exact ⟨_, _, _, call, last, rfl⟩
        · cases stepped
          exact ⟨_, _, _, call, last, rfl⟩
    · cases stepped
  · rw [step] at stepped
    split at stepped
    · rename_i guard
      refine ⟨guard.2, ?_⟩
      rw [WirelineClient.close] at stepped
      by_cases unconnected : link.client.connected = false
      · rw [if_pos unconnected] at stepped
        cases stepped
        exact ⟨_, _, _, .nothing, rfl, rfl⟩
      · rw [if_neg unconnected] at stepped
        by_cases ready : link.client.state = .ready
        · rw [if_pos ready] at stepped
          rcases sent : link.client.send runtime .bye [] 0 with ⟨after, result⟩
          rw [sent] at stepped
          rcases call_of_send sent with ⟨last, ⟨raised, rfl, call⟩ | ⟨frame, data, rfl, call⟩⟩
          · cases stepped
            exact ⟨_, _, _, call, last, rfl⟩
          · cases stepped
            exact ⟨{ after with connected := false, state := .closed }, _, _, call, last, rfl⟩
        · rw [if_neg ready] at stepped
          cases stepped
          exact ⟨{ link.client with connected := false, state := .closed }, _, _, .nothing, rfl, rfl⟩
    · cases stepped

theorem Inv.called {link : Exposed} (inv : Inv link) (room : link.made + 1 < 2 ^ 32)
    {client : WirelineClient} {frames : List Frame} (call : Call link client.outSeq frames)
    (waiting : Bool) : Inv (link.called client waiting frames) := by
  have next : (link.client.outSeq + 1) &&& maxSeq = link.made + 1 := by
    have limit : maxSeq = 2 ^ 32 - 1 := rfl
    rw [inv.counter]
    exact masked_succ (by omega)
  have counts : (link.called client waiting frames).made < 2 ^ 32 ∧
      client.outSeq = (link.called client waiting frames).made ∧
      Below (link.called client waiting frames).made (link.called client waiting frames).sent := by
    rw [Exposed.called]
    dsimp only
    generalize client.outSeq = outSeq at call ⊢
    cases call with
    | nothing =>
        rw [if_pos rfl, List.append_nil]
        exact ⟨inv.few, inv.counter, inv.sent⟩
    | refused =>
        rw [next, inv.counter, if_neg (Nat.succ_ne_self _), List.append_nil]
        exact ⟨room, rfl, inv.sent.mono (Nat.le_succ _)⟩
    | sent number checks =>
        rw [inv.counter] at number
        rw [next, inv.counter, if_neg (Nat.succ_ne_self _)]
        exact ⟨room, rfl, inv.sent.append number checks⟩
  refine ⟨inv.live, counts.1, counts.2.1, counts.2.2, inv.written, inv.counted, inv.behind,
    inv.accepted, ?_⟩
  intro frame member
  exact ⟨(inv.known frame member).1, List.mem_append_left _ (inv.known frame member).2⟩

/-! ## Rounds of the server -/

/-- The numbers of the server's own frames have all been passed. -/
theorem Inv.not_written {link : Exposed} (inv : Inv link) (listening : link.listening = true)
    {frame : Frame} (ahead : link.session.lastPeerSeq < frame.seq) : frame ∉ link.written := by
  intro member
  have less := inv.written.below frame member
  have behind := inv.behind listening
  omega

/-- What a round accepts: nothing, or a frame of the client's with a new
number. -/
def Accepts (link : Exposed) (session : ServerSession) (accepted : List Frame) : Prop :=
  (session.lastPeerSeq = link.session.lastPeerSeq ∧ accepted = link.accepted) ∨
    ∃ newest, link.session.lastPeerSeq < newest.seq ∧ session.lastPeerSeq = newest.seq ∧
      accepted = link.accepted ++ [newest] ∧ newest ∈ link.sent ∧ newest ∉ link.written

theorem Accepts.of_grown {link : Exposed} {session : ServerSession} {accepted : List Frame}
    (accepts : Accepts link session accepted) {frame : Frame}
    (grown : accepted = link.accepted ++ [frame]) : frame ∈ link.sent ∧ frame ∉ link.written := by
  rcases accepts with ⟨_, same⟩ | ⟨newest, _, _, also, member, foreign⟩
  · rw [same] at grown
    simp at grown
  · rw [also] at grown
    rw [← List.singleton_inj.mp (List.append_cancel_left grown)]
    exact ⟨member, foreign⟩

/-- A round speaks one frame at most and accepts one frame at most.  If the
server goes on, it has accepted one. -/
theorem Inv.served {link : Exposed} (inv : Inv link) (listening : link.listening = true)
    (room : link.written.length + 1 < 2 ^ 32) {session : ServerSession} {said : List Frame}
    {accepted : List Frame} {stays : Bool} (rest : Bytes)
    (numbers : (said = [] ∧ session.outSeq = link.session.outSeq) ∨
      ∃ reply, said = [reply] ∧ reply.seq = link.session.outSeq ∧
        session.outSeq = (link.session.outSeq + 1) &&& maxSeq)
    (checks : forall reply, reply ∈ said -> Encodable reply)
    (accepts : Accepts link session accepted)
    (live : stays = true -> session.Open ∧ session.InRange)
    (advances : stays = true -> link.session.lastPeerSeq < session.lastPeerSeq) :
    Inv { link with
      session := session, listening := stays, toServer := rest,
      written := link.written ++ said, accepted := accepted } := by
  have counted := inv.counted listening
  have behind := inv.behind listening
  have next : (link.session.outSeq + 1) &&& maxSeq = link.written.length + 1 := by
    have limit : maxSeq = 2 ^ 32 - 1 := rfl
    rw [counted]
    exact masked_succ (by omega)
  have spoken : Below (link.written ++ said).length (link.written ++ said) ∧
      session.outSeq = (link.written ++ said).length ∧
      (link.written ++ said).length ≤ link.written.length + 1 := by
    rcases numbers with ⟨rfl, same⟩ | ⟨reply, rfl, number, after⟩
    · rw [List.append_nil, same]
      exact ⟨inv.written, counted, Nat.le_succ _⟩
    · rw [List.length_append, List.length_singleton]
      rw [counted] at number
      exact ⟨inv.written.append number (checks reply (List.mem_singleton_self reply)),
        after.trans next, le_refl _⟩
  have accepts : IncreasingBy Frame.seq accepted ∧ forall frame, frame ∈ accepted ->
      frame.seq ≤ session.lastPeerSeq ∧ frame ∈ link.sent := by
    rcases accepts with ⟨same, rfl⟩ | ⟨newest, ahead, last, rfl, sent, _⟩
    · rw [same]
      exact ⟨inv.accepted, inv.known⟩
    · constructor
      · apply inv.accepted.append
        intro earlier member
        have passed := (inv.known earlier member).1
        omega
      · intro frame member
        rw [last]
        rcases List.mem_append.mp member with before | now
        · have passed := (inv.known frame before).1
          exact ⟨by omega, (inv.known frame before).2⟩
        · rw [List.mem_singleton.mp now]
          exact ⟨le_refl _, sent⟩
  refine ⟨live, inv.few, inv.counter, inv.sent, spoken.1, fun _ => spoken.2.1, ?_, accepts.1, accepts.2⟩
  intro stays
  have advanced := advances stays
  have length := spoken.2.2
  dsimp only
  omega

/-- A frame that the server reads has been signed by one of the ends. -/
theorem Inv.signed {link : Exposed} (inv : Inv link) {data rest : Bytes} {frame : Frame}
    (unforged : Unforged runtime.toDigests secret (link.sent ++ link.written) data)
    (read : (readFrame runtime.toDigests secret).run data = (.returned frame, rest)) :
    frame ∈ link.sent ∨ frame ∈ link.written := by
  rcases (readFrame_implements runtime.toDigests secret).of_returned read with ⟨size, shown, _⟩
  have encodable (other : Frame) (member : other ∈ link.sent ++ link.written) : Encodable other := by
    rcases List.mem_append.mp member with sent | written
    · exact inv.sent.encodable other sent
    · exact inv.written.encodable other written
  exact List.mem_append.mp (mem_of_unforged runtime.toDigests encodable unforged shown)

/-- What advances the counter is the client's. -/
theorem Inv.accepts {link : Exposed} (inv : Inv link) (listening : link.listening = true)
    {rest : Bytes} {frame : Frame}
    (unforged : Unforged runtime.toDigests secret (link.sent ++ link.written) link.toServer)
    (read : (readFrame runtime.toDigests secret).run link.toServer = (.returned frame, rest))
    {turn : Turn} (handling : Handling runtime nonce link.session frame turn)
    {accepted : List Frame} (grown : accepted =
      if turn.session.lastPeerSeq = link.session.lastPeerSeq then link.accepted
      else link.accepted ++ [frame]) :
    Accepts link turn.session accepted := by
  rcases handling.accepts with ⟨same, _⟩ | ⟨ahead, last, _⟩
  · rw [if_pos same] at grown
    exact .inl ⟨same, grown⟩
  · rw [if_neg (by omega)] at grown
    have foreign := inv.not_written listening ahead
    exact .inr ⟨frame, ahead, last, grown, (inv.signed unforged read).resolve_right foreign, foreign⟩

variable (runtime) (secret) (nonce) in
/-- The rounds of a server that listens: the stream cannot be read, the
session lets an exception through, or it answers. -/
inductive Round (link : Exposed) : Exposed -> Prop
  | unread {error : ProtocolError} {rest : Bytes}
      (checks : Encodable ⟨.error, link.session.outSeq, encodeError error.code error.message, 0⟩) :
      Round link { link with
        session := (link.session.onProtocolError error).2, listening := false, toServer := rest,
        written := link.written ++
          [⟨.error, link.session.outSeq, encodeError error.code error.message, 0⟩] }
  | raised {frame : Frame} {rest : Bytes}
      (read : (readFrame runtime.toDigests secret).run link.toServer = (.returned frame, rest))
      {turn : Turn} (handling : Handling runtime nonce link.session frame turn)
      {raised : PyError} (result : turn.result = .error raised) {accepted : List Frame}
      (grown : accepted =
        if turn.session.lastPeerSeq = link.session.lastPeerSeq then link.accepted
        else link.accepted ++ [frame]) :
      Round link { link with
        session := turn.session, listening := false, toServer := rest, accepted := accepted }
  | answered {frame : Frame} {rest : Bytes}
      (read : (readFrame runtime.toDigests secret).run link.toServer = (.returned frame, rest))
      {turn : Turn} (handling : Handling runtime nonce link.session frame turn)
      {reaction : Reaction} (result : turn.result = .ok reaction) (range : turn.session.InRange)
      (checks : forall reply, reply ∈ reaction.frames -> Encodable reply) {accepted : List Frame}
      (grown : accepted =
        if turn.session.lastPeerSeq = link.session.lastPeerSeq then link.accepted
        else link.accepted ++ [frame]) :
      Round link { link with
        session := turn.session, listening := !reaction.close, toServer := rest,
        written := link.written ++ reaction.frames, accepted := accepted }

/-- Every round is one of these, and the encoder takes what it writes. -/
theorem Inv.round {link next : Exposed} (inv : Inv link)
    (served : link.serve runtime secret nonce = some next) :
    link.listening = true ∧ link.written.length + 1 < 2 ^ 32 ∧
      Round runtime secret nonce link next := by
  rw [Exposed.serve] at served
  split at served
  · cases served
  · rename_i guard
    rw [not_or, Bool.not_eq_false, Nat.not_le] at guard
    rcases guard with ⟨listening, room⟩
    refine ⟨listening, room, ?_⟩
    rcases inv.live listening with ⟨live, range⟩
    rcases read : (readFrame runtime.toDigests secret).run link.toServer with ⟨ended, rest⟩
    rw [read] at served
    cases ended with
    | incomplete => cases served
    | raised error =>
        have checks : Encodable ⟨.error, link.session.outSeq,
            encodeError error.code error.message, 0⟩ :=
          encodable_answer range.outSeq
            (length_encodeError_le error.code (WirelineServer.short_of_read runtime secret read))
        have written : WirelineServer.apply runtime secret
            (link.session.onProtocolError error).1.frames =
              ((link.session.onProtocolError error).1.frames, none) := by
          apply WirelineServer.apply_encodable
          intro reply member
          rw [List.mem_singleton.mp member]
          exact checks
        dsimp only at served
        rw [written] at served
        cases served
        exact .unread checks
    | returned frame =>
        have handling := onFrame_handling runtime nonce live frame
        have encodable :=
          handling.encodable range (WirelineServer.encodable_of_read runtime secret read)
        dsimp only at served
        generalize link.session.onFrame runtime nonce frame = turn at *
        cases result : turn.result with
        | error raised =>
            rw [result] at served
            cases served
            exact .raised read handling result rfl
        | ok reaction =>
            have checks := encodable.2 reaction result
            have written := WirelineServer.apply_encodable runtime secret checks
            rw [result] at served
            dsimp only at served
            rw [written] at served
            cases served
            rw [Option.isNone_none, Bool.and_true]
            exact .answered read handling result encodable.1 checks rfl

/-- A round of the server keeps the invariant, and what it accepts is the
client's. -/
theorem Inv.serve {link next : Exposed} (inv : Inv link)
    (unforged : Unforged runtime.toDigests secret (link.sent ++ link.written) link.toServer)
    (served : link.serve runtime secret nonce = some next) :
    Inv next ∧ forall frame, next.accepted = link.accepted ++ [frame] ->
      frame ∈ link.sent ∧ frame ∉ link.written := by
  rcases inv.round served with ⟨listening, room, round⟩
  cases round with
  | unread checks =>
      constructor
      · exact inv.served listening room _ (.inr ⟨_, rfl, rfl, rfl⟩) (List.forall_mem_singleton.mpr checks)
          (.inl ⟨rfl, rfl⟩) (by rintro ⟨⟩) (by rintro ⟨⟩)
      · intro frame same
        simp at same
  | raised read handling result grown =>
      rename_i frame rest turn raised accepted
      have accepts := inv.accepts listening unforged read handling grown
      have numbers := handling.numbers
      rw [Turn.handed, result] at numbers
      have kept := inv.served listening room rest numbers (List.forall_mem_nil _) accepts
        (show false = true -> turn.session.Open ∧ turn.session.InRange by rintro ⟨⟩)
        (by rintro ⟨⟩)
      rw [List.append_nil] at kept
      exact ⟨kept, fun _ => accepts.of_grown⟩
  | answered read handling result range checks grown =>
      rename_i turn reaction accepted
      have accepts := inv.accepts listening unforged read handling grown
      have numbers := handling.numbers
      rw [Turn.handed, result] at numbers
      have after (stays : (!reaction.close) = true) :=
        handling.ready_of_open result (by simpa using stays)
      refine ⟨inv.served listening room _ numbers checks accepts ?_ ?_, fun _ => accepts.of_grown⟩
      · intro stays
        exact ⟨.inr (after stays).1, range⟩
      · intro stays
        rw [(after stays).2.1]
        exact (after stays).2.2

/-! ## The reads of the client -/

theorem greeted_counters {client ready : WirelineClient} {reply : Frame}
    (greeted : client.greeted runtime reply = .ok ready) :
    ready.outSeq = client.outSeq ∧ ready.lastPeerSeq = client.lastPeerSeq := by
  rw [WirelineClient.greeted] at greeted
  split at greeted
  · cases decoded : decodeError runtime reply.payload <;> rw [decoded] at greeted <;> cases greeted
  · split at greeted
    · cases greeted
    · cases decoded : decodeHelloAck runtime reply.payload <;> rw [decoded] at greeted <;>
        cases greeted
      exact ⟨rfl, rfl⟩

/-- A completed read leaves the frame to the caller, or it raises. -/
theorem receive_cases {link next : Exposed} (received : link.receive runtime secret = some next) :
    ∃ client toClient, client.outSeq = link.client.outSeq ∧
      ((client.lastPeerSeq = link.client.lastPeerSeq ∧
          next = { link with client := client, waiting := false, toClient := toClient }) ∨
        ∃ frame, (readFrame runtime.toDigests secret).run link.toClient =
            (.returned frame, toClient) ∧
          link.client.lastPeerSeq < frame.seq ∧ client.lastPeerSeq = frame.seq ∧
          next = { link with
            client := client, waiting := false, toClient := toClient,
            returned := link.returned ++ [frame] }) := by
  rw [Exposed.receive] at received
  split at received
  · cases received
  · rcases read : (readFrame runtime.toDigests secret).run link.toClient with ⟨ended, rest⟩
    rw [read] at received
    cases ended with
    | incomplete => cases received
    | raised error =>
        cases received
        exact ⟨link.client, rest, rfl, .inl ⟨rfl, rfl⟩⟩
    | returned frame =>
        dsimp only at received
        rw [WirelineClient.receive] at received
        by_cases late : frame.seq ≤ link.client.lastPeerSeq
        · rw [if_pos late] at received
          cases received
          exact ⟨link.client, rest, rfl, .inl ⟨rfl, rfl⟩⟩
        · rw [if_neg late] at received
          dsimp only at received
          have ahead : link.client.lastPeerSeq < frame.seq := Int.lt_of_not_ge late
          by_cases handshake : link.client.state = .handshake
          · rw [if_pos handshake] at received
            cases greeted : WirelineClient.greeted runtime
                { link.client with lastPeerSeq := frame.seq } frame with
            | error raised =>
                rw [greeted] at received
                cases received
                exact ⟨{ link.client with lastPeerSeq := frame.seq }, rest, rfl,
                  .inr ⟨frame, rfl, ahead, rfl, rfl⟩⟩
            | ok ready =>
                rw [greeted] at received
                cases received
                have counters := greeted_counters greeted
                exact ⟨ready, rest, counters.1, .inr ⟨frame, rfl, ahead, counters.2, rfl⟩⟩
          · rw [if_neg handshake] at received
            cases received
            exact ⟨{ link.client with lastPeerSeq := frame.seq }, rest, rfl,
              .inr ⟨frame, rfl, ahead, rfl, rfl⟩⟩

/-- A frame with a greater number is returned. -/
theorem receive_ahead {link : Exposed} (waiting : link.waiting = true) {frame : Frame}
    {rest : Bytes}
    (shown : (readFrame runtime.toDigests secret).run link.toClient = (.returned frame, rest))
    (ahead : link.client.lastPeerSeq < frame.seq) :
    ∃ client, link.receive runtime secret = some { link with
      client := client, waiting := false, toClient := rest,
      returned := link.returned ++ [frame] } := by
  rw [Exposed.receive, if_neg (by rw [waiting]; decide), shown]
  dsimp only
  rw [WirelineClient.receive, if_neg (Int.not_le_of_gt ahead)]
  exact ⟨_, rfl⟩

/-! ## Every step -/


theorem Inv.hangUp {link : Exposed} (inv : Inv link) {session : ServerSession}
    (same : session.lastPeerSeq = link.session.lastPeerSeq) :
    Inv { link with listening := false, session := session } where
  live := by rintro ⟨⟩
  few := inv.few
  counter := inv.counter
  sent := inv.sent
  written := inv.written
  counted := by rintro ⟨⟩
  behind := by rintro ⟨⟩
  accepted := inv.accepted
  known := by
    intro frame member
    dsimp only
    rw [same]
    exact inv.known frame member

/-- What the client reads changes nothing for the server. -/
theorem Inv.heard {link : Exposed} (inv : Inv link) {client : WirelineClient}
    (same : client.outSeq = link.client.outSeq) (waiting : Bool) (toClient : Bytes)
    (returned : List Frame) :
    Inv { link with
      client := client, waiting := waiting, toClient := toClient, returned := returned } where
  live := inv.live
  few := inv.few
  counter := same.trans inv.counter
  sent := inv.sent
  written := inv.written
  counted := inv.counted
  behind := inv.behind
  accepted := inv.accepted
  known := inv.known

/-- Each step keeps the invariant, and the server accepts the client's frames
only. -/
theorem Inv.step {link next : Exposed} (inv : Inv link) {event : ExposedEvent}
    (signed : Signed runtime secret link event)
    (stepped : link.step runtime secret nonce event = some next) :
    Inv next ∧ forall frame, next.accepted = link.accepted ++ [frame] ->
      frame ∈ link.sent ∧ frame ∉ link.written := by
  have unchanged {frame : Frame} (same : link.accepted = link.accepted ++ [frame]) :
      frame ∈ link.sent ∧ frame ∉ link.written := by simp at same
  cases event with
  | hello draw =>
      rcases step_call (.inl ⟨draw, rfl⟩) stepped with ⟨room, client, waiting, frames, call, _, rfl⟩
      exact ⟨inv.called room call waiting, fun _ same => unchanged same⟩
  | request msgType payload flags =>
      rcases step_call (.inr (.inl ⟨msgType, payload, flags, rfl⟩)) stepped with
        ⟨room, client, waiting, frames, call, _, rfl⟩
      exact ⟨inv.called room call waiting, fun _ same => unchanged same⟩
  | close =>
      rcases step_call (.inr (.inr rfl)) stepped with ⟨room, client, waiting, frames, call, _, rfl⟩
      exact ⟨inv.called room call waiting, fun _ same => unchanged same⟩
  | deliverToServer chunk =>
      cases stepped
      exact ⟨⟨inv.live, inv.few, inv.counter, inv.sent, inv.written, inv.counted, inv.behind,
        inv.accepted, inv.known⟩, fun _ same => unchanged same⟩
  | deliverToClient chunk =>
      cases stepped
      exact ⟨inv.heard rfl link.waiting _ link.returned, fun _ same => unchanged same⟩
  | serve => exact inv.serve (signed.1 rfl) stepped
  | hangUp cut =>
      rw [Exposed.step] at stepped
      unfold Exposed.hangUp at stepped
      split at stepped
      · cases stepped
      · cases stepped
        refine ⟨inv.hangUp ?_, fun _ same => unchanged same⟩
        cases cut <;> rfl
  | receive =>
      rcases receive_cases stepped with ⟨client, toClient, number, ⟨_, rfl⟩ | ⟨frame, _, _, _, rfl⟩⟩
      · exact ⟨inv.heard number false toClient link.returned, fun _ same => unchanged same⟩
      · exact ⟨inv.heard number false toClient _, fun _ same => unchanged same⟩
  | giveUp seen =>
      rw [Exposed.step, Exposed.giveUp] at stepped
      split at stepped
      · cases stepped
      · cases stepped
        exact ⟨inv.heard rfl false _ link.returned, fun _ same => unchanged same⟩

/-! ## The first moves of a run -/

/-- The first frame of a client. -/
def greeting (clientId : String) (draw : Nonce) : Frame :=
  ⟨.hello, 0, encodeHello clientId draw.text, 0⟩

/-- The answer of a server to it. -/
def welcome (sessionId : SessionId) (nonce : Nonce) : Frame :=
  ⟨.helloAck, (0 : Nat), encodeHelloAck sessionId.text nonce.text, 0⟩

theorem greeting_encodable {clientId : String} {draw : Nonce}
    (fits : (encodeHello clientId draw.text).length ≤ maxPayload) :
    Encodable (greeting clientId draw) := encodable_answer (Nat.zero_le _) fits

variable (secret) in
/-- A connection whose client has said HELLO. -/
def greeted (sessionId : SessionId) (clientId : String) (draw : Nonce) : Exposed :=
  (opened secret sessionId clientId).called
    { WirelineClient.opened secret clientId with outSeq := (0 + 1) &&& maxSeq, state := .handshake }
    true [greeting clientId draw]

section

variable {sessionId : SessionId} {clientId : String} {draw : Nonce} {raw : Bytes}
  (encoded : encode runtime.toDigests (greeting clientId draw) secret = .ok raw)
include encoded

theorem hello_greeting : (WirelineClient.opened secret clientId).hello runtime draw =
    ({ WirelineClient.opened secret clientId with
        outSeq := (0 + 1) &&& maxSeq, state := .handshake },
      .ok (greeting clientId draw, raw)) := by
  have connected : (WirelineClient.opened secret clientId).connected = true := rfl
  have written : encode runtime.toDigests ⟨.hello, (WirelineClient.opened secret clientId).outSeq,
      encodeHello (WirelineClient.opened secret clientId).clientId draw.text, 0⟩
      (WirelineClient.opened secret clientId).secret = .ok raw := encoded
  rw [WirelineClient.hello, WirelineClient.send, if_neg (by rw [connected]; decide)]
  dsimp only
  rw [written]
  rfl

theorem step_hello : (opened secret sessionId clientId).step runtime secret nonce (.hello draw) =
    some (greeted secret sessionId clientId draw) := by
  have guard : (opened secret sessionId clientId).waiting = false ∧
      (opened secret sessionId clientId).client.state = .new ∧
      (opened secret sessionId clientId).made + 1 < 2 ^ 32 :=
    ⟨rfl, rfl, show 0 + 1 < 2 ^ 32 by decide⟩
  have sent : (opened secret sessionId clientId).client.hello runtime draw = _ :=
    hello_greeting encoded
  rw [Exposed.step, if_pos guard, sent]
  rfl

/-- The server takes the HELLO and signs its answer. -/
theorem serve_greeting {answer : Bytes}
    (answered : encode runtime.toDigests (welcome sessionId nonce) secret = .ok answer) :
    ∃ session, ({ greeted secret sessionId clientId draw with toServer := [] ++ raw } :
        Exposed).serve runtime secret nonce =
      some { greeted secret sessionId clientId draw with
        session := session, written := [welcome sessionId nonce],
        accepted := [greeting clientId draw] } := by
  have read : (readFrame runtime.toDigests secret).run ([] ++ raw) =
      (.returned (greeting clientId draw), []) := by
    have shown := run_readFrame_encoded runtime.toDigests encoded []
    rwa [List.append_nil] at shown
  have fresh : ({ sessionId := sessionId } : ServerSession).state = .new := rfl
  have accepted : ({ sessionId := sessionId } : ServerSession).lastPeerSeq <
      (greeting clientId draw).seq := show (-1 : Int) < 0 by decide
  have hello : (greeting clientId draw).msgType = .hello := rfl
  have wellFormed : decodeHello runtime (greeting clientId draw).payload =
      .ok (clientId, draw.text) := decodeHello_encodeHello runtime clientId draw.text
  have turned := onFrame_welcomed runtime nonce fresh accepted hello wellFormed
  have applied : WirelineServer.apply runtime secret [welcome sessionId nonce] =
      ([welcome sessionId nonce], none) := by
    rw [WirelineServer.apply, answered]
    rfl
  rw [Exposed.serve, if_neg (by simp [greeted, called, opened]), read]
  dsimp only [greeted, called, opened]
  rw [turned]
  dsimp only
  rw [show ServerSession.outSeq { sessionId := sessionId } = 0 from rfl]
  rw [show [Frame.mk .helloAck ((0 : Nat) : Int) _ _] = [welcome sessionId nonce] from rfl, applied]
  exact ⟨_, rfl⟩

/-- The adversary delivers the HELLO to one of the ends. -/
theorem signed_greeting {deliver read : ExposedEvent}
    (copies : (deliver = .deliverToServer raw ∧ read = .serve) ∨
      (deliver = .deliverToClient raw ∧ read = .receive)) :
    Execution.Along (step runtime secret nonce) (Signed runtime secret)
      (opened secret sessionId clientId) [.hello draw, deliver, read] := by
  have front : Unforged runtime.toDigests secret [greeting clientId draw] ([] ++ raw) := by
    have unforged := unforged_of_encode runtime.toDigests encoded
      (List.mem_singleton_self (greeting clientId draw)) []
    rwa [List.append_nil] at unforged
  refine ⟨⟨by rintro ⟨⟩, by rintro ⟨⟩⟩, ?_⟩
  intro next stepped
  rw [step_hello encoded] at stepped
  cases stepped
  rcases copies with ⟨rfl, rfl⟩ | ⟨rfl, rfl⟩
  · refine ⟨⟨by rintro ⟨⟩, by rintro ⟨⟩⟩, ?_⟩
    intro next stepped
    cases stepped
    exact ⟨⟨fun _ => front, by rintro ⟨⟩⟩, fun _ _ => trivial⟩
  · refine ⟨⟨by rintro ⟨⟩, by rintro ⟨⟩⟩, ?_⟩
    intro next stepped
    cases stepped
    exact ⟨⟨by rintro ⟨⟩, fun _ => front⟩, fun _ _ => trivial⟩

end

variable (runtime) (secret) (nonce) in
/-- Whatever the adversary delivers, the server accepts the frames of the
client only, in their order, and none of them twice. -/
theorem accepted_sublist (sessionId : SessionId) (clientId : String) {events : List ExposedEvent}
    (signed : Execution.Along (step runtime secret nonce) (Signed runtime secret)
      (opened secret sessionId clientId) events) {link : Exposed}
    (reached : Execution.run (step runtime secret nonce) (opened secret sessionId clientId) events =
      some link) :
    (link.accepted.Sublist link.sent ∧ link.accepted.Nodup) ∧
      Execution.Along (step runtime secret nonce) (Distinguishes runtime secret nonce)
        (opened secret sessionId clientId) events := by
  have kept {link : Exposed} {event : ExposedEvent} {next : Exposed} (inv : Inv link)
      (signed : Signed runtime secret link event)
      (stepped : link.step runtime secret nonce event = some next) : Inv next :=
    (inv.step signed stepped).1
  have start := inv_opened secret sessionId clientId
  constructor
  · have inv := Execution.run_invariant_along _ kept start signed reached
    refine ⟨inv.accepted.sublist inv.sent.increasing ?_, inv.accepted.nodup⟩
    intro frame member
    exact (inv.known frame member).2
  · apply Execution.along_of_along _ kept _ start signed
    intro link event inv signed next frame stepped
    exact (inv.step signed stepped).2 frame

theorem accepted_sublist_greeting :
    ∃ raw link, Execution.run (step Reference.runtime Reference.secret Reference.nonce)
        (opened Reference.secret Reference.sessionId "client")
        [.hello Reference.nonce, .deliverToServer raw, .serve] = some link ∧
      (link.accepted.Sublist link.sent ∧ link.accepted.Nodup) ∧
      Execution.Along (step Reference.runtime Reference.secret Reference.nonce)
        (Distinguishes Reference.runtime Reference.secret Reference.nonce)
        (opened Reference.secret Reference.sessionId "client")
        [.hello Reference.nonce, .deliverToServer raw, .serve] := by
  rcases exists_encode Reference.runtime.toDigests (greeting_encodable Reference.hello_fits)
    Reference.secret with ⟨raw, encoded⟩
  rcases exists_encode Reference.runtime.toDigests
    (show Encodable (welcome Reference.sessionId Reference.nonce) by decide) Reference.secret with
    ⟨answer, answered⟩
  rcases serve_greeting encoded answered with ⟨session, served⟩
  have reached : Execution.run (step Reference.runtime Reference.secret Reference.nonce)
      (opened Reference.secret Reference.sessionId "client")
      [.hello Reference.nonce, .deliverToServer raw, .serve] = some _ :=
    Execution.run_of_step _ (step_hello encoded)
      (Execution.run_of_step _ rfl (Execution.run_single _ served))
  exact ⟨raw, _, reached, accepted_sublist Reference.runtime Reference.secret Reference.nonce
    Reference.sessionId "client" (signed_greeting encoded (.inl ⟨rfl, rfl⟩)) reached⟩

end Exposed
end Wireline
