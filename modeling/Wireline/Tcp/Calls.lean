import Wireline.Library.Execution
import Wireline.Reference
import Wireline.Replies
import Wireline.Tcp.Client

namespace Wireline

open ExactReader

/-!
# Calls of a ready client on an arbitrary stream

Nothing is assumed about the octets that arrive.  A call that reads what does
not decode, or a number that is not new, raises, and that is all: the client
stays as ready as it was and reads on from wherever the failed read stopped.
It is fail-stop only as long as it never reads anything of this kind.
-/

/-- The calls that send a message and read one frame. -/
inductive Method
  | ping (payload : Bytes)
  | sendData (payload : Bytes)
  | request (msgType : MsgType) (payload : Bytes) (flags : Int)

namespace Method

def msgType : Method -> MsgType
  | ping _ => .ping
  | sendData _ => .data
  | request msgType _ _ => msgType

def payload : Method -> Bytes
  | ping payload => payload
  | sendData payload => payload
  | request _ payload _ => payload

def flags : Method -> Int
  | ping _ => 0
  | sendData _ => 0
  | request _ _ flags => flags

/-- What the call returns of the frame it read. -/
def result (frame : Frame) : Method -> CallResult
  | ping _ => .frame frame
  | sendData _ => .payload frame.payload
  | request _ _ _ => .frame frame

end Method

/-- A client, its pending call, the octets that have arrived, the results of
the calls that are over, and whether one of them raised because of a frame
that it received. -/
structure Calls where
  client : WirelineClient
  pending : Option Method
  inbox : Bytes
  ended : List (Except PyError CallResult)
  failed : Bool

inductive CallsEvent
  | call (method : Method)
  | arrive (chunk : Bytes)
  | receive
  | giveUp (seen : Nat)
  | endOfStream
  | close

namespace Calls

variable (runtime : Runtime)

def start (client : WirelineClient) (inbox : Bytes) : Calls := ⟨client, none, inbox, [], false⟩

/-- The front of what has arrived, through the stream reader. -/
def read (calls : Calls) : Ended ProtocolError Frame × Bytes :=
  (readFrame runtime.toDigests calls.client.secret).run calls.inbox

/-- The pending call is over. -/
def finish (calls : Calls) (client : WirelineClient) (inbox : Bytes)
    (result : Except PyError CallResult) : Calls :=
  { calls with
    client := client, pending := none, inbox := inbox, ended := calls.ended ++ [result] }

/-- A call up to its read. -/
def call (calls : Calls) (method : Method) : Option Calls :=
  if calls.pending.isSome then none
  else
    match calls.client.request runtime method.msgType method.payload method.flags with
    | (client, .error raised) => some (calls.finish client calls.inbox (.error raised))
    | (client, .ok _) => some { calls with client := client, pending := some method }

/-- The read of the pending call completes. -/
def receive (calls : Calls) : Option Calls :=
  calls.pending.bind fun method =>
    match calls.read runtime with
    | (.incomplete, _) => none
    | (.raised error, rest) =>
        some { calls.finish calls.client rest (.error (.protocolError error)) with failed := true }
    | (.returned frame, rest) =>
        match calls.client.receive frame with
        | (client, .error raised) =>
            some { calls.finish client rest (.error raised) with failed := true }
        | (client, .ok frame) => some (calls.finish client rest (.ok (method.result frame)))

/-- The read is cancelled, having seen a part of what arrived. -/
def giveUp (calls : Calls) (seen : Nat) : Option Calls :=
  calls.pending.map fun _ =>
    let (_, rest) :=
      (readFrame runtime.toDigests calls.client.secret).advance (calls.inbox.take seen)
    calls.finish calls.client (rest ++ calls.inbox.drop seen) (.error .timeoutError)

/-- The stream ends inside the frame that the pending call reads. -/
def endOfStream (calls : Calls) : Option Calls :=
  calls.pending.bind fun _ =>
    match calls.read runtime with
    | (.incomplete, _) => some (calls.finish calls.client [] (.error .incompleteReadError))
    | _ => none

def close (calls : Calls) : Option Calls :=
  if calls.pending.isSome then none
  else some { calls with client := (calls.client.close runtime).1 }

def step (calls : Calls) : CallsEvent -> Option Calls
  | .call method => calls.call runtime method
  | .arrive chunk => some { calls with inbox := calls.inbox ++ chunk }
  | .receive => calls.receive runtime
  | .giveUp seen => calls.giveUp runtime seen
  | .endOfStream => calls.endOfStream runtime
  | .close => calls.close runtime

/-! ## Failing stops -/

/-- Once a received frame has made a call raise, the client is not ready, and
no call returns. -/
def FailStop (calls : Calls) (event : CallsEvent) : Prop :=
  forall next, calls.step runtime event = some next ->
    (next.failed = true -> next.client.state ≠ .ready) ∧
      (calls.failed = true -> forall success, next.ended ≠ calls.ended ++ [.ok success])

/-- The pending call does not read what fails to decode, nor a number that is
not new. -/
def Unspoiled (calls : Calls) (event : CallsEvent) : Prop :=
  event = .receive -> calls.pending.isSome ->
    (forall error,
      nextFrame runtime.toDigests (some calls.client.secret) calls.inbox ≠ .fail error) ∧
    forall frame size,
      nextFrame runtime.toDigests (some calls.client.secret) calls.inbox = .item frame size ->
        calls.client.lastPeerSeq < frame.seq

/-- While nothing has failed, a call that waits is one of a ready client. -/
structure Intact (calls : Calls) : Prop where
  unfailed : calls.failed = false
  waiting : calls.pending.isSome -> calls.client.state = .ready

variable {runtime}

/-- The read completes with what the front of the inbox shows. -/
theorem receive_cases {calls next : Calls} (received : calls.receive runtime = some next) :
    ∃ method, calls.pending = some method ∧
      ((∃ error rest,
          nextFrame runtime.toDigests (some calls.client.secret) calls.inbox = .fail error ∧
          next = { calls.finish calls.client rest (.error (.protocolError error)) with
            failed := true }) ∨
        ∃ frame size,
          nextFrame runtime.toDigests (some calls.client.secret) calls.inbox = .item frame size ∧
          ((frame.seq ≤ calls.client.lastPeerSeq ∧
              ∃ error, next = { calls.finish calls.client (calls.inbox.drop size)
                (.error (.protocolError error)) with failed := true }) ∨
            (calls.client.lastPeerSeq < frame.seq ∧
              next = calls.finish { calls.client with lastPeerSeq := frame.seq }
                (calls.inbox.drop size) (.ok (method.result frame))))) := by
  have reader := readFrame_implements runtime.toDigests calls.client.secret
  rw [Calls.receive] at received
  cases waiting : calls.pending with
  | none =>
      rw [waiting] at received
      cases received
  | some method =>
      refine ⟨method, rfl, ?_⟩
      rw [waiting, Option.bind_some] at received
      rcases shown : calls.read runtime with ⟨ended, rest⟩
      rw [shown] at received
      cases ended with
      | incomplete => cases received
      | raised error =>
          cases received
          exact .inl ⟨error, rest, reader.of_raised shown, rfl⟩
      | returned frame =>
          rcases reader.of_returned shown with ⟨size, item, rfl⟩
          refine .inr ⟨frame, size, item, ?_⟩
          dsimp only at received
          rw [WirelineClient.receive] at received
          by_cases late : frame.seq ≤ calls.client.lastPeerSeq
          · rw [if_pos late] at received
            cases received
            exact .inl ⟨late, _, rfl⟩
          · rw [if_neg late] at received
            cases received
            exact .inr ⟨Int.lt_of_not_ge late, rfl⟩

section

variable {calls : Calls} {method : Method} (waiting : calls.pending = some method)
include waiting

theorem receive_raised {error : ProtocolError} {rest : Bytes}
    (read : calls.read runtime = (.raised error, rest)) :
    calls.receive runtime = some
      { calls.finish calls.client rest (.error (.protocolError error)) with failed := true } := by
  rw [Calls.receive, waiting, Option.bind_some, read]

/-- Octets that do not decode make the call raise. -/
theorem receive_fail {error : ProtocolError}
    (shown : nextFrame runtime.toDigests (some calls.client.secret) calls.inbox = .fail error) :
    ∃ rest, calls.receive runtime = some
      { calls.finish calls.client rest (.error (.protocolError error)) with failed := true } := by
  have raised := (readFrame_implements runtime.toDigests calls.client.secret).fail shown
  exact ⟨_, receive_raised waiting (Prod.ext raised rfl)⟩

variable {frame : Frame} {size : Nat}
  (item : nextFrame runtime.toDigests (some calls.client.secret) calls.inbox = .item frame size)
include item

theorem receive_stale (late : frame.seq ≤ calls.client.lastPeerSeq) :
    ∃ error, calls.receive runtime = some
      { calls.finish calls.client (calls.inbox.drop size) (.error (.protocolError error)) with
        failed := true } := by
  have reader := (readFrame_implements runtime.toDigests calls.client.secret).item item
  rw [Calls.receive, waiting, Option.bind_some, Calls.read, reader]
  dsimp only
  rw [WirelineClient.receive, if_pos late]
  exact ⟨_, rfl⟩

theorem receive_fresh (fresh : calls.client.lastPeerSeq < frame.seq) :
    calls.receive runtime = some (calls.finish { calls.client with lastPeerSeq := frame.seq }
      (calls.inbox.drop size) (.ok (method.result frame))) := by
  have reader := (readFrame_implements runtime.toDigests calls.client.secret).item item
  rw [Calls.receive, waiting, Option.bind_some, Calls.read, reader]
  dsimp only
  rw [WirelineClient.receive, if_neg (Int.not_le_of_gt fresh)]

end

/-- Only a ready client sends a request, and it stays ready. -/
theorem ready_of_request {client after : WirelineClient} {msgType : MsgType} {payload : Bytes}
    {flags : Int} {sent : Frame × Bytes}
    (requested : client.request runtime msgType payload flags = (after, .ok sent)) :
    after.state = .ready := by
  rw [WirelineClient.request] at requested
  by_cases unready : client.state ≠ .ready
  · rw [if_pos unready] at requested
    cases requested
  · rw [if_neg unready, WirelineClient.send] at requested
    split at requested
    · cases requested
    · have same : { client with outSeq := (client.outSeq + 1) &&& maxSeq } = after :=
        congrArg Prod.fst requested
      rw [← same]
      exact not_not.mp unready

theorem intact_start {client : WirelineClient} (inbox : Bytes) : Intact (start client inbox) where
  unfailed := rfl
  waiting := by rintro ⟨⟩

/-- A call that is over leaves the client waiting for nothing. -/
theorem intact_finish {calls : Calls} (intact : Intact calls) (client : WirelineClient)
    (inbox : Bytes) (result : Except PyError CallResult) :
    Intact (calls.finish client inbox result) where
  unfailed := intact.unfailed
  waiting := by rintro ⟨⟩

theorem Intact.step {calls next : Calls} (intact : Intact calls) {event : CallsEvent}
    (unspoiled : Unspoiled runtime calls event)
    (stepped : calls.step runtime event = some next) : Intact next := by
  cases event with
  | call method =>
      rw [Calls.step, Calls.call] at stepped
      split at stepped
      · cases stepped
      · split at stepped
        · cases stepped
          exact intact_finish intact ..
        · rename_i client sent requested
          cases stepped
          exact ⟨intact.unfailed, fun _ => ready_of_request requested⟩
  | arrive chunk =>
      cases stepped
      exact ⟨intact.unfailed, intact.waiting⟩
  | receive =>
      rcases receive_cases stepped with ⟨method, waiting, ⟨error, rest, shown, _⟩ |
        ⟨frame, size, item, ⟨late, _⟩ | ⟨fresh, rfl⟩⟩⟩
      · have sound := unspoiled rfl (by rw [waiting]; rfl)
        exact absurd shown (sound.1 error)
      · have sound := unspoiled rfl (by rw [waiting]; rfl)
        exact absurd (sound.2 frame size item) (Int.not_lt_of_ge late)
      · exact intact_finish intact ..
  | giveUp seen =>
      rcases Option.map_eq_some_iff.mp stepped with ⟨method, _, rfl⟩
      exact intact_finish intact ..
  | endOfStream =>
      rcases Option.bind_eq_some_iff.mp stepped with ⟨method, _, ended⟩
      split at ended
      · cases ended
        exact intact_finish intact ..
      · cases ended
  | close =>
      rw [Calls.step, Calls.close] at stepped
      split at stepped
      · cases stepped
      · rename_i idle
        cases stepped
        exact ⟨intact.unfailed, fun waiting => absurd waiting idle⟩

/-- A step of a client that has not failed stops it as demanded exactly if
the step does not fail. -/
theorem Intact.failStop_iff {calls : Calls} (intact : Intact calls) {event : CallsEvent} :
    FailStop runtime calls event <-> Unspoiled runtime calls event := by
  constructor
  · rintro stops rfl pending
    have ready := intact.waiting pending
    rcases Option.isSome_iff_exists.mp pending with ⟨method, waiting⟩
    constructor
    · intro error shown
      rcases receive_fail waiting shown with ⟨rest, received⟩
      exact (stops _ received).1 rfl ready
    · intro frame size item
      by_contra late
      rcases receive_stale waiting item (Int.le_of_not_gt late) with ⟨error, received⟩
      exact (stops _ received).1 rfl ready
  · intro unspoiled next stepped
    have after := intact.step unspoiled stepped
    constructor
    · intro failed
      rw [after.unfailed] at failed
      cases failed
    · intro failed
      rw [intact.unfailed] at failed
      cases failed

variable (runtime) in
/-- In every run of a client, its failures stop it exactly if there are
none. -/
theorem failStop_iff_unspoiled (client : WirelineClient) (inbox : Bytes) (events : List CallsEvent) :
    Execution.Along (step runtime) (FailStop runtime) (start client inbox) events <->
      Execution.Along (step runtime) (Unspoiled runtime) (start client inbox) events := by
  apply Execution.along_iff _ _ _ (intact_start inbox) events
  · intro calls event intact
    exact intact.failStop_iff
  · intro calls event next intact stops stepped
    exact intact.step (intact.failStop_iff.mp stops) stepped

/-! ## A client that goes on -/

/-- A client that has sent a PING. -/
def pinging (calls : Calls) : Calls := { calls with
  client := { calls.client with outSeq := (calls.client.outSeq + 1) &&& maxSeq },
  pending := some (.ping []) }

section

variable {calls : Calls} (idle : calls.pending = none) (ready : calls.client.state = .ready)
  (connected : calls.client.connected = true) (counted : calls.client.outSeq ≤ maxSeq)
include idle ready connected counted

theorem call_ping : calls.step runtime (.call (.ping [])) = some calls.pinging := by
  have checks : Encodable ⟨.ping, calls.client.outSeq, [], 0⟩ :=
    encodable_answer counted (Nat.zero_le _)
  rcases exists_encode runtime.toDigests checks calls.client.secret with ⟨data, encoded⟩
  rw [Calls.step, Calls.call, if_neg (by rw [idle]; decide), WirelineClient.request,
    if_neg (not_not.mpr ready), WirelineClient.send, if_neg (by rw [connected]; decide)]
  dsimp only [Method.msgType, Method.payload, Method.flags]
  rw [encoded]
  rfl

/-- A PING that reads what does not decode leaves the client ready. -/
theorem ping_refused {error : ProtocolError} {later : Bytes}
    (refused : (readFrame runtime.toDigests calls.client.secret).run calls.inbox =
      (.raised error, later)) :
    ∃ next, Execution.run (step runtime) calls [.call (.ping []), .receive] = some next ∧
      next.failed = true ∧ next.pending = none ∧ next.inbox = later ∧
      next.client = calls.pinging.client := by
  have waiting : calls.pinging.pending = some (.ping []) := rfl
  have received : calls.pinging.step runtime .receive = _ := receive_raised waiting refused
  have reached := Execution.run_of_step _ (call_ping idle ready connected counted)
    (Execution.run_single _ received)
  exact ⟨_, reached, rfl, rfl, rfl, rfl⟩

/-- A PING returns whatever frame it reads. -/
theorem ping_returns {frame : Frame} {raw : Bytes}
    (encoded : encode runtime.toDigests frame calls.client.secret = .ok raw)
    (arrived : calls.inbox = raw) (fresh : calls.client.lastPeerSeq < frame.seq) :
    Execution.run (step runtime) calls [.call (.ping []), .receive] = some
      (calls.pinging.finish { calls.pinging.client with lastPeerSeq := frame.seq } []
        (.ok (.frame frame))) := by
  have waiting : calls.pinging.pending = some (.ping []) := rfl
  have item : nextFrame runtime.toDigests (some calls.pinging.client.secret) calls.pinging.inbox =
      .item frame raw.length := by
    have shown := nextFrame_of_encode runtime.toDigests encoded []
    rw [List.append_nil, ← arrived] at shown
    rw [← arrived]
    exact shown
  have received : calls.pinging.step runtime .receive = _ := receive_fresh waiting item fresh
  have rest : calls.pinging.inbox.drop raw.length = [] := by
    rw [← arrived]
    exact List.drop_length
  rw [rest] at received
  exact Execution.run_of_step _ (call_ping idle ready connected counted)
    (Execution.run_single _ received)

end

/-- A header of zeros. -/
def zeros : Bytes := List.replicate headerSize 0

theorem decodeHeader_zeros : ∃ message, decodeHeader zeros = .error ⟨.errMagic, message⟩ := by
  rw [decodeHeader, if_neg (by decide)]
  dsimp only
  rw [if_pos (by decide)]
  exact ⟨_, rfl⟩

/-- The stream reader stops behind a header that it refuses. -/
theorem run_readFrame_zeros (digests : Digests) (secret later : Bytes) :
    ∃ error, (readFrame digests secret).run (zeros ++ later) = (.raised error, later) := by
  rcases decodeHeader_zeros with ⟨message, refused⟩
  have front : (zeros ++ later).take headerSize = zeros := List.take_left' rfl
  have back : (zeros ++ later).drop headerSize = later := List.drop_left' rfl
  have enough : headerSize ≤ (zeros ++ later).length := by
    rw [List.length_append]
    exact Nat.le_add_right headerSize later.length
  rw [readFrame, Pull.run, if_pos enough, front, back, refused]
  exact ⟨_, rfl⟩

/-- A client after its handshake. -/
def welcomed : WirelineClient :=
  ⟨Reference.secret, "client", true, 1, 0, .ready, some Reference.sessionId.text⟩

/-- A header of zeros makes a PING raise.  The next PING returns the PONG that
follows the zeros. -/
theorem failed_client_returns :
    ∃ raw calls next,
      encode Reference.runtime.toDigests ⟨.pong, 1, [], 0⟩ Reference.secret = .ok raw ∧
      Execution.run (step Reference.runtime) (start welcomed (zeros ++ raw))
        [.call (.ping []), .receive] = some calls ∧
      calls.failed = true ∧ calls.client.state = .ready ∧
      Execution.run (step Reference.runtime) calls [.call (.ping []), .receive] = some next ∧
      next.ended = calls.ended ++ [.ok (.frame ⟨.pong, 1, [], 0⟩)] := by
  have pong : Encodable ⟨.pong, (1 : Nat), [], 0⟩ := encodable_answer (by decide) (Nat.zero_le _)
  rcases exists_encode Reference.runtime.toDigests pong Reference.secret with ⟨raw, encoded⟩
  rcases run_readFrame_zeros Reference.runtime.toDigests Reference.secret raw with ⟨error, refused⟩
  have small : welcomed.outSeq ≤ maxSeq := by decide
  rcases ping_refused (show (start welcomed (zeros ++ raw)).pending = none from rfl) rfl rfl small
    refused with ⟨calls, first, failed, idle, inbox, client⟩
  have ready : calls.client.state = .ready := congrArg WirelineClient.state client
  have connected : calls.client.connected = true := congrArg WirelineClient.connected client
  have secret : calls.client.secret = Reference.secret := congrArg WirelineClient.secret client
  have last : calls.client.lastPeerSeq = 0 := congrArg WirelineClient.lastPeerSeq client
  have counted : calls.client.outSeq ≤ maxSeq := by
    rw [client]
    exact masked_le _
  have second := ping_returns idle ready connected counted (by rw [secret]; exact encoded) inbox
    (by rw [last]; decide)
  exact ⟨raw, calls, _, encoded, first, failed, ready, second, rfl⟩

end Calls
end Wireline
