import Mathlib
import Wireline.Tcp.Calls
import Wireline.Udp.OpenNetwork

namespace Wireline

/-!
# ERROR as a reply

Both clients read one frame for a call, whatever its type.  The stream client
returns it.  The datagram client raises for an ERROR, and returns everything
else, an acknowledgement for instance, as the payload of a DATA.  What it
raises is a `ProtocolError`, unless reading the ERROR exhausts the interpreter.

The frames that arrive are arbitrary here.  That the server would not send
some of them in reply to some requests is no concern of the client.
-/

/-! ## The stream client -/

namespace Calls

variable (runtime : Runtime)

/-- The frame that the pending call reads: the one in front, with a new
number. -/
def Reads (calls : Calls) (method : Method) (frame : Frame) : Prop :=
  calls.pending = some method ∧ ∃ size,
    nextFrame runtime.toDigests (some calls.client.secret) calls.inbox = .item frame size ∧
      calls.client.lastPeerSeq < frame.seq

/-- A call ends as the frame that it reads demands, and no call succeeds that
has not read one. -/
def Classified (calls : Calls) (event : CallsEvent) : Prop :=
  forall next, calls.step runtime event = some next ->
    (forall method frame, event = .receive -> calls.Reads runtime method frame ->
        ∃ result, next.ended = calls.ended ++ [result] ∧ Classifies runtime frame result) ∧
      forall success, next.ended = calls.ended ++ [.ok success] ->
        event = .receive ∧ ∃ method frame, calls.Reads runtime method frame

/-- What a call reads is not an ERROR, and what `send_data` reads is a
DATA. -/
def Fitting (calls : Calls) (event : CallsEvent) : Prop :=
  forall method frame, event = .receive -> calls.Reads runtime method frame ->
    frame.msgType ≠ .error ∧
      ((∃ payload, method = .sendData payload) -> frame.msgType = .data)

variable {runtime}

/-- The result of a call fits the frame exactly if the frame fits the call. -/
theorem classifies_result_iff {method : Method} {frame : Frame} :
    Classifies runtime frame (.ok (method.result frame)) <->
      (frame.msgType ≠ .error ∧
        ((∃ payload, method = .sendData payload) -> frame.msgType = .data)) := by
  cases method with
  | ping payload | request msgType payload flags =>
      rw [Method.result, classifies_frame_iff]
      constructor
      · intro success
        refine ⟨success, ?_⟩
        rintro ⟨other, ⟨⟩⟩
      · exact And.left
  | sendData payload =>
      rw [Method.result, classifies_payload_iff]
      constructor
      · intro kind
        refine ⟨?_, fun _ => kind⟩
        rw [kind]
        decide
      · intro fits
        exact fits.2 ⟨payload, rfl⟩

/-- Success is the result of a read. -/
theorem reads_of_success {calls next : Calls} {event : CallsEvent}
    (stepped : calls.step runtime event = some next) {success : CallResult}
    (succeeded : next.ended = calls.ended ++ [.ok success]) :
    event = .receive ∧ ∃ method frame, calls.Reads runtime method frame := by
  have unchanged (same : calls.ended = calls.ended ++ [.ok success]) : False := by
    simp at same
  have failed {raised : PyError}
      (same : calls.ended ++ [.error raised] = calls.ended ++ [.ok success]) : False := by
    cases List.append_cancel_left same
  cases event with
  | call method =>
      rw [Calls.step, Calls.call] at stepped
      split at stepped
      · cases stepped
      · split at stepped
        · cases stepped
          exact (failed succeeded).elim
        · cases stepped
          exact (unchanged succeeded).elim
  | arrive chunk =>
      cases stepped
      exact (unchanged succeeded).elim
  | receive =>
      rcases receive_cases stepped with ⟨method, waiting, ⟨error, rest, shown, rfl⟩ |
        ⟨frame, size, item, ⟨late, error, rfl⟩ | ⟨fresh, _⟩⟩⟩
      · exact (failed succeeded).elim
      · exact (failed succeeded).elim
      · exact ⟨rfl, method, frame, waiting, size, item, fresh⟩
  | giveUp seen =>
      rcases Option.map_eq_some_iff.mp stepped with ⟨method, _, rfl⟩
      exact (failed succeeded).elim
  | endOfStream =>
      rcases Option.bind_eq_some_iff.mp stepped with ⟨method, _, ended⟩
      split at ended
      · cases ended
        exact (failed succeeded).elim
      · cases ended
  | close =>
      rw [Calls.step, Calls.close] at stepped
      split at stepped
      · cases stepped
      · cases stepped
        exact (unchanged succeeded).elim

theorem classified_iff {calls : Calls} {event : CallsEvent} :
    Classified runtime calls event <-> Fitting runtime calls event := by
  constructor
  · rintro classified method frame rfl reads
    rcases reads with ⟨waiting, size, item, fresh⟩
    have received := receive_fresh waiting item fresh
    rcases (classified _ received).1 method frame rfl ⟨waiting, size, item, fresh⟩ with
      ⟨result, ended, classifies⟩
    rw [← List.singleton_inj.mp (List.append_cancel_left ended)] at classifies
    exact classifies_result_iff.mp classifies
  · intro fitting next stepped
    refine ⟨?_, fun success => reads_of_success stepped⟩
    rintro method frame rfl reads
    have fits := fitting method frame rfl reads
    rcases reads with ⟨waiting, size, item, fresh⟩
    have received : calls.step runtime .receive = _ := receive_fresh waiting item fresh
    rw [stepped] at received
    cases received
    exact ⟨_, rfl, classifies_result_iff.mpr fits⟩

end Calls

/-! ## The datagram client -/

namespace OpenWorld

variable {Addr : Type} (runtime : Runtime)

/-- The frame that the pending call reads: the last of the first datagram that
it does not drop, if this datagram acknowledges the request. -/
def Reads (world : OpenWorld Addr) (method : UdpClient.Method) (reply : Frame) : Prop :=
  ∃ pending data first rest, world.pending = some (method, pending) ∧
    UdpClient.Decisive runtime world.client.secret pending.seq world.client.queue data ∧
    splitDatagram runtime.toDigests data world.client.secret = .ok (first :: rest) ∧
    UdpClient.answersSeq runtime pending.seq first = .ok true ∧ reply = rest.getLastD first

variable [DecidableEq Addr] (home : Addr)

def Classified (world : OpenWorld Addr) (event : OpenEvent Addr) : Prop :=
  forall next, world.step runtime home event = some next ->
    (forall method reply, event = .poll -> (forall nonce, method ≠ .connect nonce) ->
        world.Reads runtime method reply ->
          ∃ result, next.ended = world.ended ++ [result] ∧ Classifies runtime reply result) ∧
      forall success, next.ended = world.ended ++ [.ok success] ->
        event = .poll ∧ ∃ method reply, world.Reads runtime method reply

/-- What `send_data` reads is a DATA or an ERROR, and the payload of an ERROR
that a call reads is one that `json.loads` and `str` cope with. -/
def Fitting (world : OpenWorld Addr) (event : OpenEvent Addr) : Prop :=
  forall method reply, event = .poll -> (forall nonce, method ≠ .connect nonce) ->
    world.Reads runtime method reply ->
      ((∃ payload, method = .sendData payload) -> reply.msgType = .data ∨ reply.msgType = .error) ∧
        (reply.msgType = .error ->
          ¬ (runtime.Unloadable reply.payload ∨ runtime.Unprintable reply.payload))

variable {runtime} {home}

omit [DecidableEq Addr] in
/-- What the loop over the queue ends with, if it ends at an acknowledgement of
the request. -/
theorem awaitReply_of_reads {world : OpenWorld Addr} {method : UdpClient.Method} {reply : Frame}
    (reads : world.Reads runtime method reply) :
    ∃ pending data queue result, world.pending = some (method, pending) ∧
      UdpClient.awaitReply runtime world.client.secret pending.seq world.client.queue =
        (some (data, result), queue) ∧
      UdpClient.takeReply runtime reply = UdpClient.concluding result := by
  rcases reads with ⟨pending, data, first, rest, waiting, decisive, split, own, rfl⟩
  have judged := UdpClient.judge_acknowledged split own
  rcases UdpClient.concluding_takeReply runtime (rest.getLastD first) with ⟨result, concludes⟩
  rcases UdpClient.awaitReply_of_decisive decisive (judged.trans concludes) with ⟨queue, awaited⟩
  exact ⟨pending, data, queue, result, waiting, awaited, concludes⟩

/-- An ERROR ends the loop with the exception that it describes. -/
theorem raised_of_takeReply {reply : Frame} (report : reply.msgType = .error)
    {result : Except PyError Frame}
    (concludes : UdpClient.takeReply runtime reply = UdpClient.concluding result) :
    ∃ raised, result = .error raised ∧ (Classifies runtime reply (.error raised) <->
      ¬ (runtime.Unloadable reply.payload ∨ runtime.Unprintable reply.payload)) := by
  rw [UdpClient.takeReply, if_pos report] at concludes
  cases result with
  | ok other =>
      cases decoded : decodeError runtime reply.payload <;> rw [decoded] at concludes <;>
        cases concludes
  | error raised =>
      refine ⟨raised, rfl, classifies_report_iff report ?_⟩
      cases decoded : decodeError runtime reply.payload with
      | error failure =>
          rw [decoded] at concludes
          cases concludes
          rfl
      | ok fields =>
          rw [decoded] at concludes
          cases concludes
          rfl

/-- The result fits the frame exactly if `send_data` has read a DATA or an
ERROR, and an ERROR can be read. -/
theorem classifies_results_iff {method : UdpClient.Method}
    (after : forall nonce, method ≠ .connect nonce) {reply : Frame} {result : Except PyError Frame}
    (concludes : UdpClient.takeReply runtime reply = UdpClient.concluding result) :
    ∃ outcome, method.results result = [outcome] ∧
      (Classifies runtime reply outcome <->
        ((∃ payload, method = .sendData payload) ->
          reply.msgType = .data ∨ reply.msgType = .error) ∧
        (reply.msgType = .error ->
          ¬ (runtime.Unloadable reply.payload ∨ runtime.Unprintable reply.payload))) := by
  by_cases report : reply.msgType = .error
  · rcases raised_of_takeReply report concludes with ⟨raised, rfl, readable⟩
    refine ⟨.error raised, ?_, readable.trans ?_⟩
    · cases method with
      | connect nonce => exact absurd rfl (after nonce)
      | sendData payload | request msgType payload => rfl
    · exact ⟨fun handled => ⟨fun _ => .inr report, fun _ => handled⟩, fun fits => fits.2 report⟩
  · have vacuous (unread : Prop) : reply.msgType = .error -> unread := fun same => absurd same report
    rw [UdpClient.takeReply_success report] at concludes
    have success : result = .ok reply := by
      cases result <;> cases concludes
      rfl
    subst success
    cases method with
    | connect nonce => exact absurd rfl (after nonce)
    | sendData payload =>
        refine ⟨.ok (.payload reply.payload), rfl, ?_⟩
        rw [classifies_payload_iff]
        constructor
        · intro kind
          exact ⟨fun _ => .inl kind, vacuous _⟩
        · intro fits
          exact (fits.1 ⟨payload, rfl⟩).resolve_right report
    | request msgType payload =>
        refine ⟨.ok (.frame reply), rfl, ?_⟩
        rw [classifies_frame_iff]
        constructor
        · intro _
          exact ⟨by rintro ⟨other, ⟨⟩⟩, vacuous _⟩
        · exact fun _ => report

/-- Only a datagram that acknowledges the request makes a call succeed. -/
theorem reads_of_success {world next : OpenWorld Addr} {event : OpenEvent Addr}
    (stepped : world.step runtime home event = some next) {success : CallResult}
    (succeeded : next.ended = world.ended ++ [.ok success]) :
    event = .poll ∧ ∃ method reply, world.Reads runtime method reply := by
  have unchanged (same : world.ended = world.ended ++ [.ok success]) : False := by
    simp at same
  have failed {method : UdpClient.Method} {raised : PyError}
      (same : world.ended ++ method.results (.error raised) = world.ended ++ [.ok success]) :
      False := by
    have results := List.append_cancel_left same
    cases method <;> cases results
  cases event with
  | call method =>
      rw [OpenWorld.step, OpenWorld.call] at stepped
      split at stepped
      · cases stepped
      · split at stepped
        · cases stepped
          exact (failed succeeded).elim
        · cases stepped
          exact (unchanged succeeded).elim
  | expire =>
      rcases Option.map_eq_some_iff.mp stepped with ⟨⟨method, pending⟩, _, rfl⟩
      dsimp only at succeeded
      split at succeeded
      · exact (failed succeeded).elim
      · exact (unchanged succeeded).elim
  | poll =>
      refine ⟨rfl, ?_⟩
      rcases poll_cases stepped with
        ⟨method, pending, waiting, queue, ⟨_, rfl⟩ | ⟨data, result, awaited, rfl⟩⟩
      · exact (unchanged succeeded).elim
      · cases result with
        | error raised => exact (failed succeeded).elim
        | ok reply =>
            rcases UdpClient.decisive_of_awaitReply awaited with ⟨decisive, returned⟩
            rcases UdpClient.judge_returned returned with ⟨first, rest, split, own, last, _⟩
            exact ⟨method, reply, pending, data, first, rest, waiting, decisive, split, own, last⟩
  | close =>
      rw [OpenWorld.step] at stepped
      split at stepped
      · cases stepped
      · cases stepped
        exact (unchanged succeeded).elim
  | deliverToServer data addr draw | deliverToClient data =>
      cases stepped
      exact (unchanged succeeded).elim

variable (home) in
/-- A look into the queue that finds the frame of the pending call. -/
theorem poll_of_reads {world : OpenWorld Addr} {method : UdpClient.Method} {reply : Frame}
    (reads : world.Reads runtime method reply) :
    ∃ next result, world.step runtime home .poll = some next ∧
      next.ended = world.ended ++ method.results result ∧
      UdpClient.takeReply runtime reply = UdpClient.concluding result := by
  rcases awaitReply_of_reads reads with ⟨pending, data, queue, result, waiting, awaited, concludes⟩
  have polled : world.poll runtime = some (world.finish runtime
      { world.client with queue := queue } method pending.seq result) := by
    rw [OpenWorld.poll, waiting, Option.map_some]
    dsimp only
    rw [awaited]
  exact ⟨_, result, polled, rfl, concludes⟩

theorem classified_iff {world : OpenWorld Addr} {event : OpenEvent Addr} :
    Classified runtime home world event <-> Fitting runtime world event := by
  constructor
  · rintro classified method reply rfl after reads
    rcases poll_of_reads home reads with ⟨next, result, polled, ended, concludes⟩
    rcases classifies_results_iff after concludes with ⟨outcome, single, fits⟩
    rcases (classified next polled).1 method reply rfl after reads with
      ⟨other, also, classifies⟩
    rw [single] at ended
    rw [ended] at also
    rw [← List.singleton_inj.mp (List.append_cancel_left also)] at classifies
    exact fits.mp classifies
  · intro fitting next stepped
    refine ⟨?_, fun success => reads_of_success stepped⟩
    rintro method reply rfl after reads
    rcases poll_of_reads home reads with ⟨other, result, polled, ended, concludes⟩
    rw [stepped] at polled
    cases polled
    rcases classifies_results_iff after concludes with ⟨outcome, single, fits⟩
    rw [single] at ended
    exact ⟨outcome, ended, fits.mpr (fitting method reply rfl after reads)⟩

end OpenWorld

/-! ## Both clients -/

/-- In all runs, the calls of a client end as the frames that they read demand,
exactly if these frames are fit for it: for the stream client no ERROR, and a
DATA for `send_data`; for the datagram client a DATA or an ERROR for
`send_data`, and for any call no ERROR whose payload `json.loads` or `str`
cannot cope with. -/
theorem classified_iff_fitting (runtime : Runtime) :
    (forall (client : WirelineClient) (inbox : Bytes) (events : List CallsEvent),
        Execution.Along (Calls.step runtime) (Calls.Classified runtime)
            (Calls.start client inbox) events <->
          Execution.Along (Calls.step runtime) (Calls.Fitting runtime)
            (Calls.start client inbox) events) ∧
      forall (Addr : Type) [DecidableEq Addr] (home : Addr) (secret : Bytes) (dedupSize : Nat)
        (clientId : String) (maxRetries : Nat) (events : List (OpenEvent Addr)),
        Execution.Along (OpenWorld.step runtime home) (OpenWorld.Classified runtime home)
            (OpenWorld.start secret dedupSize clientId maxRetries) events <->
          Execution.Along (OpenWorld.step runtime home) (OpenWorld.Fitting runtime)
            (OpenWorld.start secret dedupSize clientId maxRetries) events := by
  constructor
  · intro client inbox events
    constructor
    · exact Execution.along_mono _ Calls.classified_iff.mp
    · exact Execution.along_mono _ Calls.classified_iff.mpr
  · intro Addr _ home secret dedupSize clientId maxRetries events
    constructor
    · exact Execution.along_mono _ OpenWorld.classified_iff.mp
    · exact Execution.along_mono _ OpenWorld.classified_iff.mpr

/-- The stream client's `ping` returns an ERROR. -/
theorem ping_returns_error : ∃ raw next,
    encode Reference.runtime.toDigests ⟨.error, 1, encodeError .errState "not allowed", 0⟩
        Reference.secret = .ok raw ∧
      Execution.run (Calls.step Reference.runtime) (Calls.start Calls.welcomed raw)
        [.call (.ping []), .receive] = some next ∧
      next.ended = [.ok (.frame ⟨.error, 1, encodeError .errState "not allowed", 0⟩)] := by
  have fits := length_encodeError_le .errState (show ShortText "not allowed" by decide)
  have report : Encodable ⟨.error, (1 : Nat), encodeError .errState "not allowed", 0⟩ :=
    encodable_answer (by decide) fits
  rcases exists_encode Reference.runtime.toDigests report Reference.secret with ⟨raw, encoded⟩
  have idle : (Calls.start Calls.welcomed raw).pending = none := rfl
  have small : Calls.welcomed.outSeq ≤ maxSeq := by decide
  have returned := Calls.ping_returns idle rfl rfl small encoded rfl (show (0 : Int) < 1 by decide)
  exact ⟨raw, _, encoded, returned, rfl⟩

end Wireline
