import Wireline.Library.Execution
import Wireline.Reference
import Wireline.Tcp.Client

namespace Wireline

open ExactReader Incremental

/-!
# Reads that time out

Each call of `_recv` waits for one frame under a timeout.  A timeout cancels
the read between two of its requests, and what the earlier requests have taken
is lost.  The next call then starts to read in the middle of a frame.

The server says nothing but frames here, and the network delivers their octets
in any portions.  What is not yet read is then the encoding of the frames that
the client has not decoded, until a read is cancelled behind its header.
-/

/-- A client that reads, what the server has sent, how much of it is still on
its way, and the frames that the reads have decoded. -/
structure TimedReads where
  client : WirelineClient
  sent : List Frame
  toCome : Bytes
  inbox : Bytes
  decoded : List Frame
  results : List (Except PyError Frame)

inductive ReadEvent
  | send (frame : Frame)
  | arrive (count : Nat)
  | recv
  | timeout (seen : Nat)

namespace TimedReads

variable (runtime : Runtime)

def start (client : WirelineClient) : TimedReads := ⟨client, [], [], [], [], []⟩

/-- The stream reader of the client. -/
def reader (reads : TimedReads) : Pull UInt8 ProtocolError Frame :=
  readFrame runtime.toDigests reads.client.secret

/-- The server sends a frame. -/
def send (reads : TimedReads) (frame : Frame) : Option TimedReads :=
  match encode runtime.toDigests frame reads.client.secret with
  | .error _ => none
  | .ok raw => some { reads with sent := reads.sent ++ [frame], toCome := reads.toCome ++ raw }

/-- `_recv` returns or raises with what its read has found. -/
def recv (reads : TimedReads) : Option TimedReads :=
  match (reads.reader runtime).run reads.inbox with
  | (.incomplete, _) => none
  | (.raised error, rest) =>
      some { reads with
        inbox := rest, results := reads.results ++ [.error (.protocolError error)] }
  | (.returned frame, rest) =>
      let (client, result) := reads.client.receive frame
      some { reads with
        client := client, inbox := rest, decoded := reads.decoded ++ [frame]
        results := reads.results ++ [result] }

/-- `_recv` raises `TimeoutError`: its read had seen `seen` of the octets that
have arrived, and was waiting for more. -/
def timeout (reads : TimedReads) (seen : Nat) : Option TimedReads :=
  match (reads.reader runtime).advance (reads.inbox.take seen) with
  | (.readexactly _ _, rest) =>
      some { reads with
        inbox := rest ++ reads.inbox.drop seen
        results := reads.results ++ [.error .timeoutError] }
  | _ => none

def step (reads : TimedReads) : ReadEvent -> Option TimedReads
  | .send frame => reads.send runtime frame
  | .arrive count =>
      some { reads with
        inbox := reads.inbox ++ reads.toCome.take count, toCome := reads.toCome.drop count }
  | .recv => reads.recv runtime
  | .timeout seen => reads.timeout runtime seen

/-! ## Frame boundaries -/

/-- What is not yet read are the octets of the frames that have not been
decoded, and to read on is to decode exactly these. -/
def AtBoundary (reads : TimedReads) : Prop :=
  ∃ remaining, reads.sent = reads.decoded ++ remaining ∧
    join runtime.toDigests reads.client.secret remaining = .ok (reads.inbox ++ reads.toCome) ∧
    ((reads.reader runtime).readAll
      (readFrame_implements runtime.toDigests reads.client.secret).consuming
      (reads.inbox ++ reads.toCome)).values = remaining

/-- A read is cancelled only in front of its header. -/
def Untouched (reads : TimedReads) (event : ReadEvent) : Prop :=
  forall seen, event = .timeout seen -> (reads.timeout runtime seen).isSome ->
    (reads.inbox.take seen).length < headerSize

variable {runtime}

/-- Reading on from a boundary is no condition of its own. -/
theorem atBoundary_iff {reads : TimedReads} :
    reads.AtBoundary runtime <-> ∃ remaining, reads.sent = reads.decoded ++ remaining ∧
      join runtime.toDigests reads.client.secret remaining = .ok (reads.inbox ++ reads.toCome) := by
  constructor
  · rintro ⟨remaining, sent, joined, _⟩
    exact ⟨remaining, sent, joined⟩
  · rintro ⟨remaining, sent, joined⟩
    refine ⟨remaining, sent, joined, ?_⟩
    have values := (readFrame_implements runtime.toDigests reads.client.secret).readAll_values
      (reads.inbox ++ reads.toCome)
    exact values.1.trans (scan_join runtime.toDigests joined).1

theorem atBoundary_start (client : WirelineClient) : (start client).AtBoundary runtime :=
  atBoundary_iff.mpr ⟨[], rfl, rfl⟩

theorem secret_receive (client : WirelineClient) (frame : Frame) :
    (client.receive frame).1.secret = client.secret := by
  unfold WirelineClient.receive
  split <;> rfl

theorem AtBoundary.send {reads next : TimedReads} (boundary : reads.AtBoundary runtime)
    {frame : Frame} (stepped : reads.send runtime frame = some next) : next.AtBoundary runtime := by
  rcases atBoundary_iff.mp boundary with ⟨remaining, sent, joined⟩
  unfold TimedReads.send at stepped
  cases encoded : encode runtime.toDigests frame reads.client.secret with
  | error error =>
      rw [encoded] at stepped
      cases stepped
  | ok raw =>
      rw [encoded] at stepped
      cases stepped
      apply atBoundary_iff.mpr
      refine ⟨remaining ++ [frame], by rw [sent, List.append_assoc], ?_⟩
      rw [← List.append_assoc]
      exact join_append runtime.toDigests joined (join_single runtime.toDigests encoded)

theorem AtBoundary.arrive {reads : TimedReads} (boundary : reads.AtBoundary runtime)
    (count : Nat) :
    AtBoundary runtime { reads with
      inbox := reads.inbox ++ reads.toCome.take count, toCome := reads.toCome.drop count } := by
  rcases atBoundary_iff.mp boundary with ⟨remaining, sent, joined⟩
  apply atBoundary_iff.mpr
  refine ⟨remaining, sent, ?_⟩
  rw [List.append_assoc, List.take_append_drop]
  exact joined

/-- From a boundary a read takes the next frame, and only that. -/
theorem AtBoundary.recv {reads next : TimedReads} (boundary : reads.AtBoundary runtime)
    (stepped : reads.recv runtime = some next) : next.AtBoundary runtime := by
  rcases atBoundary_iff.mp boundary with ⟨remaining, sent, joined⟩
  have implements := readFrame_implements runtime.toDigests reads.client.secret
  unfold TimedReads.recv reader at stepped
  rcases ended : (readFrame runtime.toDigests reads.client.secret).run reads.inbox with
    ⟨outcome, rest⟩
  rw [ended] at stepped
  cases outcome with
  | incomplete => cases stepped
  | raised error =>
      have failed := nextFrame_fail_append runtime.toDigests (implements.of_raised ended)
        reads.toCome
      have scanned := (scan_join runtime.toDigests joined).2.1
      rw [Scanner.scan_fail (frameScanner runtime.toDigests _) failed] at scanned
      cases scanned
  | returned frame =>
      cases stepped
      rcases implements.of_returned ended with ⟨size, shown, rfl⟩
      have own := join_single runtime.toDigests (encode_of_nextFrame runtime.toDigests shown)
      have split : reads.inbox ++ reads.toCome =
          reads.inbox.take size ++ (reads.inbox.drop size ++ reads.toCome) := by
        rw [← List.append_assoc, List.take_append_drop]
      rw [split] at joined
      rcases join_split runtime.toDigests own joined with ⟨later, rfl, rest⟩
      apply atBoundary_iff.mpr
      refine ⟨later, by rw [sent, List.append_assoc], ?_⟩
      change join runtime.toDigests (reads.client.receive frame).1.secret later = _
      rw [secret_receive]
      exact rest

/-- A cancelled read leaves the stream at a boundary exactly if it has not
taken the header. -/
theorem AtBoundary.timeout_iff {reads next : TimedReads} (boundary : reads.AtBoundary runtime)
    {seen : Nat} (stepped : reads.timeout runtime seen = some next) :
    next.AtBoundary runtime <-> (reads.inbox.take seen).length < headerSize := by
  rcases atBoundary_iff.mp boundary with ⟨remaining, sent, joined⟩
  have program : ∃ resume, reads.reader runtime = .readexactly headerSize resume := ⟨_, rfl⟩
  rcases program with ⟨resume, program⟩
  have untouched := Pull.advance_untouched_iff (by decide : 0 < headerSize) resume
    (reads.inbox.take seen)
  unfold timeout at stepped
  rw [program] at stepped
  rcases advanced : (Pull.readexactly headerSize resume).advance (reads.inbox.take seen) with
    ⟨waiting, rest⟩
  rw [advanced] at stepped untouched
  cases waiting with
  | done frame => cases stepped
  | fail error => cases stepped
  | readexactly size later =>
      cases stepped
      rw [← untouched, atBoundary_iff]
      constructor
      · rintro ⟨others, same, left⟩
        have all := List.append_cancel_left (sent.symm.trans same)
        rw [← all, joined] at left
        have lengths := congrArg List.length (Except.ok.inj left)
        have whole := congrArg List.length (List.take_append_drop seen reads.inbox)
        simp only [List.length_append] at lengths whole
        dsimp only
        omega
      · intro kept
        have short := untouched.mp kept
        rw [Pull.advance, if_neg (Nat.not_le_of_lt short)] at advanced
        cases advanced
        refine ⟨remaining, sent, ?_⟩
        rw [List.take_append_drop]
        exact joined

/-- Along every run the client reads from one frame boundary to the next
exactly as long as no read is cancelled behind its header. -/
theorem boundaries_iff_untouched (client : WirelineClient) (events : List ReadEvent) :
    Execution.Along (step runtime)
        (fun reads event => forall next, reads.step runtime event = some next ->
          next.AtBoundary runtime) (start client) events <->
      Execution.Along (step runtime) (Untouched runtime) (start client) events := by
  have agree {reads : TimedReads} {event : ReadEvent} (boundary : reads.AtBoundary runtime) :
      (forall next, reads.step runtime event = some next -> next.AtBoundary runtime) <->
        Untouched runtime reads event := by
    constructor
    · rintro kept seen rfl cancelled
      rcases Option.isSome_iff_exists.mp cancelled with ⟨next, stepped⟩
      exact (boundary.timeout_iff stepped).mp (kept next stepped)
    · intro untouched next stepped
      cases event with
      | send frame => exact boundary.send stepped
      | arrive count =>
          cases stepped
          exact boundary.arrive count
      | recv => exact boundary.recv stepped
      | timeout seen =>
          have cancelled : (reads.timeout runtime seen).isSome :=
            Option.isSome_iff_exists.mpr ⟨next, stepped⟩
          exact (boundary.timeout_iff stepped).mpr (untouched seen rfl cancelled)
  exact Execution.along_iff (step runtime) agree (fun _ kept stepped => kept _ stepped)
    (atBoundary_start client) events

/-- A PONG of which only the header has arrived. -/
theorem timeout_behind_header :
    ∃ reads next, Execution.run (step Reference.runtime)
        (start (WirelineClient.opened Reference.secret "client"))
        [.send ⟨.pong, (1 : Nat), [], 0⟩, .arrive headerSize] = some reads ∧
      reads.step Reference.runtime (.timeout headerSize) = some next ∧
      ¬ next.AtBoundary Reference.runtime := by
  let client := WirelineClient.opened Reference.secret "client"
  have checks : Encodable ⟨.pong, (1 : Nat), [], 0⟩ := encodable_plain (by decide) (by decide)
  rcases exists_encode Reference.runtime.toDigests checks Reference.secret with ⟨raw, encoded⟩
  have sized := length_of_encode Reference.runtime.toDigests encoded
  have shown := nextFrame_of_encode Reference.runtime.toDigests encoded []
  rw [List.append_nil] at shown
  rcases nextFrame_item Reference.runtime.toDigests shown with ⟨header, parsed, total, _, _⟩
  have bodiless : header.length = 0 := by
    rw [sized] at total
    simp only [List.length_nil] at total
    omega
  have sent : (start client).send Reference.runtime ⟨.pong, (1 : Nat), [], 0⟩ =
      some ⟨client, [⟨.pong, (1 : Nat), [], 0⟩], raw, [], [], []⟩ := by
    unfold TimedReads.send
    rw [show encode Reference.runtime.toDigests _ (start client).client.secret = _ from encoded]
    rfl
  let reads : TimedReads :=
    ⟨client, [⟨.pong, (1 : Nat), [], 0⟩], raw.drop headerSize, raw.take headerSize, [], []⟩
  have reached : Execution.run (step Reference.runtime) (start client)
      [.send ⟨.pong, (1 : Nat), [], 0⟩, .arrive headerSize] = some reads :=
    Execution.run_of_step _ sent (Execution.run_single _ rfl)
  have boundary : reads.AtBoundary Reference.runtime :=
    ((atBoundary_start client).send sent).arrive headerSize
  have arrived : reads.inbox.take headerSize = raw.take headerSize := by
    change (raw.take headerSize).take headerSize = raw.take headerSize
    rw [List.take_take, Nat.min_self]
  have headerSized : (raw.take headerSize).length = headerSize := by
    rw [List.length_take, sized]
    omega
  have waits : ∃ size resume, (reads.reader Reference.runtime).advance
      (reads.inbox.take headerSize) = (.readexactly size resume, []) := by
    have nothing : (raw.take headerSize).drop headerSize = [] :=
      List.drop_of_length_le (Nat.le_of_eq headerSized)
    rw [arrived, reader, readFrame, Pull.advance, if_pos (Nat.le_of_eq headerSized.symm),
      List.take_take, Nat.min_self, parsed, nothing]
    dsimp only
    rw [if_neg (not_not.mpr bodiless), Pull.advance, if_neg (by decide)]
    exact ⟨_, _, rfl⟩
  rcases waits with ⟨size, resume, waits⟩
  have cancelled : ∃ next, reads.timeout Reference.runtime headerSize = some next := by
    unfold timeout
    rw [waits]
    exact ⟨_, rfl⟩
  rcases cancelled with ⟨next, cancelled⟩
  refine ⟨reads, next, reached, cancelled, ?_⟩
  rw [boundary.timeout_iff cancelled, arrived, headerSized]
  exact Nat.lt_irrefl headerSize

end TimedReads
end Wireline
