import Mathlib.Computability.RegularExpressions
import Wireline.Reference
import Wireline.SessionOutput
import Wireline.Transport.Framing

namespace Wireline

open ExactReader

/-!
# One connection of the stream server

The handler reads a frame, lets the session react, writes the reaction, and
goes on until something closes.  The inbound bytes are arbitrary; they end
where the peer, the network or a timeout ends them.  Writes succeed.

What the handler writes is a word of a small grammar, numbered from 0, and
its echoes are the echoes of the accepted frames.  The proof follows the
loop: a conversation of a ready session first, and then the one step that
leads from a new session to a ready one.
-/

/-- What happens when the handler waits for octets that do not come. -/
inductive Cut
  | endOfStream
  | timeout
  | connectionReset
deriving DecidableEq, Repr

/-- The frames that the loop read, the handlers that ran, and the frames that
were written. -/
structure Conversation where
  inbound : List Frame := []
  calls : List Call := []
  written : List Frame := []

namespace WirelineServer

variable (runtime : Runtime) (secret : Bytes) (nonce : Nonce)

/-- `_apply`: write the frames of a reaction.  An exception of the encoder
keeps the later ones from being written. -/
def apply : List Frame -> List Frame × Option ProtocolError
  | [] => ([], none)
  | frame :: frames =>
      match encode runtime.toDigests frame secret with
      | .error raised => ([], some raised)
      | .ok _ =>
          let (written, raised) := apply frames
          (frame :: written, raised)

/-- `_handle` from the head of its loop.  An exception that is not handled
inside the loop ends it.  The nonce is that of the only HELLO_ACK. -/
def handle (session : ServerSession) (cut : Cut) (stream : Bytes) : Conversation :=
  if session.state = .closing ∨ session.state = .closed then {}
  else
    match _read : (readFrame runtime.toDigests secret).run stream with
    | (.incomplete, _) =>
        match cut with
        | .timeout => { written := (apply runtime secret session.onIdleTimeout.1.frames).1 }
        | .endOfStream => {}
        | .connectionReset => {}
    | (.raised error, _) =>
        { written := (apply runtime secret (session.onProtocolError error).1.frames).1 }
    | (.returned frame, rest) =>
        let turn := session.onFrame runtime nonce frame
        match turn.result with
        | .error _ => { inbound := [frame], calls := turn.calls }
        | .ok reaction =>
            match apply runtime secret reaction.frames with
            | (written, some _) => ⟨[frame], turn.calls, written⟩
            | (written, none) =>
                if reaction.close then ⟨[frame], turn.calls, written⟩
                else
                  let tail := handle turn.session cut rest
                  ⟨frame :: tail.inbound, turn.calls ++ tail.calls, written ++ tail.written⟩
termination_by stream.length
decreasing_by
  exact (readFrame_implements runtime.toDigests secret).consuming stream frame rest _read

/-! ## One round of the loop -/

theorem apply_encodable {frames : List Frame}
    (encodable : forall frame, frame ∈ frames -> Encodable frame) :
    apply runtime secret frames = (frames, none) := by
  induction frames with
  | nil => rfl
  | cons frame frames ih =>
      rcases exists_encode runtime.toDigests (encodable frame List.mem_cons_self) secret with
        ⟨raw, encoded⟩
      rw [apply, encoded, ih fun other member => encodable other (List.mem_cons_of_mem frame member)]

/-- A frame that the reader returns has passed the decoder. -/
theorem encodable_of_read {stream rest : Bytes} {frame : Frame}
    (read : (readFrame runtime.toDigests secret).run stream = (.returned frame, rest)) :
    Encodable frame := by
  rcases (readFrame_implements runtime.toDigests secret).of_returned read with ⟨size, shown, _⟩
  rcases nextFrame_item runtime.toDigests shown with ⟨header, _, _, _, body⟩
  exact ((decodeFrame_ok_iff runtime.toDigests _ _ _ _ frame).mp body).1

/-- An error that the reader raises has a short text. -/
theorem short_of_read {stream rest : Bytes} {error : ProtocolError}
    (read : (readFrame runtime.toDigests secret).run stream = (.raised error, rest)) :
    ShortText error.message :=
  nextFrame_short runtime.toDigests ((readFrame_implements runtime.toDigests secret).of_raised read)

/-- The ways one round of the loop goes for an open session. -/
inductive Round (session : ServerSession) (cut : Cut) (stream : Bytes) : Conversation -> Prop
  | silent : Round session cut stream {}
  | broken (error : ProtocolError) : Round session cut stream
      { written := [⟨.error, session.outSeq, encodeError error.code error.message, 0⟩] }
  | raised {frame : Frame} {rest : Bytes} {turn : Turn}
      (read : (readFrame runtime.toDigests secret).run stream = (.returned frame, rest))
      (handling : Handling runtime nonce session frame turn) {error : PyError}
      (result : turn.result = .error error) :
      Round session cut stream { inbound := [frame], calls := turn.calls }
  | closed {frame : Frame} {rest : Bytes} {turn : Turn}
      (read : (readFrame runtime.toDigests secret).run stream = (.returned frame, rest))
      (handling : Handling runtime nonce session frame turn) {reaction : Reaction}
      (result : turn.result = .ok reaction) (closes : reaction.close = true) :
      Round session cut stream ⟨[frame], turn.calls, reaction.frames⟩
  | continued {frame : Frame} {rest : Bytes} {turn : Turn}
      (read : (readFrame runtime.toDigests secret).run stream = (.returned frame, rest))
      (handling : Handling runtime nonce session frame turn) {reaction : Reaction}
      (result : turn.result = .ok reaction) (stays : reaction.close = false) :
      Round session cut stream
        ⟨frame :: (handle runtime secret nonce turn.session cut rest).inbound,
          turn.calls ++ (handle runtime secret nonce turn.session cut rest).calls,
          reaction.frames ++ (handle runtime secret nonce turn.session cut rest).written⟩

/-- A round that reads a frame.  Everything the session says can be encoded,
so the reaction is written whole. -/
theorem handle_returned {session : ServerSession} (live : session.Open) (range : session.InRange)
    (cut : Cut) {stream rest : Bytes} {frame : Frame}
    (read : (readFrame runtime.toDigests secret).run stream = (.returned frame, rest)) :
    handle runtime secret nonce session cut stream =
      match (session.onFrame runtime nonce frame).result with
      | .error _ => { inbound := [frame], calls := (session.onFrame runtime nonce frame).calls }
      | .ok reaction =>
          if reaction.close then
            ⟨[frame], (session.onFrame runtime nonce frame).calls, reaction.frames⟩
          else
            let tail := handle runtime secret nonce (session.onFrame runtime nonce frame).session cut rest
            ⟨frame :: tail.inbound, (session.onFrame runtime nonce frame).calls ++ tail.calls,
              reaction.frames ++ tail.written⟩ := by
  have notClosed : ¬ (session.state = .closing ∨ session.state = .closed) := by
    rcases live with same | same <;> rw [same] <;> decide
  have encodable := ((onFrame_handling runtime nonce live frame).encodable range
    (encodable_of_read runtime secret read)).2
  rw [handle.eq_def, if_neg notClosed]
  split
  · rename_i missing
    rw [read] at missing
    cases missing
  · rename_i wrong
    rw [read] at wrong
    cases wrong
  · rename_i found left same
    rw [read] at same
    cases same
    dsimp only
    cases result : (session.onFrame runtime nonce frame).result with
    | error raised => rfl
    | ok reaction =>
        dsimp only
        rw [apply_encodable runtime secret (encodable reaction result)]

theorem handle_round {session : ServerSession} (live : session.Open) (range : session.InRange)
    (cut : Cut) (stream : Bytes) :
    Round runtime secret nonce session cut stream
      (handle runtime secret nonce session cut stream) := by
  have notClosed : ¬ (session.state = .closing ∨ session.state = .closed) := by
    rcases live with same | same <;> rw [same] <;> decide
  rcases read : (readFrame runtime.toDigests secret).run stream with ⟨ended, rest⟩
  cases ended with
  | incomplete =>
      rw [handle.eq_def, if_neg notClosed]
      split
      · cases cut <;> exact .silent
      · rename_i wrong
        rw [read] at wrong
        cases wrong
      · rename_i wrong
        rw [read] at wrong
        cases wrong
  | raised error =>
      have encodable (reply : Frame) (member : reply ∈ (session.onProtocolError error).1.frames) :
          Encodable reply := by
        rw [List.mem_singleton.mp member]
        exact encodable_answer range.outSeq
          (length_encodeError_le error.code (short_of_read runtime secret read))
      rw [handle.eq_def, if_neg notClosed]
      split
      · rename_i wrong
        rw [read] at wrong
        cases wrong
      · rename_i found left same
        rw [read] at same
        cases same
        rw [apply_encodable runtime secret encodable]
        exact .broken error
      · rename_i wrong
        rw [read] at wrong
        cases wrong
  | returned frame =>
      have handling := onFrame_handling runtime nonce live frame
      rw [handle_returned runtime secret nonce live range cut read]
      generalize session.onFrame runtime nonce frame = turn at handling
      cases result : turn.result with
      | error raised => exact .raised read handling result
      | ok reaction =>
          dsimp only
          cases closes : reaction.close with
          | true =>
              rw [if_pos rfl]
              exact .closed read handling result closes
          | false =>
              rw [if_neg Bool.false_ne_true]
              exact .continued read handling result closes

/-! ## The conversation of a ready session -/

/-- What a PING or DATA frame is to be answered with. -/
def echo (frame : Frame) : Option (MsgType × Bytes) :=
  (echoType frame.msgType).map fun kind => (kind, frame.payload)

/-- The PONG and DATA frames among those written. -/
def answers (written : List Frame) : List (MsgType × Bytes) :=
  written.filterMap fun frame =>
    if frame.msgType = .pong ∨ frame.msgType = .data then some (frame.msgType, frame.payload)
    else none

/-- Numbers that count up from `first`. -/
def NumberedFrom (first : Nat) (written : List Frame) : Prop :=
  written.map Frame.seq =
    (List.range' first written.length).map (fun number : Nat => (number : Int))

theorem numberedFrom_cons {first : Nat} {frame : Frame} {written : List Frame}
    (seq : frame.seq = first) (rest : NumberedFrom (first + 1) written) :
    NumberedFrom first (frame :: written) := by
  rw [NumberedFrom, List.map_cons, List.length_cons, List.range'_succ, List.map_cons, seq]
  exact congrArg _ rest

theorem numberedFrom_single {first : Nat} {frame : Frame} (seq : frame.seq = first) :
    NumberedFrom first [frame] := numberedFrom_cons seq rfl

/-- A last word: nothing, BYE or ERROR. -/
def Ending (ending : List Frame) : Prop :=
  ending = [] ∨ ∃ last, ending = [last] ∧ (last.msgType = .bye ∨ last.msgType = .error)

/-- The conversation of a ready session: the echoes of what it accepted, then
at most a last word, all numbered from its counter on. -/
structure Continuation (first : Nat) (conversation : Conversation) : Prop where
  numbered : NumberedFrom first conversation.written
  words : ∃ echoes ending, conversation.written = echoes ++ ending ∧ Ending ending ∧
    (forall frame, frame ∈ echoes -> frame.msgType = .pong ∨ frame.msgType = .data) ∧
    echoes.map (fun frame => (frame.msgType, frame.payload)) =
      (dispatched conversation.calls).filterMap echo

/-- A conversation that ends in this round without an echo. -/
theorem continuation_last {first : Nat} {inbound : List Frame} {calls : List Call}
    {ending : List Frame} (ends : Ending ending) (numbered : NumberedFrom first ending)
    (unanswered : (dispatched calls).filterMap echo = []) :
    Continuation first ⟨inbound, calls, ending⟩ :=
  ⟨numbered, [], ending, rfl, ends, nofun, unanswered.symm⟩

theorem echoType_eq {kind reply : MsgType} (found : echoType kind = some reply) :
    reply = .pong ∨ reply = .data := by
  cases kind <;> simp [echoType] at found <;> simp [← found]

theorem echo_of_refuses {runtime : Runtime} {frame : Frame} {error : ProtocolError}
    (refuses : Refuses runtime .ready frame error) : echo frame = none := by
  cases refuses with
  | beforeHandshake impossible _ | malformedHello impossible _ _ => cases impossible
  | secondHello _ kind | helloAck _ kind | malformedError _ kind _ =>
      rw [echo, kind]
      rfl

theorem handle_ready {session : ServerSession} (ready : session.state = .ready)
    (range : session.InRange) (cut : Cut) (stream : Bytes)
    (few : session.outSeq + (handle runtime secret nonce session cut stream).inbound.length <
      2 ^ 32) :
    Continuation session.outSeq (handle runtime secret nonce session cut stream) := by
  have round := handle_round runtime secret nonce (.inr ready) range cut stream
  generalize same : handle runtime secret nonce session cut stream = conversation at round few ⊢
  cases round with
  | silent => exact continuation_last (.inl rfl) rfl rfl
  | broken error =>
      exact continuation_last (.inr ⟨_, rfl, .inr rfl⟩) (numberedFrom_single rfl) rfl
  | raised read handling result =>
      cases handling with
      | escaped accepted escapes handler ran =>
          apply continuation_last (.inl rfl) rfl
          rw [dispatched_handler ran]
          cases escapes with
          | hello fresh _ _ _ =>
              rw [ready] at fresh
              cases fresh
          | report _ kind _ _ => simp [echo, kind, echoType]
      | stale _ | refused _ _ _ _ | welcomed _ _ _ _ | echoed _ _ _ | ignored _ _ _
      | farewell _ _ _ | reported _ _ _ _ => cases result
  | closed read handling result closes =>
      cases handling with
      | stale late =>
          cases result
          exact continuation_last (.inr ⟨_, rfl, .inr rfl⟩) (numberedFrom_single rfl) rfl
      | refused accepted refuses handler ran =>
          cases result
          apply continuation_last (.inr ⟨_, rfl, .inr rfl⟩) (numberedFrom_single rfl)
          rw [ready] at refuses
          rw [ServerSession.refuse, dispatched_handler ran]
          simp [echo_of_refuses refuses]
      | escaped _ _ _ _ => cases result
      | welcomed _ _ _ _ | echoed _ _ _ | ignored _ _ _ =>
          cases result
          cases closes
      | farewell accepted _ bye =>
          cases result
          apply continuation_last (.inr ⟨_, rfl, .inl rfl⟩) (numberedFrom_single rfl)
          simp [dispatched, echo, bye, echoType]
      | reported accepted _ report decoded =>
          cases result
          apply continuation_last (.inl rfl) rfl
          simp [dispatched, echo, report, echoType]
  | continued read handling result stays =>
      rename_i frame rest turn reaction
      have shorter := (readFrame_implements runtime.toDigests secret).consuming stream frame rest read
      have turnRange := (handling.encodable range (encodable_of_read runtime secret read)).1
      have turnReady := (handling.ready_of_open result stays).1
      rcases handling.continues ready result stays with ⟨ran, spoken | silent⟩
      · rcases spoken with ⟨reply, asks, words, counter⟩
        have counts : turn.session.outSeq = session.outSeq + 1 := by
          rw [counter]
          exact masked_succ (show session.outSeq < 2 ^ 32 - 1 by
            rw [List.length_cons] at few
            omega)
        have tail := handle_ready turnReady turnRange cut rest (by
          rw [List.length_cons] at few
          omega)
        rw [counts] at tail
        rcases tail.words with ⟨echoes, ending, later, ends, kinds, answered⟩
        rw [words]
        refine ⟨numberedFrom_cons rfl tail.numbered,
          ⟨reply, session.outSeq, frame.payload, 0⟩ :: echoes, ending, ?_, ends, ?_, ?_⟩
        · exact congrArg _ later
        · intro answer member
          rcases List.mem_cons.mp member with rfl | old
          · exact echoType_eq asks
          · exact kinds answer old
        · rw [dispatched_append, ran, List.filterMap_append, List.map_cons, answered]
          simp [echo, asks]
      · rcases silent with ⟨asks, words, counter⟩
        have tail := handle_ready turnReady turnRange cut rest (by
          rw [List.length_cons] at few
          omega)
        rw [counter] at tail
        rcases tail.words with ⟨echoes, ending, later, ends, kinds, answered⟩
        rw [words, List.nil_append]
        refine ⟨tail.numbered, echoes, ending, later, ends, kinds, ?_⟩
        rw [dispatched_append, ran, List.filterMap_append, answered]
        simp [echo, asks]
termination_by stream.length

/-! ## A whole connection -/

/-- empty | ERROR | HELLO_ACK (PONG | DATA)* (BYE | ERROR)? -/
def grammar : RegularExpression MsgType :=
  let one (kind : MsgType) : RegularExpression MsgType := .char kind
  1 + one .error + one .helloAck * (one .pong + one .data).star * (1 + (one .bye + one .error))

theorem mem_grammar_iff (word : List MsgType) :
    word ∈ grammar.matches' <-> word = [] ∨ word = [.error] ∨ ∃ echoes ending,
      word = .helloAck :: (echoes ++ ending) ∧
      (forall kind, kind ∈ echoes -> kind = .pong ∨ kind = .data) ∧
      (ending = [] ∨ ending = [.bye] ∨ ending = [.error]) := by
  simp only [grammar, RegularExpression.matches'_add, RegularExpression.matches'_mul,
    RegularExpression.matches'_char, RegularExpression.matches'_epsilon,
    RegularExpression.matches'_star, Language.mem_add, Language.mem_mul, Language.mem_one]
  constructor
  · rintro ((empty | error) | ⟨front, ⟨first, opens, middle, echoes, rfl⟩, ending, ends, rfl⟩)
    · exact .inl empty
    · exact .inr (.inl error)
    · refine .inr (.inr ⟨middle, ending, ?_, ?_, ends⟩)
      · rw [show first = [MsgType.helloAck] from opens, List.append_assoc]
        rfl
      · rcases Language.mem_kstar.mp echoes with ⟨pieces, rfl, single⟩
        intro kind member
        rcases List.mem_flatten.mp member with ⟨piece, found, inside⟩
        rcases single piece found with pong | data
        · rw [show piece = [MsgType.pong] from pong] at inside
          exact .inl (List.mem_singleton.mp inside)
        · rw [show piece = [MsgType.data] from data] at inside
          exact .inr (List.mem_singleton.mp inside)
  · rintro (empty | error | ⟨echoes, ending, rfl, kinds, ends⟩)
    · exact .inl (.inl empty)
    · exact .inl (.inr error)
    · refine .inr ⟨.helloAck :: echoes, ⟨[.helloAck], rfl, echoes, ?_, rfl⟩, ending, ends, rfl⟩
      refine Language.mem_kstar.mpr ⟨echoes.map fun kind => [kind], ?_, ?_⟩
      · rw [← List.flatMap_def, List.flatMap_singleton']
      · intro piece member
        rcases List.mem_map.mp member with ⟨kind, inside, rfl⟩
        rcases kinds kind inside with rfl | rfl
        · exact .inl rfl
        · exact .inr rfl

theorem ending_kinds {ending : List Frame} (ends : Ending ending) :
    ending.map Frame.msgType = [] ∨ ending.map Frame.msgType = [.bye] ∨
      ending.map Frame.msgType = [.error] := by
  rcases ends with rfl | ⟨last, rfl, bye | error⟩
  · exact .inl rfl
  · exact .inr (.inl (by rw [List.map_singleton, bye]))
  · exact .inr (.inr (by rw [List.map_singleton, error]))

/-- In a word of the grammar BYE and ERROR stand last. -/
theorem nothing_after_ending {written : List Frame}
    (word : written.map Frame.msgType ∈ grammar.matches') {before after : List Frame} {last : Frame}
    (split : written = before ++ last :: after)
    (ends : last.msgType = .bye ∨ last.msgType = .error) : after = [] := by
  have kinds : before.map Frame.msgType ++ last.msgType :: after.map Frame.msgType =
      written.map Frame.msgType := by
    rw [split, List.map_append, List.map_cons]
  rcases (mem_grammar_iff _).mp word with empty | error | ⟨echoes, ending, same, echoKinds, endings⟩
  · rw [empty] at kinds
    cases List.append_ne_nil_of_right_ne_nil _ (List.cons_ne_nil _ _) kinds
  · have count := congrArg List.length (kinds.trans error)
    simp only [List.length_append, List.length_map, List.length_cons, List.length_nil] at count
    exact List.eq_nil_of_length_eq_zero (by omega)
  · have short : ending.length ≤ 1 := by
      rcases endings with rfl | rfl | rfl <;> decide
    rcases List.append_eq_append_iff.mp (kinds.trans same : _ = (.helloAck :: echoes) ++ ending) with
      ⟨middle, front, back⟩ | ⟨middle, front, back⟩
    · cases middle with
      | nil =>
          have count := congrArg List.length back
          simp only [List.nil_append, List.length_map, List.length_cons] at count
          exact List.eq_nil_of_length_eq_zero (by omega)
      | cons kind middle =>
          -- the word would have BYE or ERROR among its echoes
          have inside : last.msgType ∈ MsgType.helloAck :: echoes := by
            rw [front, ← (List.cons.inj back).1]
            simp
          rcases List.mem_cons.mp inside with greeting | answered
          · rw [greeting] at ends
            rcases ends with impossible | impossible <;> cases impossible
          · rcases echoKinds _ answered with pong | data
            · rw [pong] at ends
              rcases ends with impossible | impossible <;> cases impossible
            · rw [data] at ends
              rcases ends with impossible | impossible <;> cases impossible
    · have count := congrArg List.length back
      simp only [List.length_append, List.length_map, List.length_cons] at count
      exact List.eq_nil_of_length_eq_zero (by omega)

theorem answers_append (first second : List Frame) :
    answers (first ++ second) = answers first ++ answers second := List.filterMap_append

theorem answers_echoes {echoes : List Frame}
    (kinds : forall frame, frame ∈ echoes -> frame.msgType = .pong ∨ frame.msgType = .data) :
    answers echoes = echoes.map fun frame => (frame.msgType, frame.payload) := by
  rw [answers, ← List.filterMap_eq_map]
  apply List.filterMap_congr
  intro frame member
  rw [if_pos (kinds frame member)]
  rfl

theorem answers_ending {ending : List Frame} (ends : Ending ending) : answers ending = [] := by
  rcases ends with rfl | ⟨last, rfl, bye | error⟩
  · rfl
  · simp [answers, bye]
  · simp [answers, error]

/-- The loop reads the frames of the stream in their order. -/
theorem handle_inbound_front (session : ServerSession) (cut : Cut) (stream : Bytes) :
    (handle runtime secret nonce session cut stream).inbound <+:
      ((readFrame runtime.toDigests secret).readAll
        (readFrame_implements runtime.toDigests secret).consuming stream).values := by
  rw [handle.eq_def]
  split
  · exact List.nil_prefix
  · split
    · cases cut <;> exact List.nil_prefix
    · exact List.nil_prefix
    · rename_i frame rest read
      have shorter := (readFrame_implements runtime.toDigests secret).consuming stream frame rest read
      rw [Pull.readAll_returned _ read]
      have single (more : List Frame) : [frame] <+: frame :: more :=
        List.prefix_cons_inj frame |>.mpr List.nil_prefix
      dsimp only
      split
      · exact single _
      · split
        · exact single _
        · split
          · exact single _
          · exact (List.prefix_cons_inj frame).mpr (handle_inbound_front _ cut rest)
termination_by stream.length

/-- The loop gives the session every frame that it reads, until one has a
number that came before; that frame is the last one it reads. -/
theorem handle_dispatched {session : ServerSession} (live : session.Open) (range : session.InRange)
    (cut : Cut) (stream : Bytes) :
    let conversation := handle runtime secret nonce session cut stream
    dispatched conversation.calls <+: conversation.inbound ∧
      conversation.inbound.length ≤ (dispatched conversation.calls).length + 1 := by
  dsimp only
  have round := handle_round runtime secret nonce live range cut stream
  generalize handle runtime secret nonce session cut stream = conversation at round
  cases round with
  | silent | broken _ => exact ⟨List.nil_prefix, Nat.zero_le _⟩
  | raised read handling result => exact handling.dispatched_prefix
  | closed read handling result closes => exact handling.dispatched_prefix
  | continued read handling result stays =>
      rename_i frame rest turn reaction
      have shorter := (readFrame_implements runtime.toDigests secret).consuming stream frame rest read
      have turnRange := (handling.encodable range (encodable_of_read runtime secret read)).1
      have turnReady := (handling.ready_of_open result stays).1
      have tail := handle_dispatched (.inr turnReady) turnRange cut rest
      rw [dispatched_append, handling.dispatches_open result stays, List.singleton_append]
      exact ⟨(List.prefix_cons_inj frame).mpr tail.1, Nat.succ_le_succ tail.2⟩
termination_by stream.length

/-- Every frame takes octets. -/
theorem length_inbound_le (session : ServerSession) (cut : Cut) (stream : Bytes) :
    (handle runtime secret nonce session cut stream).inbound.length ≤ stream.length := by
  rw [handle.eq_def]
  split
  · exact Nat.zero_le _
  · split
    · cases cut <;> exact Nat.zero_le _
    · exact Nat.zero_le _
    · rename_i frame rest read
      have shorter := (readFrame_implements runtime.toDigests secret).consuming stream frame rest read
      have single : [frame].length ≤ stream.length := Nat.lt_of_le_of_lt (Nat.zero_le _) shorter
      dsimp only
      split
      · exact single
      · split
        · exact single
        · split
          · exact single
          · exact Nat.lt_of_le_of_lt (length_inbound_le _ cut rest) shorter
termination_by stream.length

/-- What a new session says before it is ready, or the opening of a ready
one. -/
theorem handle_new (sessionId : SessionId) (cut : Cut) (stream : Bytes)
    {conversation : Conversation}
    (handled : handle runtime secret nonce { sessionId := sessionId } cut stream = conversation) :
    ((conversation.written = [] ∨ ∃ error, conversation.written = [error] ∧
          error.msgType = .error ∧ error.seq = 0) ∧
        (dispatched conversation.calls).tail = []) ∨
      ∃ hello rest fields greeting ready,
        (readFrame runtime.toDigests secret).run stream = (.returned hello, rest) ∧
        hello.msgType = .hello ∧ decodeHello runtime hello.payload = .ok fields ∧
        greeting.msgType = .helloAck ∧ greeting.seq = 0 ∧
        ready.state = .ready ∧ ready.InRange ∧ ready.outSeq = 1 ∧
        conversation.inbound = hello :: (handle runtime secret nonce ready cut rest).inbound ∧
        dispatched conversation.calls =
          hello :: dispatched (handle runtime secret nonce ready cut rest).calls ∧
        conversation.written = greeting :: (handle runtime secret nonce ready cut rest).written := by
  have range := ServerSession.inRange_init sessionId
  have round := handle_round runtime secret nonce (.inl rfl) range cut stream
  rw [handled] at round
  cases round with
  | silent => exact .inl ⟨.inl rfl, rfl⟩
  | broken error => exact .inl ⟨.inr ⟨_, rfl, rfl, rfl⟩, rfl⟩
  | raised read handling result =>
      cases handling with
      | escaped accepted escapes handler ran =>
          refine .inl ⟨.inl rfl, ?_⟩
          rw [dispatched_handler ran]
          rfl
      | stale _ | refused _ _ _ _ | welcomed _ _ _ _ | echoed _ _ _ | ignored _ _ _
      | farewell _ _ _ | reported _ _ _ _ => cases result
  | closed read handling result closes =>
      cases handling with
      | stale late =>
          cases result
          exact .inl ⟨.inr ⟨_, rfl, rfl, rfl⟩, rfl⟩
      | refused accepted refuses handler ran =>
          cases result
          refine .inl ⟨.inr ⟨_, rfl, rfl, rfl⟩, ?_⟩
          rw [ServerSession.refuse, dispatched_handler ran]
          rfl
      | escaped _ _ _ _ => cases result
      | welcomed _ _ _ _ =>
          cases result
          cases closes
      | echoed _ ready _ | ignored _ ready _ | farewell _ ready _ | reported _ ready _ _ => cases ready
  | continued read handling result stays =>
      have turnRange := (handling.encodable range (encodable_of_read runtime secret read)).1
      cases handling with
      | welcomed accepted fresh hello wellFormed =>
          cases result
          exact .inr ⟨_, _, _, _, _, read, hello, wellFormed, rfl, rfl, rfl, turnRange,
            masked_succ (show 0 < maxSeq by decide), rfl, rfl, rfl⟩
      | escaped _ _ _ _ => cases result
      | stale _ | refused _ _ _ _ =>
          cases result
          cases stays
      | echoed _ ready _ | ignored _ ready _ | farewell _ ready _ | reported _ ready _ _ => cases ready

/-- What the handler writes on a connection, whatever it reads.  The frames
are a word of the grammar and are numbered from 0; a HELLO_ACK answers a
well-formed HELLO that came first; the echoes are those of the PING and DATA
frames accepted after it, in order; and nothing follows a BYE or an ERROR.
The accepted frames are the frames of the stream, in its order: what was read
is a prefix of them, and only the last frame read can have been refused for
its number. -/
theorem handle_conversation (sessionId : SessionId) (cut : Cut) (stream : Bytes)
    (few : (handle runtime secret nonce { sessionId := sessionId } cut stream).inbound.length <
      2 ^ 32) :
    let conversation := handle runtime secret nonce { sessionId := sessionId } cut stream
    conversation.written.map Frame.msgType ∈ grammar.matches' ∧
      NumberedFrom 0 conversation.written ∧
      (forall frame, frame ∈ conversation.written -> frame.msgType = .helloAck ->
        ∃ hello rest fields, conversation.inbound = hello :: rest ∧ hello.msgType = .hello ∧
          decodeHello runtime hello.payload = .ok fields) ∧
      answers conversation.written = (dispatched conversation.calls).tail.filterMap echo ∧
      (forall before last after, conversation.written = before ++ last :: after ->
        last.msgType = .bye ∨ last.msgType = .error -> after = []) ∧
      (dispatched conversation.calls <+: conversation.inbound ∧
        conversation.inbound.length ≤ (dispatched conversation.calls).length + 1) ∧
      conversation.inbound <+: ((readFrame runtime.toDigests secret).readAll
        (readFrame_implements runtime.toDigests secret).consuming stream).values := by
  have inbound := handle_inbound_front runtime secret nonce { sessionId := sessionId } cut stream
  have accepted := handle_dispatched runtime secret nonce (.inl rfl)
    (ServerSession.inRange_init sessionId) cut stream
  have opening := handle_new runtime secret nonce sessionId cut stream rfl
  generalize handle runtime secret nonce { sessionId := sessionId } cut stream = conversation
    at few inbound accepted opening
  dsimp only
  rcases opening with ⟨empty | ⟨error, single, kind, seq⟩, quiet⟩ |
    ⟨hello, rest, fields, greeting, ready, read, isHello, wellFormed, isAck, first, isReady, range,
      counter, heard, ran, written⟩
  · have word : conversation.written.map Frame.msgType ∈ grammar.matches' := by
      rw [empty]
      exact (mem_grammar_iff _).mpr (.inl rfl)
    refine ⟨word, by rw [empty]; rfl, ?_, ?_, fun _ _ _ => nothing_after_ending word, accepted, inbound⟩
    · intro frame member
      rw [empty] at member
      cases member
    · rw [empty, quiet]
      rfl
  · have word : conversation.written.map Frame.msgType ∈ grammar.matches' := by
      rw [single, List.map_singleton, kind]
      exact (mem_grammar_iff _).mpr (.inr (.inl rfl))
    refine ⟨word, by rw [single]; exact numberedFrom_single seq, ?_, ?_,
      fun _ _ _ => nothing_after_ending word, accepted, inbound⟩
    · intro frame member isAck
      rw [single] at member
      rw [List.mem_singleton.mp member, kind] at isAck
      cases isAck
    · rw [single, quiet, answers_ending (.inr ⟨error, rfl, .inr kind⟩)]
      rfl
  · have few : ready.outSeq + (handle runtime secret nonce ready cut rest).inbound.length < 2 ^ 32 := by
      rw [heard, List.length_cons] at few
      omega
    have tail := handle_ready runtime secret nonce isReady range cut rest few
    rw [counter] at tail
    rcases tail.words with ⟨echoes, ending, words, ends, kinds, answered⟩
    have word : conversation.written.map Frame.msgType ∈ grammar.matches' := by
      rw [written, words, List.map_cons, isAck, List.map_append]
      refine (mem_grammar_iff _).mpr (.inr (.inr ⟨_, _, rfl, ?_, ending_kinds ends⟩))
      intro kind member
      rcases List.mem_map.mp member with ⟨frame, inside, rfl⟩
      exact kinds frame inside
    refine ⟨word, ?_, ?_, ?_, fun _ _ _ => nothing_after_ending word, accepted, inbound⟩
    · rw [written]
      exact numberedFrom_cons first tail.numbered
    · intro frame member isAck
      exact ⟨hello, _, fields, heard, isHello, wellFormed⟩
    · have greeted : answers [greeting] = [] := by simp [answers, isAck]
      rw [written, words, ran, List.tail_cons, ← List.singleton_append, answers_append,
        answers_append, greeted, answers_echoes kinds, answers_ending ends, answered]
      simp

/-- A round on a frame that was encoded. -/
theorem handle_encoded {session next : ServerSession} (live : session.Open)
    (range : session.InRange) (cut : Cut) {frame : Frame} {raw : Bytes}
    (encoded : encode runtime.toDigests frame secret = .ok raw) {reaction : Reaction}
    {calls : List Call} (turns : session.onFrame runtime nonce frame = ⟨next, .ok reaction, calls⟩)
    (stays : reaction.close = false) (rest : Bytes) :
    handle runtime secret nonce session cut (raw ++ rest) =
      ⟨frame :: (handle runtime secret nonce next cut rest).inbound,
        calls ++ (handle runtime secret nonce next cut rest).calls,
        reaction.frames ++ (handle runtime secret nonce next cut rest).written⟩ := by
  rw [handle_returned runtime secret nonce live range cut
    (run_readFrame_encoded runtime.toDigests encoded rest), turns]
  dsimp only
  rw [stays, if_neg Bool.false_ne_true]

/-- A greeting, a question, a parcel and a farewell, and what is said to
them. -/
theorem handle_talk (sessionId : SessionId) (cut : Cut) :
    ∃ stream, join runtime.toDigests secret [Reference.greeting, Reference.question,
        Reference.parcel, Reference.farewell] = .ok stream ∧
      handle runtime secret nonce { sessionId := sessionId } cut stream =
        ⟨[Reference.greeting, Reference.question, Reference.parcel, Reference.farewell],
          [.dispatch Reference.greeting, .onHello Reference.greeting, .dispatch Reference.question,
            .dispatch Reference.parcel, .onData Reference.parcel, .dispatch Reference.farewell],
          [⟨.helloAck, 0, encodeHelloAck sessionId.text nonce.text, 0⟩,
            ⟨.pong, 1, Reference.question.payload, 0⟩, ⟨.data, 2, Reference.parcel.payload, 0⟩,
            ⟨.bye, 3, [], 0⟩]⟩ := by
  have encodable : forall frame, frame ∈ [Reference.greeting, Reference.question,
      Reference.parcel, Reference.farewell] -> Encodable frame := by decide
  rcases exists_join runtime.toDigests secret encodable with ⟨stream, joined⟩
  refine ⟨stream, joined, ?_⟩
  rcases join_cons runtime.toDigests joined with ⟨greeting, _, greets, afterGreeting, rfl⟩
  rcases join_cons runtime.toDigests afterGreeting with ⟨question, _, asks, afterQuestion, rfl⟩
  rcases join_cons runtime.toDigests afterQuestion with ⟨parcel, _, sends, afterParcel, rfl⟩
  rcases join_cons runtime.toDigests afterParcel with ⟨farewell, rest, leaves, _, rfl⟩
  let ready (outSeq : Nat) (lastPeerSeq : Int) : ServerSession :=
    ⟨sessionId, .ready, "client", Reference.nonce.text, outSeq, lastPeerSeq⟩
  have range {outSeq : Nat} {lastPeerSeq : Int}
      (small : outSeq ≤ maxSeq ∧ -1 ≤ lastPeerSeq ∧ lastPeerSeq ≤ maxSeq) :
      (ready outSeq lastPeerSeq).InRange := ⟨small.1, small.2⟩
  have welcomed : (⟨sessionId, .new, none, none, 0, -1⟩ : ServerSession).onFrame runtime nonce
      Reference.greeting = ⟨ready 1 0,
        .ok { frames := [⟨.helloAck, 0, encodeHelloAck sessionId.text nonce.text, 0⟩] },
        [.dispatch Reference.greeting, .onHello Reference.greeting]⟩ := by
    have counts : (⟨sessionId, .new, none, none, 0, -1⟩ : ServerSession).outSeq + 1 &&& maxSeq = 1 :=
      masked_succ (show 0 < maxSeq by decide)
    have turn := onFrame_welcomed runtime nonce
      (show (⟨sessionId, .new, none, none, 0, -1⟩ : ServerSession).state = .new from rfl)
      (show (-1 : Int) < Reference.greeting.seq by decide) rfl
      (decodeHello_encodeHello runtime "client" Reference.nonce.text)
    rw [counts] at turn
    exact turn
  have asked {outSeq : Nat} {lastPeerSeq : Int} {frame : Frame} {reply : MsgType}
      (low : outSeq < maxSeq) (later : lastPeerSeq < frame.seq)
      (asks : echoType frame.msgType = some reply) :
      (ready outSeq lastPeerSeq).onFrame runtime nonce frame = ⟨ready (outSeq + 1) frame.seq,
        .ok { frames := [⟨reply, outSeq, frame.payload, 0⟩] }, echoCalls frame⟩ := by
    have counts : (ready outSeq lastPeerSeq).outSeq + 1 &&& maxSeq = outSeq + 1 := masked_succ low
    have turn := onFrame_echoed runtime nonce
      (show (ready outSeq lastPeerSeq).state = .ready from rfl) later asks
    rw [counts] at turn
    exact turn
  have ponged : (ready 1 0).onFrame runtime nonce Reference.question = ⟨ready 2 1,
      .ok { frames := [⟨.pong, 1, Reference.question.payload, 0⟩] }, [.dispatch Reference.question]⟩ :=
    asked (show 1 < maxSeq by decide) (show 0 < Reference.question.seq by decide) rfl
  have echoed : (ready 2 1).onFrame runtime nonce Reference.parcel = ⟨ready 3 2,
      .ok { frames := [⟨.data, 2, Reference.parcel.payload, 0⟩] },
      [.dispatch Reference.parcel, .onData Reference.parcel]⟩ :=
    asked (show 2 < maxSeq by decide) (show 1 < Reference.parcel.seq by decide) rfl
  have left := onFrame_farewell runtime nonce (show (ready 3 2).state = .ready from rfl)
    (show 2 < Reference.farewell.seq by decide) rfl
  have fourth : handle runtime secret nonce (ready 3 2) cut (farewell ++ rest) =
      ⟨[Reference.farewell], [.dispatch Reference.farewell], [⟨.bye, 3, [], 0⟩]⟩ := by
    rw [handle_returned runtime secret nonce (.inr rfl) (range (by decide)) cut
      (run_readFrame_encoded runtime.toDigests leaves rest), left]
    rfl
  have third := handle_encoded runtime secret nonce (.inr rfl) (range (by decide)) cut sends echoed
    rfl (farewell ++ rest)
  have second := handle_encoded runtime secret nonce (.inr rfl) (range (by decide)) cut asks ponged
    rfl (parcel ++ (farewell ++ rest))
  rw [handle_encoded runtime secret nonce (.inl rfl) (ServerSession.inRange_init sessionId) cut greets
    welcomed rfl, second, third, fourth]
  rfl

/-- The conversation of a client that greets, asks, sends and leaves. -/
theorem handle_conversation_talk : ∃ stream, forall cut,
    let conversation := handle Reference.runtime Reference.secret Reference.nonce
      { sessionId := Reference.sessionId } cut stream
    conversation.inbound =
        [Reference.greeting, Reference.question, Reference.parcel, Reference.farewell] ∧
      conversation.written.map Frame.msgType = [.helloAck, .pong, .data, .bye] ∧
      conversation.written.map Frame.msgType ∈ grammar.matches' ∧
      NumberedFrom 0 conversation.written ∧
      (∃ hello rest fields, conversation.inbound = hello :: rest ∧ hello.msgType = .hello ∧
        decodeHello Reference.runtime hello.payload = .ok fields) ∧
      answers conversation.written =
        [(.pong, Reference.question.payload), (.data, Reference.parcel.payload)] ∧
      dispatched conversation.calls <+: conversation.inbound ∧
      conversation.inbound <+: ((readFrame Reference.runtime.toDigests Reference.secret).readAll
        (readFrame_implements Reference.runtime.toDigests Reference.secret).consuming stream).values := by
  rcases handle_talk Reference.runtime Reference.secret Reference.nonce Reference.sessionId .timeout with
    ⟨stream, joined, _⟩
  refine ⟨stream, fun cut => ?_⟩
  rcases handle_talk Reference.runtime Reference.secret Reference.nonce Reference.sessionId cut with
    ⟨other, sameJoin, handled⟩
  cases joined.symm.trans sameJoin
  have conversation := handle_conversation Reference.runtime Reference.secret Reference.nonce
    Reference.sessionId cut stream
  rw [handled] at conversation ⊢
  rcases conversation (show 4 < 2 ^ 32 by decide) with
    ⟨word, numbered, greeted, answered, _, accepted, front⟩
  exact ⟨rfl, rfl, word, numbered, greeted _ List.mem_cons_self rfl, answered, accepted.1, front⟩

end WirelineServer
end Wireline
