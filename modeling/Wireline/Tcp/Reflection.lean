import Mathlib
import Wireline.Tcp.Exposed

namespace Wireline

open ExactReader Sequences

/-!
# Frames that are sent back to the client

The client knows its counterpart by the shared secret alone, and it holds that
secret itself.  Its own frames verify, and since both ends count from 0 their
numbers are as good as the server's.  The client returns the frames of the
server exactly as long as the adversary does not send it a frame of its own
with a number it has not seen yet.
-/

namespace Exposed

variable {runtime : Runtime} {secret : Bytes} {nonce : Nonce}

/-- What holds of a connection as long as the client is not shown its own
frames. -/
structure Heard (link : Exposed) : Prop where
  inv : Inv link
  increasing : IncreasingBy Frame.seq link.returned
  known : forall frame, frame ∈ link.returned ->
    frame.seq ≤ link.client.lastPeerSeq ∧ frame ∈ link.written

variable (runtime) (secret) in
/-- Where the client reads a new frame of its own, the server has signed it
too. -/
def Unreflected (link : Exposed) (event : ExposedEvent) : Prop :=
  event = .receive -> link.waiting = true -> forall frame size,
    nextFrame runtime.toDigests (some secret) link.toClient = .item frame size ->
      link.client.lastPeerSeq < frame.seq -> frame ∈ link.sent -> frame ∈ link.written

variable (runtime) (secret) (nonce) in
/-- After the step, what the client has returned are frames of the server, in
their order and none of them twice. -/
def Genuine (link : Exposed) (event : ExposedEvent) : Prop :=
  forall next, link.step runtime secret nonce event = some next ->
    next.returned.Sublist next.written ∧ next.returned.Nodup

variable (secret) in
theorem heard_opened (sessionId : SessionId) (clientId : String) :
    Heard (opened secret sessionId clientId) where
  inv := inv_opened secret sessionId clientId
  increasing := increasingBy_nil
  known := by
    intro frame member
    cases member

theorem Heard.sublist {link : Exposed} (heard : Heard link) :
    link.returned.Sublist link.written := by
  apply heard.increasing.sublist heard.inv.written.increasing
  intro frame member
  exact (heard.known frame member).2

/-- A round of the server leaves the client alone. -/
theorem serve_client {link next : Exposed} (served : link.serve runtime secret nonce = some next) :
    next.returned = link.returned ∧ next.client.lastPeerSeq = link.client.lastPeerSeq ∧
      link.written ⊆ next.written := by
  rw [Exposed.serve] at served
  split at served
  · cases served
  · rcases read : (readFrame runtime.toDigests secret).run link.toServer with ⟨ended, rest⟩
    rw [read] at served
    cases ended with
    | incomplete => cases served
    | raised error =>
        cases served
        exact ⟨rfl, rfl, List.subset_append_left _ _⟩
    | returned frame =>
        dsimp only at served
        cases result : (link.session.onFrame runtime nonce frame).result with
        | error raised =>
            rw [result] at served
            cases served
            exact ⟨rfl, rfl, List.Subset.refl _⟩
        | ok reaction =>
            rw [result] at served
            cases served
            exact ⟨rfl, rfl, List.subset_append_left _ _⟩

/-- Steps other than a read return nothing to the client. -/
theorem returned_of_step {link next : Exposed} {event : ExposedEvent} (other : event ≠ .receive)
    (stepped : link.step runtime secret nonce event = some next) :
    next.returned = link.returned ∧ next.client.lastPeerSeq = link.client.lastPeerSeq ∧
      link.written ⊆ next.written := by
  have calls (calling : (∃ draw, event = .hello draw) ∨
      (∃ msgType payload flags, event = .request msgType payload flags) ∨ event = .close) :
      next.returned = link.returned ∧ next.client.lastPeerSeq = link.client.lastPeerSeq ∧
        link.written ⊆ next.written := by
    rcases step_call calling stepped with ⟨_, client, waiting, frames, _, last, rfl⟩
    exact ⟨rfl, last, List.Subset.refl _⟩
  cases event with
  | hello draw => exact calls (.inl ⟨draw, rfl⟩)
  | request msgType payload flags => exact calls (.inr (.inl ⟨msgType, payload, flags, rfl⟩))
  | close => exact calls (.inr (.inr rfl))
  | deliverToServer chunk | deliverToClient chunk =>
      cases stepped
      exact ⟨rfl, rfl, List.Subset.refl _⟩
  | serve => exact serve_client stepped
  | hangUp cut =>
      rw [Exposed.step] at stepped
      unfold Exposed.hangUp at stepped
      split at stepped
      · cases stepped
      · cases stepped
        exact ⟨rfl, rfl, List.Subset.refl _⟩
  | receive => exact absurd rfl other
  | giveUp seen =>
      rw [Exposed.step, Exposed.giveUp] at stepped
      split at stepped
      · cases stepped
      · cases stepped
        exact ⟨rfl, rfl, List.Subset.refl _⟩

/-- A new frame that the client reads is the server's. -/
theorem Heard.read {link next : Exposed} (heard : Heard link)
    (signed : Signed runtime secret link .receive)
    (unreflected : Unreflected runtime secret link .receive)
    (stepped : link.receive runtime secret = some next) {rest : Bytes} {frame : Frame}
    (shown : (readFrame runtime.toDigests secret).run link.toClient = (.returned frame, rest))
    (ahead : link.client.lastPeerSeq < frame.seq) : frame ∈ link.written := by
  have waiting : link.waiting = true := by
    rw [Exposed.receive] at stepped
    split at stepped
    · cases stepped
    · rename_i waiting
      exact Bool.eq_true_of_not_eq_false waiting
  rcases (readFrame_implements runtime.toDigests secret).of_returned shown with ⟨size, item, _⟩
  rcases heard.inv.signed (signed.2 rfl) shown with sent | written
  · exact unreflected rfl waiting frame size item ahead sent
  · exact written

theorem Heard.step {link next : Exposed} (heard : Heard link) {event : ExposedEvent}
    (signed : Signed runtime secret link event) (unreflected : Unreflected runtime secret link event)
    (stepped : link.step runtime secret nonce event = some next) : Heard next := by
  have inv := (heard.inv.step signed stepped).1
  by_cases read : event = .receive
  · subst read
    rcases receive_cases stepped with ⟨client, toClient, _, ⟨last, rfl⟩ | ⟨frame, shown, ahead, last, rfl⟩⟩
    · refine ⟨inv, heard.increasing, ?_⟩
      intro frame member
      dsimp only
      rw [last]
      exact heard.known frame member
    · have written := heard.read signed unreflected stepped shown ahead
      refine ⟨inv, heard.increasing.append ?_, ?_⟩
      · intro earlier member
        have passed := (heard.known earlier member).1
        omega
      · intro other member
        dsimp only at member ⊢
        rw [last]
        rcases List.mem_append.mp member with before | now
        · have passed := (heard.known other before).1
          exact ⟨by omega, (heard.known other before).2⟩
        · rw [List.mem_singleton.mp now]
          exact ⟨le_refl _, written⟩
  · rcases returned_of_step read stepped with ⟨returned, last, grown⟩
    refine ⟨inv, ?_, ?_⟩
    · rw [returned]
      exact heard.increasing
    · intro frame member
      rw [returned] at member
      rw [last]
      exact ⟨(heard.known frame member).1, grown (heard.known frame member).2⟩

/-- While only frames of the server have been returned, the next step returns
another one exactly if it does not return a frame of the client's. -/
theorem Heard.genuine_iff {link : Exposed} (heard : Heard link) {event : ExposedEvent}
    (signed : Signed runtime secret link event) :
    Genuine runtime secret nonce link event <-> Unreflected runtime secret link event := by
  constructor
  · rintro genuine rfl waiting frame size item ahead _
    have shown := (readFrame_implements runtime.toDigests secret).item item
    rcases receive_ahead waiting shown ahead with ⟨client, stepped⟩
    exact (genuine _ stepped).1.subset (List.mem_append_right _ (List.mem_singleton_self frame))
  · intro unreflected next stepped
    have after := heard.step signed unreflected stepped
    exact ⟨after.sublist, after.increasing.nodup⟩

variable (runtime) (secret) (nonce) in
/-- What the client returns in a run are the frames of the server, in their
order and none of them twice, exactly as long as the client is not shown a
frame of its own. -/
theorem genuine_iff_unreflected (sessionId : SessionId) (clientId : String)
    {events : List ExposedEvent}
    (signed : Execution.Along (step runtime secret nonce) (Signed runtime secret)
      (opened secret sessionId clientId) events) :
    Execution.Along (step runtime secret nonce) (Genuine runtime secret nonce)
        (opened secret sessionId clientId) events <->
      Execution.Along (step runtime secret nonce) (Unreflected runtime secret)
        (opened secret sessionId clientId) events := by
  have start := heard_opened secret sessionId clientId
  apply Execution.along_iff_of_along _ _ _ start signed
  · intro link event heard signed
    exact heard.genuine_iff signed
  · intro link event next heard signed genuine stepped
    exact heard.step signed ((heard.genuine_iff signed).mp genuine) stepped

/-- The handshake on a connection where the adversary passes everything on. -/
theorem answer_heard {sessionId : SessionId} {clientId : String} {draw : Nonce} {raw answer : Bytes}
    (encoded : encode runtime.toDigests (greeting clientId draw) secret = .ok raw)
    (answered : encode runtime.toDigests (welcome sessionId nonce) secret = .ok answer) :
    let events : List ExposedEvent := [.hello draw, .deliverToServer raw, .serve,
      .deliverToClient answer, .receive]
    ∃ link, Execution.run (step runtime secret nonce) (opened secret sessionId clientId) events =
        some link ∧
      link.returned = [welcome sessionId nonce] ∧
      Execution.Along (step runtime secret nonce)
        (fun link event => Signed runtime secret link event ∧ Unreflected runtime secret link event)
        (opened secret sessionId clientId) events := by
  have elsewhere {link : Exposed} {event : ExposedEvent} (serves : event ≠ .serve)
      (reads : event ≠ .receive) :
      Signed runtime secret link event ∧ Unreflected runtime secret link event :=
    ⟨⟨fun same => absurd same serves, fun same => absurd same reads⟩,
      fun same => absurd same reads⟩
  have asked := unforged_of_encode runtime.toDigests encoded
    (List.mem_singleton_self (greeting clientId draw)) []
  have replied := unforged_of_encode runtime.toDigests answered (List.mem_cons_of_mem
    (greeting clientId draw) (List.mem_singleton_self (welcome sessionId nonce))) []
  have shown := run_readFrame_encoded runtime.toDigests answered []
  have item := nextFrame_of_encode runtime.toDigests answered []
  rw [List.append_nil] at asked replied shown item
  rcases serve_greeting encoded answered with ⟨session, served⟩
  dsimp only
  refine Execution.reaches_along_of_step _ (elsewhere (by nofun) (by nofun)) (step_hello encoded) ?_
  refine Execution.reaches_along_of_step _ (elsewhere (by nofun) (by nofun)) rfl ?_
  refine Execution.reaches_along_of_step _ ?_ served ?_
  · exact ⟨⟨fun _ => asked, by nofun⟩, by nofun⟩
  refine Execution.reaches_along_of_step _ (elsewhere (by nofun) (by nofun)) rfl ?_
  have ahead : (-1 : Int) < (welcome sessionId nonce).seq := show (-1 : Int) < 0 by decide
  have waiting : { greeted secret sessionId clientId draw with
      session := session, written := [welcome sessionId nonce],
      accepted := [greeting clientId draw], toClient := [] ++ answer }.waiting = true := rfl
  rcases receive_ahead waiting shown ahead with ⟨client, received⟩
  refine Execution.reaches_along_of_step _ ?_ received ⟨_, rfl, rfl, trivial⟩
  refine ⟨⟨by nofun, fun _ => replied⟩, ?_⟩
  intro _ _ frame size front _ own
  cases item.symm.trans front
  cases List.mem_singleton.mp own

theorem genuine_iff_unreflected_greeting : ∃ raw answer link,
    let events : List ExposedEvent := [.hello Reference.nonce, .deliverToServer raw, .serve,
      .deliverToClient answer, .receive]
    Execution.run (step Reference.runtime Reference.secret Reference.nonce)
        (opened Reference.secret Reference.sessionId "client") events = some link ∧
      link.returned = [welcome Reference.sessionId Reference.nonce] ∧
      Execution.Along (step Reference.runtime Reference.secret Reference.nonce)
        (Genuine Reference.runtime Reference.secret Reference.nonce)
        (opened Reference.secret Reference.sessionId "client") events := by
  rcases exists_encode Reference.runtime.toDigests (greeting_encodable Reference.hello_fits)
    Reference.secret with ⟨raw, encoded⟩
  rcases exists_encode Reference.runtime.toDigests
    (show Encodable (welcome Reference.sessionId Reference.nonce) by decide) Reference.secret with
    ⟨answer, answered⟩
  rcases answer_heard encoded answered with ⟨link, reached, returned, along⟩
  have signed := Execution.along_mono _ (fun both => both.1) along
  have unreflected := Execution.along_mono _ (fun both => both.2) along
  exact ⟨raw, answer, link, reached, returned, (genuine_iff_unreflected Reference.runtime
    Reference.secret Reference.nonce Reference.sessionId "client" signed).mpr unreflected⟩

/-- The adversary sends the client's HELLO back, and `_recv` returns it,
before the server has said anything. -/
theorem reflected_hello :
    ∃ raw link, encode Reference.runtime.toDigests (greeting "client" Reference.nonce)
        Reference.secret = .ok raw ∧
      Execution.Along (step Reference.runtime Reference.secret Reference.nonce)
        (Signed Reference.runtime Reference.secret)
        (opened Reference.secret Reference.sessionId "client")
        [.hello Reference.nonce, .deliverToClient raw, .receive] ∧
      Execution.run (step Reference.runtime Reference.secret Reference.nonce)
        (opened Reference.secret Reference.sessionId "client")
        [.hello Reference.nonce, .deliverToClient raw, .receive] = some link ∧
      link.returned = [greeting "client" Reference.nonce] ∧ link.written = [] := by
  rcases exists_encode Reference.runtime.toDigests (greeting_encodable Reference.hello_fits)
    Reference.secret with ⟨raw, encoded⟩
  have shown : (readFrame Reference.runtime.toDigests Reference.secret).run ([] ++ raw) =
      (.returned (greeting "client" Reference.nonce), []) := by
    have shown := run_readFrame_encoded Reference.runtime.toDigests encoded []
    rwa [List.append_nil] at shown
  have waiting : { greeted Reference.secret Reference.sessionId "client" Reference.nonce with
      toClient := [] ++ raw }.waiting = true := rfl
  rcases receive_ahead waiting shown (show (-1 : Int) < 0 by decide) with ⟨client, received⟩
  have read : step Reference.runtime Reference.secret Reference.nonce _ .receive = some _ := received
  have reached := Execution.run_single _ read
  exact ⟨raw, _, encoded, signed_greeting encoded (.inr ⟨rfl, rfl⟩),
    Execution.run_of_step _ (step_hello encoded) (Execution.run_of_step _ rfl reached), rfl, rfl⟩

end Exposed
end Wireline
