import Wireline.Library.Sequences
import Wireline.Reference
import Wireline.Udp.Client

namespace Wireline

open Sequences

/-!
# The client among foreign datagrams

Whatever arrives in the client's queue that is not an answer to the pending
request is passed over, with one exception: a datagram without any octet
splits into no frames at all, and the loop looks at the first of them.
-/

namespace UdpClient

variable (runtime : Runtime)

/-- How the wait for a reply ends on these datagrams, or `none` if it goes
on. -/
def outcome (secret : Bytes) (seq : Int) (queue : List Bytes) : Option (Except PyError Frame) :=
  (awaitReply runtime secret seq queue).1.map Prod.snd

/-- A datagram that is no answer to `seq`.  If it splits into frames that
start with an ACK, the ACK is one of another number. -/
def Noise (secret : Bytes) (seq : Int) (data : Bytes) : Prop :=
  forall first rest, splitDatagram runtime.toDigests data secret = .ok (first :: rest) ->
    first.msgType = .ack -> ∃ ackSeq : Int, (0 ≤ ackSeq ∧ ackSeq ≤ maxSeq) ∧ ackSeq ≠ seq ∧
      first.payload = encodeAck ackSeq

end UdpClient

namespace UdpClient

variable {runtime : Runtime}

/-- What one datagram decides. -/
def decides (runtime : Runtime) (secret : Bytes) (seq : Int) (data : Bytes) :
    Option (Except PyError Frame) :=
  match judge runtime secret seq data with
  | .dropped => none
  | .returned reply => some (.ok reply)
  | .raised error => some (.error error)

theorem decides_eq_none {secret : Bytes} {seq : Int} {data : Bytes} :
    decides runtime secret seq data = none <-> judge runtime secret seq data = .dropped := by
  rw [decides]
  cases judge runtime secret seq data <;> simp

theorem decides_eq_some {secret : Bytes} {seq : Int} {data : Bytes} {result : Except PyError Frame} :
    decides runtime secret seq data = some result <->
      judge runtime secret seq data = concluding result := by
  rw [decides]
  cases judge runtime secret seq data <;> cases result <;> simp [concluding]

/-- The wait is a search for the first datagram that decides it. -/
theorem outcome_eq_findSome (secret : Bytes) (seq : Int) (queue : List Bytes) :
    outcome runtime secret seq queue = queue.findSome? (decides runtime secret seq) := by
  induction queue with
  | nil => rfl
  | cons data queue ih =>
      rw [outcome, awaitReply, List.findSome?_cons, decides]
      cases judge runtime secret seq data with
      | dropped => exact ih
      | returned reply => rfl
      | raised error => rfl

/-- Noise is passed over. -/
theorem decides_noise {secret : Bytes} {seq : Int} {data : Bytes}
    (noise : Noise runtime secret seq data) (octets : data ≠ []) :
    decides runtime secret seq data = none := by
  rw [decides, judge]
  cases split : splitDatagram runtime.toDigests data secret with
  | error error => rfl
  | ok frames =>
      cases frames with
      | nil =>
          have nothing := (splitDatagram_ok_iff _).mp split
          cases nothing
          exact absurd rfl octets
      | cons first rest =>
          dsimp only
          rw [answersSeq]
          by_cases ack : first.msgType = .ack
          · rcases noise first rest split ack with ⟨ackSeq, range, other, payload⟩
            rw [if_pos ack, payload, decodeAck_encodeAck runtime range, Except.map,
              decide_eq_false other]
          · rw [if_neg ack]

/-- An empty datagram is not. -/
theorem decides_empty (runtime : Runtime) (secret : Bytes) (seq : Int) :
    decides runtime secret seq [] = some (.error .indexError) := by
  have nothing : splitDatagram runtime.toDigests [] secret = .ok [] :=
    splitDatagram_join runtime.toDigests rfl
  rw [decides, judge, nothing]

theorem answersSeq_ne_indexError {seq : Int} {first : Frame} :
    answersSeq runtime seq first ≠ .error .indexError := by
  intro failed
  rw [answersSeq] at failed
  by_cases ack : first.msgType = .ack
  · rw [if_pos ack] at failed
    cases decoded : decodeAck runtime first.payload with
    | error raised =>
        rw [decoded] at failed
        cases failed
        rcases decodeAck_raises runtime decoded with ⟨_, same⟩ | ⟨_, same⟩ | same <;> cases same
    | ok ackSeq =>
        rw [decoded] at failed
        cases failed
  · rw [if_neg ack] at failed
    cases failed

theorem takeReply_ne_indexError {reply : Frame} :
    takeReply runtime reply ≠ .raised .indexError := by
  intro raised
  rw [takeReply] at raised
  by_cases report : reply.msgType = .error
  · rw [if_pos report] at raised
    cases decoded : decodeError runtime reply.payload with
    | error failure =>
        rw [decoded] at raised
        cases raised
        rcases decodeError_raises runtime decoded with ⟨_, same⟩ | ⟨_, same⟩ | same <;> cases same
    | ok fields =>
        rw [decoded] at raised
        cases raised
  · rw [if_neg report] at raised
    cases raised

/-- Nothing but an empty datagram raises `IndexError`. -/
theorem empty_of_indexError {secret : Bytes} {seq : Int} {data : Bytes}
    (raised : judge runtime secret seq data = .raised .indexError) : data = [] := by
  rw [judge] at raised
  cases split : splitDatagram runtime.toDigests data secret with
  | error error =>
      rw [split] at raised
      cases raised
  | ok frames =>
      cases frames with
      | nil =>
          cases (splitDatagram_ok_iff _).mp split
          rfl
      | cons first rest =>
          rw [split] at raised
          dsimp only at raised
          split at raised
          · cases raised
          · rename_i failed
            cases raised
            exact absurd failed answersSeq_ne_indexError
          · cases raised
          · exact absurd raised takeReply_ne_indexError

/-- The wait ends in `IndexError` exactly if the first datagram that it does
not drop is empty. -/
theorem findSome_indexError_iff {secret : Bytes} {seq : Int} {queue : List Bytes} :
    queue.findSome? (decides runtime secret seq) = some (.error .indexError) <->
      Decisive runtime secret seq queue [] := by
  rw [List.findSome?_eq_some_iff]
  constructor
  · rintro ⟨before, data, after, split, raised, dropped⟩
    cases empty_of_indexError (decides_eq_some.mp raised)
    exact ⟨before, after, split, fun other member => decides_eq_none.mp (dropped other member)⟩
  · rintro ⟨before, after, split, dropped⟩
    exact ⟨before, [], after, split, decides_empty runtime secret seq,
      fun other member => decides_eq_none.mpr (dropped other member)⟩

/-- Inserted noise leaves the end of a wait as it is exactly if an answer, or
what else is not dropped, comes before the first inserted datagram without
octets; or if the wait was to end with such a datagram of its own. -/
theorem outcome_insert_iff (runtime : Runtime) (secret : Bytes) (seq : Int)
    {arrivals : List (Item Bytes)}
    (noise : forall data, .inserted data ∈ arrivals -> Noise runtime secret seq data) :
    outcome runtime secret seq (arrivals.map Item.value) =
        outcome runtime secret seq (arrivals.filterMap Item.own) <->
      (forall before after, arrivals = before ++ .inserted [] :: after ->
        ∃ data, .kept data ∈ before ∧ judge runtime secret seq data ≠ .dropped) ∨
        Decisive runtime secret seq (arrivals.filterMap Item.own) [] := by
  have passes (data : Bytes) (member : .inserted data ∈ arrivals) :
      decides runtime secret seq data = none ∨
        decides runtime secret seq data = some (.error .indexError) := by
    by_cases empty : data = []
    · rw [empty]
      exact .inr (decides_empty runtime secret seq)
    · exact .inl (decides_noise (noise data member) empty)
  have covered : Covered (fun data => decides runtime secret seq data ≠ none) arrivals <->
      forall before after, arrivals = before ++ .inserted [] :: after ->
        ∃ data, .kept data ∈ before ∧ judge runtime secret seq data ≠ .dropped := by
    constructor
    · intro covers before after split
      have decided : decides runtime secret seq [] ≠ none := by
        rw [decides_empty]
        exact Option.some_ne_none _
      rcases covers before [] after split decided with ⟨data, member, decides⟩
      exact ⟨data, member, fun dropped => decides (decides_eq_none.mpr dropped)⟩
    · intro covers before data after split decided
      have empty : data = [] := by
        by_contra octets
        have member : .inserted data ∈ arrivals := by
          rw [split]
          exact List.mem_append_right before List.mem_cons_self
        exact decided (decides_noise (noise data member) octets)
      rw [empty] at split
      rcases covers before after split with ⟨other, member, kept⟩
      exact ⟨other, member, fun none => kept (decides_eq_none.mp none)⟩
  rw [outcome_eq_findSome, outcome_eq_findSome, findSome_own_iff passes, findSome_indexError_iff,
    covered, or_comm]

/-- Less than a frame is noise. -/
theorem noise_short (runtime : Runtime) (secret : Bytes) (seq : Int) {data : Bytes}
    (short : data.length < headerSize) : Noise runtime secret seq data := by
  intro first rest split
  rcases join_cons _ ((splitDatagram_ok_iff _).mp split) with ⟨front, others, encoded, _, same⟩
  have size := length_of_encode _ encoded
  rw [same, List.length_append] at short
  omega

/-- An octet in front of an answer, and an empty datagram behind it. -/
theorem outcome_insert_iff_behind : ∃ answer,
    join Reference.runtime.toDigests Reference.secret
        [⟨.ack, 7, encodeAck 3, 0⟩, ⟨.pong, 8, [1], 0⟩] = .ok answer ∧
      outcome Reference.runtime Reference.secret 3 [answer] = some (.ok ⟨.pong, 8, [1], 0⟩) ∧
      outcome Reference.runtime Reference.secret 3 [[0], answer, []] =
        some (.ok ⟨.pong, 8, [1], 0⟩) := by
  have encodable : forall frame, frame ∈ [(⟨.ack, 7, encodeAck 3, 0⟩ : Frame), ⟨.pong, 8, [1], 0⟩] ->
      Encodable frame := by decide
  rcases exists_join Reference.runtime.toDigests Reference.secret encodable with ⟨answer, joined⟩
  have judged : judge Reference.runtime Reference.secret 3 answer =
      .returned ⟨.pong, 8, [1], 0⟩ :=
    (judge_join (by decide) joined).trans (takeReply_success (by decide))
  have alone : outcome Reference.runtime Reference.secret 3 [answer] =
      some (.ok ⟨.pong, 8, [1], 0⟩) := by
    rw [outcome, awaitReply, judged]
    rfl
  have noise : forall data, .inserted data ∈ [Item.inserted [0], .kept answer, .inserted []] ->
      Noise Reference.runtime Reference.secret 3 data := by
    intro data member
    have short : data.length < headerSize := by
      simp only [List.mem_cons, Item.inserted.injEq, reduceCtorEq, List.not_mem_nil, false_or,
        or_false] at member
      rcases member with rfl | rfl <;> decide
    exact noise_short Reference.runtime Reference.secret 3 short
  have decides : judge Reference.runtime Reference.secret 3 answer ≠ .dropped := by
    rw [judged]
    intro dropped
    cases dropped
  have immune := (outcome_insert_iff Reference.runtime Reference.secret 3 noise).mpr
  refine ⟨answer, joined, alone, (immune (.inl ?_)).trans alone⟩
  intro before after split
  refine ⟨answer, ?_, decides⟩
  cases before with
  | nil => cases split
  | cons first before =>
      cases before with
      | nil => cases split
      | cons second before =>
          have same := (List.cons.inj (List.cons.inj split).2).1
          rw [← same]
          exact List.mem_cons_of_mem _ List.mem_cons_self

/-- An empty datagram in front of nothing ends the wait with an exception. -/
theorem empty_datagram_raises :
    Noise Reference.runtime Reference.secret 0 [] ∧
      outcome Reference.runtime Reference.secret 0 [] = none ∧
      outcome Reference.runtime Reference.secret 0 [[]] = some (.error .indexError) := by
  refine ⟨noise_short Reference.runtime Reference.secret 0 (by decide), rfl, ?_⟩
  rw [outcome_eq_findSome, List.findSome?_cons, decides_empty]

end UdpClient
end Wireline
