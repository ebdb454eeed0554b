import Wireline.Library.Incremental

namespace ExactReader

/-!
# Readers that ask for exact amounts

A stream reader asks for a number of symbols, waits until that many have
arrived, and decides from them what to ask for next.  `Pull` is such a program
as data: its only effect is the request, so one program can be run on a
finished stream, suspended while symbols are missing, or abandoned between two
requests.

`Implements` compares a program with an `Incremental.Scanner`.  It is a
statement about one item; `readAll_eq_scan` lifts it to the whole stream.
-/

universe u v w

open Incremental

inductive Pull (β : Type u) (ε : Type v) (α : Type w)
  | done (value : α)
  | fail (error : ε)
  | readexactly (size : Nat) (resume : List β -> Pull β ε α)

/-- How a run ends when the stream ends where it does. -/
inductive Ended (ε : Type v) (α : Type w)
  | returned (value : α)
  | raised (error : ε)
  | incomplete

/-- What a reading loop saw: the values it returned, the error that stopped
it or `none` at the end of the stream, and the amounts it asked for. -/
structure Reading (ε : Type v) (α : Type w) where
  values : List α
  stop : Option ε
  asked : List Nat

namespace Pull

variable {β : Type u} {ε : Type v} {α : Type w}

/-- Run on a stream that will not grow.  A request that cannot be satisfied
takes what is left. -/
def run : Pull β ε α -> List β -> Ended ε α × List β
  | .done value, stream => (.returned value, stream)
  | .fail error, stream => (.raised error, stream)
  | .readexactly size resume, stream =>
      if size ≤ stream.length then (resume (stream.take size)).run (stream.drop size)
      else (.incomplete, [])

/-- Go on as far as the symbols that have arrived allow. -/
def advance : Pull β ε α -> List β -> Pull β ε α × List β
  | .done value, buffer => (.done value, buffer)
  | .fail error, buffer => (.fail error, buffer)
  | .readexactly size resume, buffer =>
      if size ≤ buffer.length then (resume (buffer.take size)).advance (buffer.drop size)
      else (.readexactly size resume, buffer)

theorem length_advance_le (pull : Pull β ε α) (buffer : List β) :
    (pull.advance buffer).2.length ≤ buffer.length := by
  induction pull generalizing buffer with
  | done value => exact Nat.le_refl _
  | fail error => exact Nat.le_refl _
  | readexactly size resume ih =>
      rw [advance]
      by_cases enough : size ≤ buffer.length
      · have shorter := ih (buffer.take size) (buffer.drop size)
        rw [List.length_drop] at shorter
        rw [if_pos enough]
        omega
      · exact Nat.le_of_eq (by rw [if_neg enough])

/-- What is abandoned has taken nothing exactly if its first request was not
satisfied. -/
theorem advance_untouched_iff {size : Nat} (positive : 0 < size)
    (resume : List β -> Pull β ε α) (buffer : List β) :
    ((readexactly size resume).advance buffer).2.length = buffer.length <->
      buffer.length < size := by
  rw [advance]
  by_cases enough : size ≤ buffer.length
  · have shorter := length_advance_le (resume (buffer.take size)) (buffer.drop size)
    rw [List.length_drop] at shorter
    rw [if_pos enough]
    omega
  · rw [if_neg enough]
    simpa using enough

/-- A program that has gone on meets the same end. -/
theorem run_advance (pull : Pull β ε α) (buffer later : List β) :
    (pull.advance buffer).1.run ((pull.advance buffer).2 ++ later) = pull.run (buffer ++ later) := by
  induction pull generalizing buffer with
  | done value => rfl
  | fail error => rfl
  | readexactly size resume ih =>
      rw [advance]
      by_cases enough : size ≤ buffer.length
      · have longer : size ≤ (buffer ++ later).length := by
          rw [List.length_append]
          omega
        rw [if_pos enough, ih, run, if_pos longer, List.take_append_of_le_length enough,
          List.drop_append_of_le_length enough]
      · rw [if_neg enough]

/-- A run that returns needs no more than has arrived. -/
theorem advance_of_returned {pull : Pull β ε α} {buffer rest : List β} {value : α}
    (returned : pull.run buffer = (.returned value, rest)) :
    pull.advance buffer = (.done value, rest) := by
  induction pull generalizing buffer with
  | done other =>
      cases returned
      rfl
  | fail error => cases returned
  | readexactly size resume ih =>
      rw [run] at returned
      by_cases enough : size ≤ buffer.length
      · rw [if_pos enough] at returned
        rw [advance, if_pos enough]
        exact ih _ returned
      · rw [if_neg enough] at returned
        cases returned

/-- The amounts asked for during that run, the unsatisfied one included. -/
def asks : Pull β ε α -> List β -> List Nat
  | .done _, _ => []
  | .fail _, _ => []
  | .readexactly size resume, stream =>
      size ::
        if size ≤ stream.length then (resume (stream.take size)).asks (stream.drop size) else []

/-- A bound on every amount the program can ask for, whatever it is given. -/
def AsksAtMost (limit : Nat) : Pull β ε α -> Prop
  | .done _ => True
  | .fail _ => True
  | .readexactly size resume =>
      size ≤ limit ∧ forall given, given.length = size -> (resume given).AsksAtMost limit

theorem asks_le {limit : Nat} (pull : Pull β ε α) (bounded : pull.AsksAtMost limit)
    (stream : List β) : forall size, size ∈ pull.asks stream -> size ≤ limit := by
  induction pull generalizing stream with
  | done value =>
      intro size member
      cases member
  | fail error =>
      intro size member
      cases member
  | readexactly asked resume ih =>
      intro size member
      rcases List.mem_cons.mp member with same | later
      · exact same ▸ bounded.1
      · by_cases enough : asked ≤ stream.length
        · rw [if_pos enough] at later
          exact ih _ (bounded.2 _ (List.length_take_of_le enough)) _ size later
        · rw [if_neg enough] at later
          cases later

/-- A program that takes at least one symbol for each value it returns. -/
def Consuming (pull : Pull β ε α) : Prop :=
  forall stream value rest, pull.run stream = (.returned value, rest) ->
    rest.length < stream.length

/-- Call the program again and again until it stops returning values. -/
def readAll (pull : Pull β ε α) (consuming : pull.Consuming) (stream : List β) : Reading ε α :=
  match _ended : pull.run stream with
  | (.incomplete, _) => ⟨[], none, pull.asks stream⟩
  | (.raised error, _) => ⟨[], some error, pull.asks stream⟩
  | (.returned value, rest) =>
      let tail := readAll pull consuming rest
      ⟨value :: tail.values, tail.stop, pull.asks stream ++ tail.asked⟩
termination_by stream.length
decreasing_by exact consuming stream value rest _ended

theorem readAll_returned {pull : Pull β ε α} (consuming : pull.Consuming) {stream rest : List β}
    {value : α} (ended : pull.run stream = (.returned value, rest)) :
    (pull.readAll consuming stream).values = value :: (pull.readAll consuming rest).values := by
  rw [readAll.eq_def]
  split
  · simp_all
  · simp_all
  · rename_i found left same
    rw [ended] at same
    cases same
    rfl

/-- One call of the program does what the scanner decides. -/
structure Implements (pull : Pull β ε α) (scanner : Scanner β ε α) : Prop where
  more : forall {stream}, scanner.next stream = .more -> (pull.run stream).1 = .incomplete
  fail : forall {stream error}, scanner.next stream = .fail error ->
    (pull.run stream).1 = .raised error
  item : forall {stream value size}, scanner.next stream = .item value size ->
    pull.run stream = (.returned value, stream.drop size)

namespace Implements

variable {pull : Pull β ε α} {scanner : Scanner β ε α}

/-- A returned value is the item that the scanner sees. -/
theorem of_returned (implements : pull.Implements scanner) {stream rest : List β} {value : α}
    (ended : pull.run stream = (.returned value, rest)) :
    ∃ size, scanner.next stream = .item value size ∧ rest = stream.drop size := by
  cases shown : scanner.next stream with
  | more =>
      have impossible := implements.more shown
      rw [ended] at impossible
      cases impossible
  | fail error =>
      have impossible := implements.fail shown
      rw [ended] at impossible
      cases impossible
  | item found size =>
      have same := ended.symm.trans (implements.item shown)
      cases same
      exact ⟨size, rfl, rfl⟩

/-- A raised error is the failure that the scanner sees. -/
theorem of_raised (implements : pull.Implements scanner) {stream rest : List β} {error : ε}
    (ended : pull.run stream = (.raised error, rest)) : scanner.next stream = .fail error := by
  cases shown : scanner.next stream with
  | more =>
      have impossible := implements.more shown
      rw [ended] at impossible
      cases impossible
  | item found size =>
      have impossible := implements.item shown
      rw [ended] at impossible
      cases impossible
  | fail found =>
      have same := implements.fail shown
      rw [ended] at same
      cases same
      rfl

theorem consuming (implements : pull.Implements scanner) : pull.Consuming := by
  intro stream value rest ended
  rcases implements.of_returned ended with ⟨size, shown, left⟩
  have positive := scanner.size_pos shown
  have present := scanner.size_le shown
  rw [left, List.length_drop]
  omega

theorem readAll_values (implements : pull.Implements scanner) (stream : List β) :
    (pull.readAll implements.consuming stream).values = (scanner.scan stream).items.map Prod.fst ∧
      (pull.readAll implements.consuming stream).stop = (scanner.scan stream).stop := by
  induction stream using scanner.scan_induction with
  | more stream shown =>
      have ended := implements.more shown
      rw [scanner.scan_more shown]
      unfold readAll
      split <;> simp_all
  | fail stream error shown =>
      have ended := implements.fail shown
      rw [scanner.scan_fail shown]
      unfold readAll
      split <;> simp_all
  | item stream value size shown ih =>
      have ended := implements.item shown
      rw [scanner.scan_item shown]
      unfold readAll
      split <;> simp_all

end Implements

theorem readAll_asked_le {limit : Nat} (pull : Pull β ε α) (consuming : pull.Consuming)
    (bounded : pull.AsksAtMost limit) (stream : List β) :
    forall size, size ∈ (pull.readAll consuming stream).asked -> size ≤ limit := by
  intro size member
  rw [readAll] at member
  split at member
  · exact asks_le pull bounded stream size member
  · exact asks_le pull bounded stream size member
  · rename_i value rest ended
    have shorter := consuming stream value rest ended
    rcases List.mem_append.mp member with now | later
    · exact asks_le pull bounded stream size now
    · exact readAll_asked_le pull consuming bounded rest size later
termination_by stream.length

end Pull
end ExactReader
