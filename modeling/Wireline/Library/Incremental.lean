import Mathlib.Data.List.Basic

namespace Incremental

/-!
# Incremental scanners

A receiver of a stream holds the symbols that have arrived and repeatedly
takes one complete item off the front.  A `Scanner` is the decision made at
the front of the buffer, with the laws that make the decision independent of
when it is made: an item or an error, once visible, is not changed by later
arrivals, and an item is visible as soon as its own symbols have arrived.

`scan` repeats the decision until more symbols are needed or an error is met.
`feed` receives a stream in chunks and scans after each of them.  The main
results say that `feed` depends on the concatenation of the chunks alone, and
that each item is delivered with the chunk that completes it.
-/

universe u v w

/-- What the front of a buffer shows. -/
inductive Progress (ε : Type v) (α : Type w)
  | more
  | fail (error : ε)
  | item (value : α) (size : Nat)

/-- The laws exclude a scanner that looks past the item it reports, or that
reports an error which a later symbol could repair. -/
structure Scanner (β : Type u) (ε : Type v) (α : Type w) where
  next : List β -> Progress ε α
  next_nil : next [] = .more
  size_pos : forall {buffer value size}, next buffer = .item value size -> 0 < size
  size_le : forall {buffer value size}, next buffer = .item value size -> size ≤ buffer.length
  item_append : forall {buffer value size}, next buffer = .item value size ->
    forall later, next (buffer ++ later) = .item value size
  item_of_append : forall {buffer later value size}, next (buffer ++ later) = .item value size ->
    size ≤ buffer.length -> next buffer = .item value size
  fail_append : forall {buffer error}, next buffer = .fail error ->
    forall later, next (buffer ++ later) = .fail error

/-- The items found in a buffer, each with its own symbols, why the search
stopped, and what it left. -/
structure Scan (β : Type u) (ε : Type v) (α : Type w) where
  items : List (α × List β)
  stop : Option ε
  rest : List β

namespace Scan

variable {β : Type u} {ε : Type v} {α : Type w}

/-- A scan that follows items already found. -/
def after (found : List (α × List β)) (scan : Scan β ε α) : Scan β ε α :=
  ⟨found ++ scan.items, scan.stop, scan.rest⟩

@[simp] theorem after_items (found : List (α × List β)) (scan : Scan β ε α) :
    (scan.after found).items = found ++ scan.items := rfl

@[simp] theorem after_stop (found : List (α × List β)) (scan : Scan β ε α) :
    (scan.after found).stop = scan.stop := rfl

@[simp] theorem after_rest (found : List (α × List β)) (scan : Scan β ε α) :
    (scan.after found).rest = scan.rest := rfl

theorem after_nil (scan : Scan β ε α) : scan.after [] = scan := rfl

theorem after_after (first second : List (α × List β)) (scan : Scan β ε α) :
    (scan.after second).after first = scan.after (first ++ second) := by
  simp only [after, List.append_assoc]

end Scan

namespace Scanner

variable {β : Type u} {ε : Type v} {α : Type w} (scanner : Scanner β ε α)

/-- Take items off the front until the buffer shows no further item. -/
def scan (buffer : List β) : Scan β ε α :=
  match _found : scanner.next buffer with
  | .more => ⟨[], none, buffer⟩
  | .fail error => ⟨[], some error, buffer⟩
  | .item value size => (scan (buffer.drop size)).after [(value, buffer.take size)]
termination_by buffer.length
decreasing_by
  have positive := scanner.size_pos _found
  have present := scanner.size_le _found
  rw [List.length_drop]
  omega

theorem scan_more {buffer : List β} (shown : scanner.next buffer = .more) :
    scanner.scan buffer = ⟨[], none, buffer⟩ := by
  unfold scan
  split <;> simp_all

theorem scan_fail {buffer : List β} {error : ε} (shown : scanner.next buffer = .fail error) :
    scanner.scan buffer = ⟨[], some error, buffer⟩ := by
  unfold scan
  split <;> simp_all

theorem scan_item {buffer : List β} {value : α} {size : Nat}
    (shown : scanner.next buffer = .item value size) :
    scanner.scan buffer =
      (scanner.scan (buffer.drop size)).after [(value, buffer.take size)] := by
  rw [scan]
  split <;> simp_all

/-- Induction along the items of one buffer. -/
theorem scan_induction {motive : List β -> Prop}
    (more : forall buffer, scanner.next buffer = .more -> motive buffer)
    (fail : forall buffer error, scanner.next buffer = .fail error -> motive buffer)
    (item : forall buffer value size, scanner.next buffer = .item value size ->
      motive (buffer.drop size) -> motive buffer)
    (buffer : List β) : motive buffer := by
  cases shown : scanner.next buffer with
  | more => exact more buffer shown
  | fail error => exact fail buffer error shown
  | item value size =>
      have positive := scanner.size_pos shown
      have present := scanner.size_le shown
      exact item buffer value size shown (scan_induction more fail item (buffer.drop size))
termination_by buffer.length
decreasing_by
  rw [List.length_drop]
  omega

/-- No symbol is lost: the items' own symbols and the rest make up the buffer. -/
theorem scan_partition (buffer : List β) :
    ((scanner.scan buffer).items.map Prod.snd).flatten ++ (scanner.scan buffer).rest = buffer := by
  induction buffer using scanner.scan_induction with
  | more buffer shown => simp [scanner.scan_more shown]
  | fail buffer error shown => simp [scanner.scan_fail shown]
  | item buffer value size shown ih =>
      simp [scanner.scan_item shown, List.append_assoc, ih]

/-- What the leftover shows is the reason why the scan stopped. -/
theorem next_rest (buffer : List β) :
    scanner.next (scanner.scan buffer).rest =
      match (scanner.scan buffer).stop with
      | none => .more
      | some error => .fail error := by
  induction buffer using scanner.scan_induction with
  | more buffer shown => simp [scanner.scan_more shown, shown]
  | fail buffer error shown => simp [scanner.scan_fail shown, shown]
  | item buffer value size shown ih => simp [scanner.scan_item shown, ih]

/-- Each item's own symbols are, on their own, exactly that item. -/
theorem next_of_mem_items {buffer : List β} {value : α} {own : List β}
    (member : (value, own) ∈ (scanner.scan buffer).items) :
    scanner.next own = .item value own.length := by
  induction buffer using scanner.scan_induction with
  | more buffer shown => simp [scanner.scan_more shown] at member
  | fail buffer error shown => simp [scanner.scan_fail shown] at member
  | item buffer first size shown ih =>
      rw [scanner.scan_item shown, Scan.after_items, List.singleton_append,
        List.mem_cons] at member
      rcases member with same | later
      · have present := scanner.size_le shown
        have spans : (buffer.take size).length = size := List.length_take_of_le present
        cases same
        rw [spans]
        have whole : scanner.next (buffer.take size ++ buffer.drop size) = .item value size := by
          rw [List.take_append_drop]
          exact shown
        exact scanner.item_of_append whole (Nat.le_of_eq spans.symm)
      · exact ih later

/-- Symbols that arrive after a scan are scanned behind its leftover. -/
theorem scan_append (buffer later : List β) :
    scanner.scan (buffer ++ later) =
      (scanner.scan ((scanner.scan buffer).rest ++ later)).after (scanner.scan buffer).items := by
  induction buffer using scanner.scan_induction with
  | more buffer shown => rw [scanner.scan_more shown, Scan.after_nil]
  | fail buffer error shown => rw [scanner.scan_fail shown, Scan.after_nil]
  | item buffer value size shown ih =>
      have present := scanner.size_le shown
      rw [scanner.scan_item shown, scanner.scan_item (scanner.item_append shown later),
        List.drop_append_of_le_length present, List.take_append_of_le_length present, ih,
        Scan.after_after]
      rfl

/-- After an error nothing that arrives later is scanned. -/
theorem scan_append_of_stop {buffer : List β} {error : ε}
    (stopped : (scanner.scan buffer).stop = some error) (later : List β) :
    (scanner.scan (buffer ++ later)).items = (scanner.scan buffer).items ∧
      (scanner.scan (buffer ++ later)).stop = some error := by
  have shown := scanner.next_rest buffer
  rw [stopped] at shown
  rw [scan_append, scanner.scan_fail (scanner.fail_append shown later)]
  simp

/-- Before an item's last symbol has arrived nothing is shown. -/
theorem next_of_part {part later : List β} {value : α}
    (shown : scanner.next (part ++ later) = .item value (part ++ later).length)
    (proper : later ≠ []) : scanner.next part = .more := by
  have longer : part.length < (part ++ later).length := by
    rw [List.length_append]
    have positive := List.length_pos_of_ne_nil proper
    omega
  cases front : scanner.next part with
  | more => rfl
  | fail error =>
      rw [scanner.fail_append front later] at shown
      cases shown
  | item other size =>
      have present := scanner.size_le front
      rw [scanner.item_append front later] at shown
      injection shown with _ same
      omega

/-- Complete items are found in front of whatever follows them. -/
theorem scan_flatten {items : List (α × List β)}
    (complete : forall item, item ∈ items -> scanner.next item.2 = .item item.1 item.2.length)
    (later : List β) :
    scanner.scan ((items.map Prod.snd).flatten ++ later) = (scanner.scan later).after items := by
  induction items with
  | nil => exact (Scan.after_nil _).symm
  | cons item items ih =>
      have first := complete item List.mem_cons_self
      have rest := ih fun other member => complete other (List.mem_cons_of_mem item member)
      rw [List.map_cons, List.flatten_cons, List.append_assoc,
        scanner.scan_item (scanner.item_append first _), List.drop_left, List.take_left, rest,
        Scan.after_after]
      rfl

/-- A beginning of complete items shows those that have ended. -/
theorem scan_part {items : List (α × List β)} {stream : List β}
    (complete : forall item, item ∈ items -> scanner.next item.2 = .item item.1 item.2.length)
    (part : stream <+: (items.map Prod.snd).flatten) :
    ∃ seen later rest, items = seen ++ later ∧ stream = (seen.map Prod.snd).flatten ++ rest ∧
      scanner.scan stream = ⟨seen, none, rest⟩ ∧
      forall item, item ∈ later.head? -> rest.length < item.2.length := by
  induction items generalizing stream with
  | nil =>
      rw [List.prefix_nil.mp part]
      refine ⟨[], [], [], rfl, rfl, scanner.scan_more scanner.next_nil, ?_⟩
      intro item none
      cases none
  | cons item items ih =>
      have first := complete item List.mem_cons_self
      have others := fun other member => complete other (List.mem_cons_of_mem item member)
      rw [List.map_cons, List.flatten_cons] at part
      by_cases whole : item.2.length ≤ stream.length
      · have front : item.2 <+: stream :=
          List.prefix_of_prefix_length_le (List.prefix_append ..) part whole
        rcases front with ⟨behind, rfl⟩
        rcases ih others ((List.prefix_append_right_inj _).mp part) with
          ⟨seen, later, rest, split, same, scanned, short⟩
        refine ⟨item :: seen, later, rest, by rw [split, List.cons_append], ?_, ?_, short⟩
        · rw [same, List.map_cons, List.flatten_cons, List.append_assoc]
        · rw [scanner.scan_item (scanner.item_append first behind), List.drop_left, List.take_left,
            scanned]
          rfl
      · have proper : stream.length < item.2.length := Nat.lt_of_not_le whole
        have front : stream <+: item.2 :=
          List.prefix_of_prefix_length_le part (List.prefix_append ..) (Nat.le_of_lt proper)
        rcases front with ⟨missing, joined⟩
        have needed : missing ≠ [] := by
          rintro rfl
          rw [← joined, List.append_nil] at proper
          exact Nat.lt_irrefl _ proper
        rw [← joined] at first
        refine ⟨[], item :: items, stream, rfl, rfl,
          scanner.scan_more (scanner.next_of_part first needed), ?_⟩
        intro head shown
        cases shown
        exact proper

/-! ## Chunked arrival -/

/-- The items delivered after each chunk, up to the first error. -/
structure Feeding (β : Type u) (ε : Type v) (α : Type w) where
  outputs : List (List (α × List β))
  stop : Option ε
  rest : List β

/-- Receive chunks behind what is already held, scanning after each one and
stopping at the first error. -/
def feed (held : List β) : List (List β) -> Feeding β ε α
  | [] => ⟨[], none, held⟩
  | chunk :: chunks =>
      let scanned := scanner.scan (held ++ chunk)
      match scanned.stop with
      | some error => ⟨[scanned.items], some error, scanned.rest⟩
      | none =>
          let tail := feed scanned.rest chunks
          ⟨scanned.items :: tail.outputs, tail.stop, tail.rest⟩

/-- Chunked arrival finds what a scan of the whole stream finds. -/
theorem feed_eq_scan {held : List β} (waiting : scanner.next held = .more)
    (chunks : List (List β)) :
    (scanner.feed held chunks).outputs.flatten =
        (scanner.scan (held ++ chunks.flatten)).items ∧
      (scanner.feed held chunks).stop = (scanner.scan (held ++ chunks.flatten)).stop ∧
      ((scanner.feed held chunks).stop = none ->
        (scanner.feed held chunks).rest = (scanner.scan (held ++ chunks.flatten)).rest) := by
  induction chunks generalizing held with
  | nil => simp [feed, scanner.scan_more waiting]
  | cons chunk chunks ih =>
      rw [List.flatten_cons, ← List.append_assoc]
      cases stopped : (scanner.scan (held ++ chunk)).stop with
      | some error =>
          have later := scanner.scan_append_of_stop stopped chunks.flatten
          simp only [feed, stopped, List.flatten_cons, List.flatten_nil, List.append_nil, later]
          exact ⟨trivial, trivial, fun impossible => nomatch impossible⟩
      | none =>
          have idle := scanner.next_rest (held ++ chunk)
          rw [stopped] at idle
          have tail := ih idle
          rw [scan_append]
          simp [feed, stopped, tail.1, tail.2.1]
          simpa [tail.2.1] using tail.2.2

/-- Two ways of cutting one stream give the same items and the same error,
and without an error the same leftover. -/
theorem feed_congr {first second : List (List β)} (same : first.flatten = second.flatten) :
    (scanner.feed [] first).outputs.flatten = (scanner.feed [] second).outputs.flatten ∧
      (scanner.feed [] first).stop = (scanner.feed [] second).stop ∧
      ((scanner.feed [] first).stop = none ->
        (scanner.feed [] first).rest = (scanner.feed [] second).rest) := by
  have left := scanner.feed_eq_scan scanner.next_nil first
  have right := scanner.feed_eq_scan scanner.next_nil second
  rw [same] at left
  refine ⟨left.1.trans right.1.symm, left.2.1.trans right.2.1.symm, ?_⟩
  intro finished
  have alsoFinished := (left.2.1.trans right.2.1.symm).symm.trans finished
  exact (left.2.2 finished).trans (right.2.2 alsoFinished).symm

/-! ## When an item is delivered -/

/-- Each item with the position in the stream at which its symbols end. -/
def ends (offset : Nat) : List (α × List β) -> List (α × Nat)
  | [] => []
  | (value, own) :: items => (value, offset + own.length) :: ends (offset + own.length) items

theorem ends_append (offset : Nat) (first second : List (α × List β)) :
    ends offset (first ++ second) =
      ends offset first ++ ends (offset + (first.map Prod.snd).flatten.length) second := by
  induction first generalizing offset with
  | nil => simp [ends]
  | cons item first ih =>
      rcases item with ⟨value, own⟩
      simp [ends, ih, Nat.add_assoc]

theorem map_fst_ends (offset : Nat) (items : List (α × List β)) :
    (ends offset items).map Prod.fst = items.map Prod.fst := by
  induction items generalizing offset with
  | nil => rfl
  | cons item items ih =>
      rcases item with ⟨value, own⟩
      simp [ends, ih]

theorem ends_le {offset : Nat} {items : List (α × List β)} {entry : α × Nat}
    (member : entry ∈ ends offset items) :
    entry.2 ≤ offset + (items.map Prod.snd).flatten.length := by
  induction items generalizing offset with
  | nil => cases member
  | cons item items ih =>
      rcases item with ⟨value, own⟩
      simp only [List.map_cons, List.flatten_cons, List.length_append]
      rcases List.mem_cons.mp member with same | later
      · rw [same]
        omega
      · have bound := ih later
        omega

theorem lt_ends_scan {offset : Nat} {buffer : List β} {entry : α × Nat}
    (member : entry ∈ ends offset (scanner.scan buffer).items) : offset < entry.2 := by
  induction buffer using scanner.scan_induction generalizing offset with
  | more buffer shown => simp [scanner.scan_more shown, ends] at member
  | fail buffer error shown => simp [scanner.scan_fail shown, ends] at member
  | item buffer value size shown ih =>
      have positive := scanner.size_pos shown
      have spans : (buffer.take size).length = size :=
        List.length_take_of_le (scanner.size_le shown)
      rw [scanner.scan_item shown, Scan.after_items, List.singleton_append, ends, spans] at member
      rcases List.mem_cons.mp member with same | later
      · rw [same]
        omega
      · have bound := ih later
        omega

/-- No item is found behind a leftover before its last symbol has arrived. -/
theorem lt_ends_scan_rest {buffer later : List β} {entry : α × Nat} (offset : Nat)
    (member : entry ∈
      ends offset (scanner.scan ((scanner.scan buffer).rest ++ later)).items) :
    offset + (scanner.scan buffer).rest.length < entry.2 := by
  have waiting := scanner.next_rest buffer
  cases shown : scanner.next ((scanner.scan buffer).rest ++ later) with
  | more => simp [scanner.scan_more shown, ends] at member
  | fail error => simp [scanner.scan_fail shown, ends] at member
  | item value size =>
      have large : (scanner.scan buffer).rest.length < size := by
        by_contra small
        rw [scanner.item_of_append shown (Nat.le_of_not_lt small)] at waiting
        cases stopped : (scanner.scan buffer).stop <;> simp [stopped] at waiting
      have spans := List.length_take_of_le (scanner.size_le shown)
      rw [scanner.scan_item shown, Scan.after_items, List.singleton_append, ends, spans] at member
      rcases List.mem_cons.mp member with same | behind
      · rw [same]
        omega
      · have bound := scanner.lt_ends_scan behind
        omega

/-- A scan of a prefix finds the items of the whole stream that end in it. -/
theorem ends_scan_prefix (arrived later : List β) :
    ends 0 (scanner.scan arrived).items =
      (ends 0 (scanner.scan (arrived ++ later)).items).filter
        (fun entry => entry.2 ≤ arrived.length) := by
  have partition := congrArg List.length (scanner.scan_partition arrived)
  rw [List.length_append] at partition
  rw [scan_append, Scan.after_items, ends_append, List.filter_append]
  have early : (ends 0 (scanner.scan arrived).items).filter
      (fun entry => entry.2 ≤ arrived.length) = ends 0 (scanner.scan arrived).items := by
    rw [List.filter_eq_self]
    intro entry member
    have bound := ends_le member
    simp only [decide_eq_true_eq]
    omega
  have late : (ends (0 + ((scanner.scan arrived).items.map Prod.snd).flatten.length)
      (scanner.scan ((scanner.scan arrived).rest ++ later)).items).filter
        (fun entry => entry.2 ≤ arrived.length) = [] := by
    rw [List.filter_eq_nil_iff]
    intro entry member
    have bound := scanner.lt_ends_scan_rest _ member
    simp only [decide_eq_true_eq]
    omega
  rw [early, late, List.append_nil]

/-- The output after a chunk is a scan of that chunk behind the leftover of
everything before it. -/
theorem feed_output (arrived : List β) (before : List (List β)) (chunk : List β)
    (later : List (List β)) (output : List (α × List β))
    (delivered : (scanner.feed (scanner.scan arrived).rest
      (before ++ chunk :: later)).outputs[before.length]? = some output) :
    output = (scanner.scan ((scanner.scan (arrived ++ before.flatten)).rest ++ chunk)).items := by
  induction before generalizing arrived with
  | nil =>
      rw [List.flatten_nil, List.append_nil]
      cases stopped : (scanner.scan ((scanner.scan arrived).rest ++ chunk)).stop <;>
        simpa [feed, stopped, eq_comm] using delivered
  | cons first before ih =>
      cases stopped : (scanner.scan ((scanner.scan arrived).rest ++ first)).stop with
      | some error => simp [feed, stopped] at delivered
      | none =>
          have advanced : (scanner.scan (arrived ++ first)).rest =
              (scanner.scan ((scanner.scan arrived).rest ++ first)).rest := by
            rw [scan_append, Scan.after_rest]
          simp only [feed, stopped, List.cons_append, List.length_cons,
            List.getElem?_cons_succ] at delivered
          rw [← advanced] at delivered
          rw [List.flatten_cons, ← List.append_assoc]
          exact ih (arrived ++ first) delivered

/-- The output after a chunk consists of exactly those items of the whole
stream whose last symbol lies in that chunk. -/
theorem feed_timing (before : List (List β)) (chunk : List β) (later : List (List β))
    (output : List (α × List β))
    (delivered : (scanner.feed [] (before ++ chunk :: later)).outputs[before.length]? =
      some output) :
    output.map Prod.fst =
      ((ends 0 (scanner.scan (before ++ chunk :: later).flatten).items).filter (fun entry =>
        before.flatten.length < entry.2 ∧
          entry.2 ≤ before.flatten.length + chunk.length)).map Prod.fst := by
  have empty : (scanner.scan []).rest = [] := by rw [scanner.scan_more scanner.next_nil]
  rw [← empty] at delivered
  have located := scanner.feed_output [] before chunk later output delivered
  rw [List.nil_append] at located
  have whole : (before ++ chunk :: later).flatten =
      before.flatten ++ (chunk ++ later.flatten) := by simp
  have atChunk := scanner.ends_scan_prefix (before.flatten ++ chunk) later.flatten
  rw [scan_append scanner before.flatten chunk, Scan.after_items, ← located, ends_append,
    List.append_assoc, ← whole, List.length_append] at atChunk
  have partition := congrArg List.length (scanner.scan_partition before.flatten)
  rw [List.length_append] at partition
  have early : (ends 0 (scanner.scan before.flatten).items).filter
      (fun entry => before.flatten.length < entry.2) = [] := by
    rw [List.filter_eq_nil_iff]
    intro entry member
    have bound := ends_le member
    simp only [decide_eq_true_eq]
    omega
  let offset := 0 + ((scanner.scan before.flatten).items.map Prod.snd).flatten.length
  have late : (ends offset output).filter (fun entry => before.flatten.length < entry.2) =
      ends offset output := by
    rw [List.filter_eq_self]
    intro entry member
    rw [located] at member
    have bound := scanner.lt_ends_scan_rest offset member
    simp only [decide_eq_true_eq]
    omega
  have cut := congrArg (List.filter (fun entry => before.flatten.length < entry.2)) atChunk
  rw [List.filter_append, early, late, List.nil_append, List.filter_filter] at cut
  rw [← map_fst_ends offset output, cut]
  simp only [Bool.decide_and]

end Scanner
end Incremental
