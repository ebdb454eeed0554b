import Wireline.Library.Restarting
import Wireline.Transport.Readers
import Wireline.Sniff.Dissect

namespace Wireline

open Incremental

/-!
# Reassembling the flows of a capture

The analyser keeps one `FrameBuffer` without a key for each direction, and
starts over with an empty one when the buffer refuses what it holds.  A
direction is told by its flow key alone, which does not name the transport:
the datagrams of a UDP direction go through one buffer like the segments of a
TCP direction, and through the same one if the ports are the same.

What is reported for a direction is compared with what the receiver would
read: the whole stream up to its first error, or each datagram on its own.
-/

/-- `flow_key`. -/
def Row.flowKey (row : Row) : String :=
  s!"{row.l3Src}:{row.l4Sport} -> {row.l3Dst}:{row.l4Dport}"

/-- A text is read back up to the first separator. -/
theorem separated_inj {separator : Char} {front other : List Char} (front_free : separator ∉ front)
    (other_free : separator ∉ other) {rest rest' : List Char}
    (same : front ++ separator :: rest = other ++ separator :: rest') :
    front = other ∧ rest = rest' := by
  induction front generalizing other with
  | nil =>
      cases other with
      | nil => exact ⟨rfl, (List.cons.inj same).2⟩
      | cons letter other =>
          have first := (List.cons.inj same).1
          exact absurd (by simp [first]) other_free
  | cons letter front ih =>
      cases other with
      | nil =>
          have first := (List.cons.inj same).1
          exact absurd (by simp [first]) front_free
      | cons letter' other =>
          rw [List.mem_cons, not_or] at front_free other_free
          rcases List.cons.inj same with ⟨first, later⟩
          rcases ih front_free.2 other_free.2 later with ⟨fronts, rests⟩
          exact ⟨by rw [first, fronts], rests⟩

theorem digits_free {letter : Char} (other : letter.isDigit = false) (value : Nat) :
    letter ∉ Nat.toDigits 10 value := by
  intro member
  have digit := Nat.isDigit_of_mem_toDigits (by decide) (by decide) member
  rw [other] at digit
  cases digit

theorem digits_inj {first second : Nat} (same : Nat.toDigits 10 first = Nat.toDigits 10 second) :
    first = second := by
  have values := congrArg (Nat.ofDigitChars 10 · 0) same
  simpa [Nat.ofDigitChars_toDigits] using values

/-- From where a packet goes to where. -/
def Row.direction (row : Row) : (String × Nat) × String × Nat :=
  ((row.l3Src, row.l4Sport), row.l3Dst, row.l4Dport)

/-- No address holds a colon. -/
def Row.Plain (row : Row) : Prop := ':' ∉ row.l3Src.toList ∧ ':' ∉ row.l3Dst.toList

theorem dottedQuad_plain (raw : Bytes) : ':' ∉ (dottedQuad raw).toList := by
  have free : forall value, ':' ∉ Nat.toDigits 10 value := digits_free (by decide)
  rw [dottedQuad, String.toList_intercalate, List.map_map]
  induction raw with
  | nil => simp
  | cons octet raw ih =>
      cases raw with
      | nil => simpa using free octet.toNat
      | cons next raw =>
          rw [List.map_cons, List.map_cons, List.intercalate_cons_cons, ← List.map_cons]
          intro member
          rw [List.append_assoc, List.mem_append, List.mem_append] at member
          rcases member with digit | dot | later
          · exact free octet.toNat (by simpa using digit)
          · simp at dot
          · exact ih later

/-- The addresses of a packet with a transport are four numbers each. -/
theorem plain_of_dissected {linktype : Nat} {packet : Packet} {row : Row} {proto : L4Proto}
    (dissected : dissectPacket linktype packet = .ok (some row))
    (transport : row.l4Proto = some proto) : row.Plain := by
  rcases dissectPacket_outcome linktype packet with
    ⟨_, _, none⟩ | ⟨before, after, same, _, bare, outcome⟩
  · rw [dissected] at none
    cases none
  · rw [dissected] at same
    cases same
    cases outcome with
    | bare _ untouched =>
        rw [untouched, bare] at transport
        cases transport
    | tcp holds => exact ⟨dottedQuad_plain _, dottedQuad_plain _⟩
    | udp holds => exact ⟨dottedQuad_plain _, dottedQuad_plain _⟩

/-- A key stands for one direction, because no address holds a colon. -/
theorem flowKey_inj {first second : Row} (plain : first.Plain) (plain' : second.Plain)
    (same : first.flowKey = second.flowKey) : first.direction = second.direction := by
  have letters (row : Row) : row.flowKey.toList = row.l3Src.toList ++ ':' ::
      (Nat.toDigits 10 row.l4Sport ++ ' ' :: ('-' :: '>' :: ' ' ::
        (row.l3Dst.toList ++ ':' :: Nat.toDigits 10 row.l4Dport))) := by
    change (row.l3Src ++ ":" ++ Nat.repr row.l4Sport ++ " -> " ++ row.l3Dst ++ ":" ++
      Nat.repr row.l4Dport).toList = _
    simp
  have texts := congrArg String.toList same
  rw [letters, letters] at texts
  rcases separated_inj plain.1 plain'.1 texts with ⟨src, texts⟩
  rcases separated_inj (digits_free (by decide) _) (digits_free (by decide) _) texts with
    ⟨sport, texts⟩
  simp only [List.cons.injEq, true_and] at texts
  rcases separated_inj plain.2 plain'.2 texts with ⟨dst, dport⟩
  rw [Row.direction, Row.direction, String.toList_injective src, digits_inj sport,
    String.toList_injective dst, digits_inj dport]

theorem flowKey_eq_iff {first second : Row} (plain : first.Plain) (plain' : second.Plain) :
    first.flowKey = second.flowKey <-> first.direction = second.direction := by
  constructor
  · exact flowKey_inj plain plain'
  · intro same
    simp only [Row.direction, Prod.mk.injEq] at same
    rw [Row.flowKey, Row.flowKey, same.1.1, same.1.2, same.2.1, same.2.2]

section

variable (digests : Digests)

/-- The buffers and the frames of each flow. -/
structure Flows where
  buffers : String -> Option FrameBuffer
  frames : String -> Option (List Frame)

namespace Flows

def start : Flows := ⟨fun _ => none, fun _ => none⟩

/-- One packet.  The frames in front of an error are kept. -/
def follow (flows : Flows) (row : Row) : Flows :=
  if row.payload = [] ∨ row.l4Proto = none then flows
  else
    let key := row.flowKey
    let buffer := (flows.buffers key).getD ⟨[], none⟩
    let drained := (buffer.feed row.payload).drain digests
    let kept := match drained.stop with
      | none => drained.buffer
      | some _ => ⟨[], none⟩  -- not our traffic, or a capture that starts mid-stream
    ⟨Function.update flows.buffers key (some kept),
      Function.update flows.frames key (some ((flows.frames key).getD [] ++ drained.frames))⟩

def run (flows : Flows) (rows : List Row) : Flows := rows.foldl (follow digests) flows

end Flows

/-- Rebuild the messages of each flow. -/
def reassembleFlows (rows : List Row) : String -> Option (List Frame) :=
  (Flows.start.run digests rows).frames

/-! ## One flow -/

/-- What a packet feeds to the buffer of a flow. -/
def Row.piece (key : String) (row : Row) : Option (Piece UInt8) :=
  if row.flowKey = key ∧ row.payload ≠ [] then
    match row.l4Proto with
    | none => none
    | some .tcp => some (.segment row.payload)
    | some .udp => some (.datagram row.payload)
  else none

def pieces (key : String) (rows : List Row) : List (Piece UInt8) := rows.filterMap (Row.piece key)

theorem pieces_append (key : String) (first second : List Row) :
    pieces key (first ++ second) = pieces key first ++ pieces key second := List.filterMap_append

theorem pieces_cons {key : String} {row : Row} {piece : Piece UInt8}
    (fed : row.piece key = some piece) (rows : List Row) :
    pieces key (row :: rows) = piece :: pieces key rows := List.filterMap_cons_some fed

namespace Flows

/-- The octets that a flow waits with, and what has been reported for it. -/
def held (flows : Flows) (key : String) : Bytes := ((flows.buffers key).map FrameBuffer.buf).getD []
def reported (flows : Flows) (key : String) : List Frame := (flows.frames key).getD []

theorem held_update (buffers : String -> Option FrameBuffer) (frames) (key : String)
    (buffer : FrameBuffer) :
    (Flows.mk (Function.update buffers key (some buffer)) frames).held key = buffer.buf := by
  simp [held]

/-- No buffer has a key. -/
def Keyless (flows : Flows) : Prop :=
  forall key buffer, flows.buffers key = some buffer -> buffer.secret = none

theorem keyless_start : start.Keyless := by
  intro key buffer stored
  cases stored

theorem Keyless.buffer_eq {flows : Flows} (keyless : flows.Keyless) (key : String) :
    (flows.buffers key).getD ⟨[], none⟩ = ⟨flows.held key, none⟩ := by
  cases stored : flows.buffers key with
  | none => simp [held, stored]
  | some buffer =>
      have unkeyed := keyless key buffer stored
      rcases buffer with ⟨buf, secret⟩
      simp [held, stored, unkeyed.symm]

theorem piece_eq_some {key : String} {row : Row} {piece : Piece UInt8} :
    row.piece key = some piece <->
      row.flowKey = key ∧ row.payload ≠ [] ∧
        ((row.l4Proto = some .tcp ∧ piece = .segment row.payload) ∨
          (row.l4Proto = some .udp ∧ piece = .datagram row.payload)) := by
  unfold Row.piece
  split
  · rename_i own
    cases row.l4Proto with
    | none => simp
    | some proto => cases proto <;> simp [own, eq_comm]
  · rename_i other
    simp only [reduceCtorEq, false_iff]
    intro own
    exact other ⟨own.1, own.2.1⟩

/-- A packet of another flow, or without a payload, changes nothing. -/
theorem follow_other (flows : Flows) {key : String} {row : Row} (other : row.piece key = none) :
    (flows.follow digests row).held key = flows.held key ∧
      (flows.follow digests row).reported key = flows.reported key := by
  unfold follow
  split
  · exact ⟨rfl, rfl⟩
  · rename_i followed
    rw [not_or] at followed
    have elsewhere : key ≠ row.flowKey := by
      intro same
      rw [Row.piece, if_pos ⟨same.symm, followed.1⟩] at other
      cases proto : row.l4Proto with
      | none => exact followed.2 proto
      | some proto' => cases proto' <;> simp [proto] at other
    simp [held, reported, Function.update_of_ne elsewhere]

/-- A packet of the flow is scanned behind what is held. -/
theorem follow_piece {flows : Flows} (keyless : flows.Keyless) {key : String} {row : Row}
    {piece : Piece UInt8} (own : row.piece key = some piece) :
    (flows.follow digests row).held key =
        (frameScanner digests none).heldAfter (flows.held key) piece.symbols ∧
      (flows.follow digests row).reported key = flows.reported key ++
        ((frameScanner digests none).scan (flows.held key ++ piece.symbols)).items.map Prod.fst := by
  rcases piece_eq_some.mp own with ⟨rfl, loaded, transport⟩
  have symbols : piece.symbols = row.payload := by
    rcases transport with ⟨_, rfl⟩ | ⟨_, rfl⟩ <;> rfl
  have followed : ¬ (row.payload = [] ∨ row.l4Proto = none) := by
    rcases transport with ⟨proto, _⟩ | ⟨proto, _⟩ <;> simp [loaded, proto]
  have drained := FrameBuffer.drain_eq_scan digests ⟨flows.held row.flowKey ++ row.payload, none⟩
  unfold follow
  rw [if_neg followed, symbols]
  dsimp only
  rw [keyless.buffer_eq, FrameBuffer.feed]
  constructor
  · cases stopped : ((frameScanner digests none).scan
        (flows.held row.flowKey ++ row.payload)).stop with
    | none =>
        have rest := drained.2.2 (drained.2.1.trans stopped)
        simp [held_update, Scanner.heldAfter, drained.2.1, stopped, rest]
    | some error => simp [held_update, Scanner.heldAfter, drained.2.1, stopped]
  · simp [drained.1, reported]

theorem Keyless.follow {flows : Flows} (keyless : flows.Keyless) (row : Row) :
    (flows.follow digests row).Keyless := by
  unfold Flows.follow
  split
  · exact keyless
  · intro key buffer stored
    dsimp only at stored
    rw [keyless.buffer_eq, FrameBuffer.feed, Function.update_apply] at stored
    split at stored
    · have drained := FrameBuffer.drain_eq_scan digests
        ⟨flows.held row.flowKey ++ row.payload, none⟩
      split at stored
      · rename_i sound
        cases stored
        rw [drained.2.2 sound]
      · cases stored
        rfl
    · exact keyless key buffer stored

/-- A capture does to one flow what its pieces do to one buffer. -/
theorem run_flow {flows : Flows} (keyless : flows.Keyless) (key : String) (rows : List Row) :
    (flows.run digests rows).held key = (frameScanner digests none).heldBy (flows.held key)
        ((pieces key rows).map Piece.symbols) ∧
      (flows.run digests rows).reported key = flows.reported key ++
        ((frameScanner digests none).restarting (flows.held key)
          ((pieces key rows).map Piece.symbols)).map Prod.fst := by
  induction rows generalizing flows with
  | nil => simp [run, pieces, Scanner.heldBy, Scanner.restarting]
  | cons row rows ih =>
      have later := ih (keyless.follow digests row)
      change ((flows.follow digests row).run digests rows).held key = _ ∧
        ((flows.follow digests row).run digests rows).reported key = _
      cases own : row.piece key with
      | none =>
          have same := follow_other digests flows own
          simpa [pieces, own, same] using later
      | some piece =>
          have step := follow_piece digests keyless own
          rw [later.1, later.2, step.1, step.2]
          simp [pieces, own, Scanner.heldBy, Scanner.restarting]

end Flows
/-! ## A stream -/

/-- The payloads of a direction. -/
def payloads (key : String) (rows : List Row) : List Bytes :=
  (rows.filter fun row => row.flowKey = key).map Row.payload

/-- Among packets without a colon in their addresses, the payloads of a key are
those of one direction. -/
theorem payloads_flowKey {rows : List Row} (plain : forall row, row ∈ rows -> row.Plain) {row : Row}
    (member : row ∈ rows) :
    payloads row.flowKey rows =
      (rows.filter fun other => other.direction = row.direction).map Row.payload := by
  rw [payloads]
  congr 1
  apply List.filter_congr
  intro other present
  exact decide_eq_decide.mpr (flowKey_eq_iff (plain other present) (plain row member))

/-- What a direction's packets carry is what its pieces carry. -/
theorem pieces_of_tcp {rows : List Row} (tcp : forall row, row ∈ rows -> row.l4Proto = some .tcp)
    (key : String) :
    (pieces key rows).map Piece.symbols = (payloads key rows).filter (· ≠ []) := by
  induction rows with
  | nil => rfl
  | cons row rows ih =>
      have proto := tcp row (by simp)
      have later := ih fun other member => tcp other (List.mem_cons_of_mem _ member)
      by_cases own : row.flowKey = key
      · by_cases loaded : row.payload = []
        · have skipped : row.piece key = none := by simp [Row.piece, loaded]
          simpa [pieces, payloads, own, loaded, skipped] using later
        · have fed : row.piece key = some (.segment row.payload) := by
            simp [Row.piece, own, loaded, proto]
          simpa [pieces, payloads, own, loaded, fed, Piece.symbols] using later
      · have skipped : row.piece key = none := by simp [Row.piece, own]
        simpa [pieces, payloads, own, skipped] using later

/-- Behind the packet in which the stream fails no frame is complete, although
the search starts over with the next packet after each error. -/
def Unresumed (packets : List Bytes) : Prop := (frameScanner digests none).Unresumed [] packets

/-- For a TCP direction the analyser reports what a receiver without the key
reads before its first error exactly if nothing can be read behind it.  A key
stands for one direction as long as no address holds a colon. -/
theorem reassembly_agrees_iff {rows : List Row}
    (tcp : forall row, row ∈ rows -> row.l4Proto = some .tcp) (key : String) :
    ((reassembleFlows digests rows key).getD [] =
        ((FrameBuffer.feed ⟨[], none⟩ (payloads key rows).flatten).drain digests).frames <->
      Unresumed digests ((payloads key rows).filter (· ≠ []))) ∧
    ((forall row, row ∈ rows -> row.Plain) -> forall row, row ∈ rows -> row.flowKey = key ->
      payloads key rows =
        (rows.filter fun other => other.direction = row.direction).map Row.payload) := by
  constructor
  · have flow := (Flows.run_flow digests Flows.keyless_start key rows).2
    have drained := (FrameBuffer.drain_eq_scan digests ⟨(payloads key rows).flatten, none⟩).1
    have joined : ((payloads key rows).filter (· ≠ [])).flatten = (payloads key rows).flatten :=
      List.flatten_filter_ne_nil
    have agree := (frameScanner digests none).restarting_eq_scan_iff (Scanner.next_nil _)
      ((payloads key rows).filter (· ≠ []))
    rw [List.nil_append, joined] at agree
    change (Flows.start.run digests rows).reported key = _ <-> _
    rw [flow, pieces_of_tcp tcp, FrameBuffer.feed, List.nil_append, drained, Unresumed, ← agree]
    exact Iff.rfl
  · rintro plain row member rfl
    exact payloads_flowKey plain member

/-! ## Datagrams -/

/-- The frames that a datagram splits into without the key. -/
def splitObserved (data : Bytes) : List Frame :=
  let drained := (FrameBuffer.feed ⟨[], none⟩ data).drain digests
  if drained.stop.isNone ∧ drained.buffer.buf = [] then drained.frames else []

/-- What the receiver of a direction's datagrams would read. -/
def datagramFrames (key : String) (rows : List Row) : List Frame :=
  (rows.filter fun row => row.flowKey = key ∧ row.l4Proto = some .udp).flatMap fun row =>
    splitObserved digests row.payload

/-- Between two packets of a flow, one of which is a datagram, its buffer is
empty. -/
def NeverJoined (key : String) (rows : List Row) : Prop :=
  forall before first between second behind piece other,
    rows = before ++ first :: between ++ second :: behind ->
    first.piece key = some piece -> second.piece key = some other ->
    (forall row, row ∈ between -> row.piece key = none) ->
    piece.isDatagram ∨ other.isDatagram ->
      (Flows.start.run digests (before ++ [first])).held key = []

theorem splitObserved_eq (data : Bytes) :
    splitObserved digests data = ((frameScanner digests none).whole data).map Prod.fst := by
  have drained := FrameBuffer.drain_eq_scan digests ⟨data, none⟩
  unfold splitObserved Scanner.whole
  rw [FrameBuffer.feed, List.nil_append]
  dsimp only at drained ⊢
  rw [drained.1, drained.2.1]
  cases stopped : ((frameScanner digests none).scan data).stop with
  | none =>
      rw [drained.2.2 (drained.2.1.trans stopped)]
      by_cases consumed : ((frameScanner digests none).scan data).rest = [] <;> simp [consumed]
  | some error => simp

theorem splitObserved_nil : splitObserved digests [] = [] := by
  rw [splitObserved_eq, Scanner.whole, Scanner.scan_more _ (Scanner.next_nil _)]
  simp

theorem datagramFrames_eq (key : String) (rows : List Row) :
    datagramFrames digests key rows =
      ((frameScanner digests none).wholes (pieces key rows)).map Prod.fst := by
  induction rows with
  | nil => rfl
  | cons row rows ih =>
      unfold datagramFrames at ih ⊢
      rw [List.filter_cons]
      cases fed : row.piece key with
      | none =>
          have silent : row.flowKey = key -> row.l4Proto = some .udp -> row.payload = [] := by
            intro own proto
            by_contra loaded
            simp [Row.piece, own, proto, loaded] at fed
          have same : pieces key (row :: rows) = pieces key rows := List.filterMap_cons_none fed
          by_cases udp : row.flowKey = key ∧ row.l4Proto = some .udp
          · rw [if_pos (by simpa using udp), List.flatMap_cons, silent udp.1 udp.2,
              splitObserved_nil, List.nil_append, same, ih]
          · rw [if_neg (by simpa using udp), same, ih]
      | some piece =>
          rcases Flows.piece_eq_some.mp fed with ⟨own, _, transport⟩
          rw [pieces_cons fed]
          rcases transport with ⟨proto, rfl⟩ | ⟨proto, rfl⟩
          · rw [if_neg (by simp [proto]), Scanner.wholes_segment, ih]
          · rw [if_pos (by simp [own, proto]), List.flatMap_cons, ih, splitObserved_eq,
              Scanner.wholes_datagram, List.map_append]

theorem held_run (key : String) (rows : List Row) :
    (Flows.start.run digests rows).held key =
      (frameScanner digests none).heldBy [] ((pieces key rows).map Piece.symbols) :=
  (Flows.run_flow digests Flows.keyless_start key rows).1

theorem neverJoined_iff (key : String) (rows : List Row) :
    NeverJoined digests key rows <-> (frameScanner digests none).Unjoined [] (pieces key rows) := by
  rw [Scanner.unjoined_iff _ (fun _ _ _ => rfl)]
  constructor
  · intro never earlier piece other later same either
    rcases List.filterMap_eq_append_iff.mp same with ⟨before, rest, rfl, front, tail⟩
    rcases List.filterMap_eq_cons_iff.mp tail with ⟨skipped, first, rest', rfl, silent, fed, tail'⟩
    rcases List.filterMap_eq_cons_iff.mp tail' with
      ⟨between, second, behind, rfl, quiet, fed', _⟩
    have empty := never (before ++ skipped) first between second behind piece other
      (by simp) fed fed' quiet either
    rw [held_run] at empty
    have nothing : pieces key skipped = [] := List.filterMap_eq_nil_iff.mpr silent
    have own : pieces key (before ++ skipped ++ [first]) = earlier ++ [piece] := by
      rw [pieces_append, pieces_append, nothing, List.append_nil, pieces_cons fed]
      exact congrArg (· ++ [piece]) front
    rw [own] at empty
    exact empty
  · intro everywhere before first between second behind piece other same fed fed' quiet either
    have nothing : pieces key between = [] := List.filterMap_eq_nil_iff.mpr quiet
    have split : pieces key rows = pieces key before ++ piece :: other :: pieces key behind := by
      rw [same, pieces_append, pieces_append, pieces_cons fed, nothing, pieces_cons fed',
        List.append_assoc]
      rfl
    have empty := everywhere _ piece other _ split either
    rw [held_run, pieces_append, pieces_cons fed]
    exact empty

/-- For a UDP direction the analyser reports what the receiver reads from each
datagram, and joins no datagram with anything, exactly if the flow's packets
are apart. -/
theorem datagrams_agree_iff (key : String) (rows : List Row) :
    ((reassembleFlows digests rows key).getD [] = datagramFrames digests key rows ∧
        NeverJoined digests key rows) <->
      (frameScanner digests none).Apart [] (pieces key rows) := by
  have flow := (Flows.run_flow digests Flows.keyless_start key rows).2
  change ((Flows.start.run digests rows).reported key = _ ∧ _) <-> _
  rw [flow, datagramFrames_eq, neverJoined_iff, ← Scanner.restarting_eq_wholes_iff]
  exact Iff.rfl

end

/-! ## Two captures -/

/-- A PING without a payload as the analyser reads it, which does not look at
its MAC. -/
def intactHeader : HeaderFields := ⟨magic, version, MsgType.ping.value, 0, 0, 0, 0⟩
def intact : Bytes := intactHeader.pack ++ List.replicate macSize 0

theorem nextFrame_intact :
    nextFrame Reference.runtime.toDigests none intact = .item ⟨.ping, 0, [], 0⟩ intact.length := by
  have fits : intactHeader.Fits := by constructor <;> decide
  have sized := HeaderFields.length_pack fits
  have front : intact.take headerSize = intactHeader.pack := by
    rw [intact, ← sized, List.take_left]
  have parsed : decodeHeader (intact.take headerSize) = .ok ⟨.ping, 0, 0, 0, 0⟩ := by
    rw [front, decodeHeader_ok_iff, HeaderFields.unpack_pack fits]
    exact ⟨sized, rfl, Nat.zero_le _, (unknownFlags_eq_zero_iff 0).mpr (by decide)⟩
  have counted : (Reference.runtime.crc32 []).toNat = 0 := by decide
  rw [nextFrame_eq]
  apply Layout.next_item_iff.mpr
  refine ⟨_, parsed, by decide, by decide, ?_⟩
  change judgeFrame _ none _ (intact.take headerSize) _ = _
  rw [judgeFrame_observer parsed (by decide), List.take_zero, verifyCrc]
  dsimp only
  rw [if_neg (by simp [counted])]
  rfl

theorem scan_intact :
    (frameScanner Reference.runtime.toDigests none).scan intact =
      ⟨[(⟨.ping, 0, [], 0⟩, intact)], none, []⟩ := by
  rw [Scanner.scan_item _ ((frameScanner_next _ _ _).trans nextFrame_intact), List.drop_length,
    Scanner.scan_more _ (Scanner.next_nil _), List.take_length]
  rfl

/-- Other people's traffic fails with its first header. -/
theorem nextFrame_foreign (digests : Digests) (secret : Option Bytes) (data : Bytes)
    (long : headerSize ≤ data.length)
    (other : (HeaderFields.unpack (data.take headerSize)).magic ≠ magic) :
    ∃ error, nextFrame digests secret data = .fail error := by
  have sized : (data.take headerSize).length = headerSize := List.length_take_of_le long
  have refused : ∃ error, decodeHeader (data.take headerSize) = .error error := by
    unfold decodeHeader
    rw [if_neg (not_not.mpr sized)]
    dsimp only
    rw [if_pos other]
    exact ⟨_, rfl⟩
  rcases refused with ⟨error, refused⟩
  refine ⟨error, ?_⟩
  rw [nextFrame, if_neg (Nat.not_lt.mpr long), refused]

/-- Octets that start no frame. -/
def foreign : Bytes := List.replicate headerSize 0

/-- The packets of one direction. -/
def packetRow (proto : L4Proto) (payload : Bytes) : Row :=
  { ts := 0, l3Src := "10.0.0.10", l3Dst := "10.0.0.20", l4Proto := some proto, l4Sport := 51234,
    l4Dport := 9000, payloadLen := payload.length, payload := payload,
    l7 := tryParseWireline payload }

def packetKey : String := "10.0.0.10:51234 -> 10.0.0.20:9000"

theorem flowKey_packetRow (proto : L4Proto) (payload : Bytes) :
    (packetRow proto payload).flowKey = packetKey := by
  have own : forall row : Row, row.l3Src = "10.0.0.10" -> row.l4Sport = 51234 ->
      row.l3Dst = "10.0.0.20" -> row.l4Dport = 9000 -> row.flowKey = packetKey := by
    intro row src sport dst dport
    rw [Row.flowKey, src, sport, dst, dport]
    decide
  exact own _ rfl rfl rfl rfl

/-- Two packets of the flow, the second of them an intact frame. -/
theorem reported_intact {proto : L4Proto} {payload : Bytes} (loaded : payload ≠ []) :
    (reassembleFlows Reference.runtime.toDigests
        [packetRow proto payload, packetRow proto intact] packetKey).getD [] =
      ((frameScanner Reference.runtime.toDigests none).restarting [] [payload, intact]).map
        Prod.fst := by
  have framed : intact ≠ [] := by decide
  have fed (payload : Bytes) (loaded : payload ≠ []) :
      ∃ piece : Piece UInt8, (packetRow proto payload).piece packetKey = some piece ∧
        piece.symbols = payload := by
    have own : (packetRow proto payload).payload = payload := rfl
    cases proto with
    | tcp => exact ⟨.segment payload, Flows.piece_eq_some.mpr
        ⟨flowKey_packetRow _ _, loaded, .inl ⟨rfl, rfl⟩⟩, rfl⟩
    | udp => exact ⟨.datagram payload, Flows.piece_eq_some.mpr
        ⟨flowKey_packetRow _ _, loaded, .inr ⟨rfl, rfl⟩⟩, rfl⟩
  rcases fed payload loaded with ⟨first, isFirst, carries⟩
  rcases fed intact framed with ⟨second, isSecond, carries'⟩
  refine (Flows.run_flow Reference.runtime.toDigests Flows.keyless_start packetKey _).2.trans ?_
  rw [pieces_cons isFirst, pieces_cons isSecond, List.map_cons, List.map_cons, carries, carries']
  rfl

/-- A frame is reported behind an error. -/
theorem reassembly_resumes :
    (reassembleFlows Reference.runtime.toDigests
        [packetRow .tcp foreign, packetRow .tcp intact] packetKey).getD [] =
        [⟨.ping, 0, [], 0⟩] ∧
      ((FrameBuffer.feed ⟨[], none⟩ (payloads packetKey
          [packetRow .tcp foreign, packetRow .tcp intact]).flatten).drain
        Reference.runtime.toDigests).frames = [] := by
  rcases nextFrame_foreign Reference.runtime.toDigests none foreign (by decide) (by decide) with ⟨error, shown⟩
  have stopped := Scanner.scan_fail (frameScanner Reference.runtime.toDigests none)
    ((frameScanner_next _ _ _).trans shown)
  have behind := ((frameScanner Reference.runtime.toDigests none).scan_append_of_stop
    (congrArg Incremental.Scan.stop stopped) intact).1
  have carried : (payloads packetKey [packetRow .tcp foreign, packetRow .tcp intact]).flatten =
      foreign ++ intact := by
    simp [payloads, flowKey_packetRow]
    rfl
  constructor
  · rw [reported_intact (by decide)]
    simp [Scanner.restarting, Scanner.heldAfter, stopped, scan_intact]
  · rw [(FrameBuffer.drain_eq_scan _ _).1, carried, FrameBuffer.feed, List.nil_append, behind,
      stopped]
    rfl

/-- A packet of the other direction. -/
def answerRow : Row :=
  { packetRow .tcp intact with
    l3Src := "10.0.0.20", l3Dst := "10.0.0.10", l4Sport := 9000, l4Dport := 51234 }

/-- The same two packets with one of the other direction between them. -/
def crossing : List Row := [packetRow .tcp foreign, answerRow, packetRow .tcp intact]

theorem reassembly_agrees_iff_foreign :
    ((reassembleFlows Reference.runtime.toDigests crossing packetKey).getD [] =
        ((FrameBuffer.feed ⟨[], none⟩ (payloads packetKey crossing).flatten).drain
          Reference.runtime.toDigests).frames <->
      Unresumed Reference.runtime.toDigests ((payloads packetKey crossing).filter (· ≠ []))) ∧
    payloads packetKey crossing = [foreign, intact] := by
  have tcp : forall row, row ∈ crossing -> row.l4Proto = some .tcp := by
    simp only [crossing, List.forall_mem_cons, List.not_mem_nil, false_implies, implies_true, and_true]
    exact ⟨rfl, rfl, rfl⟩
  have plain : forall row, row ∈ crossing -> row.Plain := by
    simp only [crossing, List.forall_mem_cons, List.not_mem_nil, false_implies, implies_true, and_true]
    have client : ':' ∉ "10.0.0.10".toList := by decide
    have server : ':' ∉ "10.0.0.20".toList := by decide
    exact ⟨⟨client, server⟩, ⟨server, client⟩, client, server⟩
  have agrees := reassembly_agrees_iff Reference.runtime.toDigests tcp packetKey
  refine ⟨agrees.1, ?_⟩
  rw [agrees.2 plain (packetRow .tcp foreign) List.mem_cons_self (flowKey_packetRow _ _)]
  have apart : answerRow.direction ≠ (packetRow .tcp foreign).direction := by
    change (("10.0.0.20", 9000), "10.0.0.10", 51234) ≠ (("10.0.0.10", 51234), "10.0.0.20", 9000)
    decide
  have along (payload : Bytes) : decide ((packetRow .tcp payload).direction =
      (packetRow .tcp foreign).direction) = true := decide_eq_true rfl
  have across := decide_eq_false apart
  rw [crossing, List.filter_cons, if_pos (along foreign), List.filter_cons,
    if_neg (fun same => Bool.false_ne_true (across.symm.trans same)), List.filter_cons,
    if_pos (along intact)]
  rfl

/-- The first octet of a frame, as a datagram, hides the next datagram. -/
theorem truncated_hides :
    (reassembleFlows Reference.runtime.toDigests
        [packetRow .udp (intact.take 1), packetRow .udp intact] packetKey).getD [] = [] ∧
      datagramFrames Reference.runtime.toDigests packetKey
        [packetRow .udp (intact.take 1), packetRow .udp intact] = [⟨.ping, 0, [], 0⟩] := by
  rcases nextFrame_foreign Reference.runtime.toDigests none (intact.take 1 ++ intact)
    (by decide) (by decide) with ⟨error, shown⟩
  have stopped := Scanner.scan_fail (frameScanner Reference.runtime.toDigests none)
    ((frameScanner_next _ _ _).trans shown)
  have short : (intact.take 1).length < headerSize := by decide
  have waiting := Scanner.scan_more (frameScanner Reference.runtime.toDigests none)
    ((frameScanner_next _ _ _).trans (nextFrame_more_of_short _ short))
  constructor
  · rw [reported_intact (by decide)]
    simp [Scanner.restarting, Scanner.heldAfter, stopped, waiting]
  · have read : splitObserved Reference.runtime.toDigests intact = [⟨.ping, 0, [], 0⟩] := by
      rw [splitObserved_eq, Scanner.whole, scan_intact]
      rfl
    have spoiled : splitObserved Reference.runtime.toDigests (intact.take 1) = [] := by
      rw [splitObserved_eq, Scanner.whole, waiting]
      rfl
    have own (payload : Bytes) : decide ((packetRow .udp payload).flowKey = packetKey ∧
        (packetRow .udp payload).l4Proto = some .udp) = true :=
      decide_eq_true ⟨flowKey_packetRow _ _, rfl⟩
    have both : [packetRow .udp (intact.take 1), packetRow .udp intact].filter
        (fun row => row.flowKey = packetKey ∧ row.l4Proto = some .udp) =
          [packetRow .udp (intact.take 1), packetRow .udp intact] := by
      rw [List.filter_cons, if_pos (own _), List.filter_cons, if_pos (own _), List.filter_nil]
    rw [datagramFrames, both]
    exact congrArg₂ (· ++ ·) spoiled (congrArg (· ++ []) read)

end Wireline
