import Wireline.Reference
import Wireline.Transport.Framing

namespace Wireline

open Incremental ExactReader

/-!
# The readers of a byte stream

The buffer's behaviour depends on the bytes it has been fed and not on where
they were cut, and the buffer and the stream reader find the same frames and
stop for the same reason.  Both are corollaries of the comparison with
`frameScanner`; what remains here is to say them about the source's own calls.
-/

variable (digests : Digests)

namespace FrameBuffer

/-- A scanned frame's own octets are, taken alone, that frame in datagram
mode. -/
theorem decode_of_scan {secret : Option Bytes} {stream own : Bytes} {frame : Frame}
    (member : (frame, own) ∈ ((frameScanner digests secret).scan stream).items) :
    decode digests own secret = .ok frame := by
  have shown := Scanner.next_of_mem_items _ member
  rcases nextFrame_item digests shown with ⟨header, _, sized, _, body⟩
  have cut : own.length - macSize = headerSize + header.length := by omega
  have macOnly : (own.drop (headerSize + header.length)).take macSize =
      own.drop (headerSize + header.length) := by
    apply List.take_of_length_le
    rw [List.length_drop]
    omega
  rw [decode, if_neg (by omega), cut, List.drop_take, Nat.add_sub_cancel_left, ← macOnly]
  exact body

/-- What the scan leaves over has no frame in front. -/
theorem no_frame_left {secret : Option Bytes} (stream : Bytes) (size : Nat) (frame : Frame) :
    decode digests (((frameScanner digests secret).scan stream).rest.take size) secret ≠ .ok frame := by
  intro decoded
  have shown := nextFrame_of_decode digests decoded
    (((frameScanner digests secret).scan stream).rest.drop size)
  have stopped := Scanner.next_rest (frameScanner digests secret) stream
  rw [frameScanner_next] at stopped
  rw [List.take_append_drop, stopped] at shown
  split at shown <;> cases shown

/-- Two ways of cutting one byte string into chunks.  The string is the
octets of the frames that come out and a tail with no frame in front, so a
frame never waits behind its last octet. -/
theorem receive_chunking (secret : Option Bytes) (first second : List Bytes)
    (same : first.flatten = second.flatten) :
    let left := receive digests ⟨[], secret⟩ first
    let right := receive digests ⟨[], secret⟩ second
    left.outputs.flatten = right.outputs.flatten ∧ left.stop = right.stop ∧
      (left.stop = none -> left.buffer.buf = right.buffer.buf) ∧
      ∃ (owned : List (Frame × Bytes)) (tail : Bytes),
        left.outputs.flatten = owned.map Prod.fst ∧
        (forall frame own, (frame, own) ∈ owned -> decode digests own secret = .ok frame) ∧
        first.flatten = (owned.map Prod.snd).flatten ++ tail ∧
        (forall size frame, decode digests (tail.take size) secret ≠ .ok frame) ∧
        (left.stop = none ->
          tail = left.buffer.buf ∧ tail.length < headerSize + maxPayload + macSize) ∧
        forall before chunk later output, first = before ++ chunk :: later ->
          left.outputs[before.length]? = some output ->
          output = ((Scanner.ends 0 owned).filter (fun entry =>
            before.flatten.length < entry.2 ∧
              entry.2 ≤ before.flatten.length + chunk.length)).map Prod.fst := by
  intro left right
  have leftFeed := receive_eq_feed digests secret [] first
  have rightFeed := receive_eq_feed digests secret [] second
  have scanned := (frameScanner digests secret).feed_eq_scan (Scanner.next_nil _) first
  rw [List.nil_append] at scanned
  have agree := (frameScanner digests secret).feed_congr same
  have stops : left.stop = right.stop := by
    rw [leftFeed.2.1, rightFeed.2.1, agree.2.1]
  refine ⟨?_, stops, ?_, ((frameScanner digests secret).scan first.flatten).items,
    ((frameScanner digests secret).scan first.flatten).rest, ?_, ?_, ?_,
    no_frame_left digests first.flatten, ?_, ?_⟩
  · rw [leftFeed.1, rightFeed.1, ← List.map_flatten, ← List.map_flatten, agree.1]
  · intro finished
    rw [leftFeed.2.2 finished, rightFeed.2.2 (stops.symm.trans finished),
      agree.2.2 (leftFeed.2.1.symm.trans finished)]
  · rw [leftFeed.1, ← List.map_flatten, scanned.1]
  · intro frame own member
    exact decode_of_scan digests member
  · exact (Scanner.scan_partition _ first.flatten).symm
  · intro finished
    have feedFinished := leftFeed.2.1.symm.trans finished
    have waiting := Scanner.next_rest (frameScanner digests secret) first.flatten
    rw [← scanned.2.1, feedFinished] at waiting
    exact ⟨(scanned.2.2 feedFinished).symm.trans (leftFeed.2.2 finished).symm,
      length_lt_of_waiting digests waiting⟩
  · rintro before chunk later output rfl delivered
    rw [leftFeed.1, List.getElem?_map] at delivered
    rcases Option.map_eq_some_iff.mp delivered with ⟨items, found, rfl⟩
    exact Scanner.feed_timing _ before chunk later items found

/-- A frame cut inside its payload, and the same frame whole. -/
theorem receive_chunking_halves : ∃ raw,
    encode Reference.runtime.toDigests Reference.greeting Reference.secret = .ok raw ∧
      let left := receive Reference.runtime.toDigests ⟨[], some Reference.secret⟩
        [raw.take 30, raw.drop 30]
      let right := receive Reference.runtime.toDigests ⟨[], some Reference.secret⟩ [raw]
      right.outputs.flatten = [Reference.greeting] ∧
        left.outputs.flatten = [Reference.greeting] ∧ left.stop = none ∧ left.buffer.buf = [] ∧
        forall output, left.outputs[0]? = some output -> output = [] := by
  have encodable : Encodable Reference.greeting := by decide
  rcases exists_encode Reference.runtime.toDigests encodable Reference.secret with ⟨raw, encoded⟩
  refine ⟨raw, encoded, ?_⟩
  have same : [raw.take 30, raw.drop 30].flatten = [raw].flatten := by
    rw [List.flatten_cons, List.flatten_cons, List.flatten_nil, List.append_nil,
      List.take_append_drop, List.flatten_singleton]
  rcases receive_chunking Reference.runtime.toDigests (some Reference.secret) _ _ same with
    ⟨outputs, stops, leftover, owned, tail, out, decodes, _, _, _, timing⟩
  have run := receive_eq_feed Reference.runtime.toDigests (some Reference.secret) [] [raw]
  have scanned := (frameScanner Reference.runtime.toDigests (some Reference.secret)).feed_eq_scan
    (Scanner.next_nil _) [raw]
  have found := scan_join Reference.runtime.toDigests
    (join_single Reference.runtime.toDigests encoded)
  rw [List.flatten_singleton, List.nil_append] at scanned
  have rightStop := run.2.1.trans (scanned.2.1.trans found.2.1)
  have rightOut : (receive Reference.runtime.toDigests ⟨[], some Reference.secret⟩ [raw]).outputs.flatten =
      [Reference.greeting] := by
    rw [run.1, ← List.map_flatten, scanned.1, found.1]
  have rightBuf := (run.2.2 rightStop).trans
    ((scanned.2.2 (run.2.1.symm.trans rightStop)).trans found.2.2)
  have leftStop := stops.trans rightStop
  refine ⟨rightOut, outputs.trans rightOut, leftStop, (leftover leftStop).trans rightBuf, ?_⟩
  intro output first
  -- the only frame ends behind the first half
  have single := out.symm.trans (outputs.trans rightOut)
  rcases List.map_eq_singleton_iff.mp single with ⟨⟨frame, own⟩, alone, greets⟩
  have decoded := decodes frame own (by rw [alone]; exact List.mem_singleton_self _)
  have sized := length_of_encode Reference.runtime.toDigests
    (encode_of_decode Reference.runtime.toDigests decoded)
  have long : 30 < own.length := by
    rw [sized, show frame = Reference.greeting from greets]
    decide
  have half : (raw.take 30).length ≤ 30 := List.length_take_le 30 raw
  rw [timing [] (raw.take 30) [raw.drop 30] output rfl first, alone, Scanner.ends, Scanner.ends,
    List.filter_cons_of_neg]
  · rfl
  · simp only [List.flatten_nil, List.length_nil, decide_eq_true_eq]
    omega

end FrameBuffer

/-- The stream reader and the buffer see the same frames, and stop with the
same error or, both, for want of octets. -/
theorem readFrame_agrees_with_frameBuffer (secret stream : Bytes) :
    let reading := (readFrame digests secret).readAll
      (readFrame_implements digests secret).consuming stream
    let drained := (FrameBuffer.feed ⟨[], some secret⟩ stream).drain digests
    reading.values = drained.frames ∧ reading.stop = drained.stop ∧
      forall size, size ∈ reading.asked -> size ≤ maxPayload := by
  have read := (readFrame_implements digests secret).readAll_values stream
  have drained := FrameBuffer.drain_eq_scan digests ⟨stream, some secret⟩
  refine ⟨read.1.trans drained.1.symm, read.2.trans drained.2.1.symm, ?_⟩
  exact Pull.readAll_asked_le _ _ (readFrame_asksAtMost digests secret) stream

end Wireline
