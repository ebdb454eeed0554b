import Wireline.Library.ExactReader
import Wireline.Library.LengthPrefixed
import Wireline.Protocol.ErrorTexts

namespace Wireline

open Incremental ExactReader

/-!
# Turning a byte stream back into frames

`FrameBuffer` holds what has arrived and pops what is complete; `readFrame`
asks an asyncio stream for the three parts of one frame.  Both make the same
decision at the front of the stream.  `frameScanner` states that decision
once, with the laws of an incremental scanner, and the two readers are
compared with it rather than with each other.
-/

section

variable (digests : Digests)

/-! ## The buffer -/

structure FrameBuffer where
  buf : Bytes
  secret : Option Bytes

namespace FrameBuffer

def feed (buffer : FrameBuffer) (chunk : Bytes) : FrameBuffer :=
  { buffer with buf := buffer.buf ++ chunk }

/-- The next complete frame, or `none` if more octets are needed.  A header
that fails its checks stays in the buffer; a complete frame leaves it before
its body is checked. -/
def pop (buffer : FrameBuffer) : FrameBuffer × Except ProtocolError (Option Frame) :=
  if buffer.buf.length < headerSize then (buffer, .ok none)
  else
    let rawHeader := buffer.buf.take headerSize
    match decodeHeader rawHeader with
    | .error error => (buffer, .error error)
    | .ok header =>
        let total := headerSize + header.length + macSize
        if buffer.buf.length < total then (buffer, .ok none)
        else
          let payload := (buffer.buf.drop headerSize).take header.length
          let mac := (buffer.buf.drop (headerSize + header.length)).take macSize
          let popped := { buffer with buf := buffer.buf.drop total }
          match decodeFrame digests rawHeader payload mac buffer.secret with
          | .error error => (popped, .error error)
          | .ok frame => (popped, .ok (some frame))

theorem length_pop {buffer popped : FrameBuffer} {frame : Frame}
    (returned : buffer.pop digests = (popped, .ok (some frame))) :
    popped.buf.length < buffer.buf.length := by
  unfold pop at returned
  split at returned
  · cases returned
  · rename_i complete
    dsimp only at returned
    split at returned
    · cases returned
    · split at returned
      · cases returned
      · split at returned
        · cases returned
        · cases returned
          simp only [headerSize] at complete
          simp only [headerSize, macSize, List.length_drop]
          omega

/-- What iterating `drain` yields, the error that ends the iteration if there
is one, and the buffer it leaves. -/
structure Drained where
  frames : List Frame
  stop : Option ProtocolError
  buffer : FrameBuffer

/-- Yield every frame that is currently complete. -/
def drain (buffer : FrameBuffer) : Drained :=
  match _popped : buffer.pop digests with
  | (rest, .error error) => ⟨[], some error, rest⟩
  | (rest, .ok none) => ⟨[], none, rest⟩
  | (rest, .ok (some frame)) =>
      let tail := drain rest
      { tail with frames := frame :: tail.frames }
termination_by buffer.buf.length
decreasing_by exact length_pop digests _popped

end FrameBuffer

/-! ## The stream reader -/

/-- Read exactly one frame: the header, the body it announces, the MAC. -/
def readFrame (secret : Bytes) : Pull UInt8 ProtocolError Frame :=
  .readexactly headerSize fun rawHeader =>
    match decodeHeader rawHeader with
    | .error error => .fail error
    | .ok header =>
        let finish (payload : Bytes) : Pull UInt8 ProtocolError Frame :=
          .readexactly macSize fun mac =>
            match decodeFrame digests rawHeader payload mac (some secret) with
            | .error error => .fail error
            | .ok frame => .done frame
        if header.length ≠ 0 then .readexactly header.length finish else finish []

/-! ## The decision at the front of a stream -/

/-- What the front of a stream shows to a reader with this secret. -/
def nextFrame (secret : Option Bytes) (buffer : Bytes) : Progress ProtocolError Frame :=
  if buffer.length < headerSize then .more
  else
    match decodeHeader (buffer.take headerSize) with
    | .error error => .fail error
    | .ok header =>
        if buffer.length < headerSize + header.length + macSize then .more
        else
          match decodeFrame digests (buffer.take headerSize)
            ((buffer.drop headerSize).take header.length)
            ((buffer.drop (headerSize + header.length)).take macSize) secret with
          | .error error => .fail error
          | .ok frame => .item frame (headerSize + header.length + macSize)

/-- The layout of a frame: the body is the payload and the MAC. -/
def frameLayout : Layout UInt8 ProtocolError Header where
  headerSize := headerSize
  positive := by decide
  header := decodeHeader
  bodySize header := header.length + macSize

/-- Both parts of the body, checked under the secret. -/
def judgeFrame (secret : Option Bytes) (header : Header) (rawHeader body : Bytes) :
    Except ProtocolError Frame :=
  decodeFrame digests rawHeader (body.take header.length) (body.drop header.length) secret

theorem nextFrame_eq (secret : Option Bytes) (buffer : Bytes) :
    nextFrame digests secret buffer = frameLayout.next (judgeFrame digests secret) buffer := by
  have payload (length : Nat) : ((buffer.drop headerSize).take (length + macSize)).take length =
      (buffer.drop headerSize).take length := by
    simp [List.take_take]
  have mac (length : Nat) : ((buffer.drop headerSize).take (length + macSize)).drop length =
      (buffer.drop (headerSize + length)).take macSize := by
    simp [List.drop_take, List.drop_drop]
  simp only [nextFrame, Layout.next, frameLayout, judgeFrame, payload, mac, Nat.add_assoc]
  cases decodeHeader (buffer.take headerSize) with
  | error error => rfl
  | ok header =>
      dsimp only
      cases decodeFrame digests (buffer.take headerSize)
        ((buffer.drop headerSize).take header.length)
        ((buffer.drop (headerSize + header.length)).take macSize) secret <;> rfl

theorem nextFrame_more_of_short {secret : Option Bytes} {buffer : Bytes}
    (short : buffer.length < headerSize) : nextFrame digests secret buffer = .more := by
  rw [nextFrame, if_pos short]

/-- A visible frame is present in full, with the size its header announces. -/
theorem nextFrame_item {secret : Option Bytes} {buffer : Bytes} {frame : Frame} {size : Nat}
    (shown : nextFrame digests secret buffer = .item frame size) :
    ∃ header, decodeHeader (buffer.take headerSize) = .ok header ∧
      size = headerSize + header.length + macSize ∧ size ≤ buffer.length ∧
      decodeFrame digests (buffer.take headerSize) ((buffer.drop headerSize).take header.length)
        ((buffer.drop (headerSize + header.length)).take macSize) secret = .ok frame := by
  have whole := shown
  rw [nextFrame_eq] at whole
  rcases Layout.next_item_iff.mp whole with ⟨header, parsed, sized, present, _⟩
  have size_eq : size = headerSize + header.length + macSize := by
    rw [sized, Nat.add_assoc]
    rfl
  refine ⟨header, parsed, size_eq, present, ?_⟩
  rw [nextFrame, if_neg (by omega), show decodeHeader (buffer.take headerSize) = .ok header from
    parsed] at shown
  dsimp only at shown
  rw [if_neg (by omega)] at shown
  split at shown
  · cases shown
  · rename_i body
    cases shown
    exact body

theorem nextFrame_nil {secret : Option Bytes} : nextFrame digests secret [] = .more :=
  nextFrame_more_of_short digests (by decide)

/-- Later octets do not change a frame that is visible. -/
theorem nextFrame_item_append {secret : Option Bytes} {buffer : Bytes} {frame : Frame} {size : Nat}
    (shown : nextFrame digests secret buffer = .item frame size) (later : Bytes) :
    nextFrame digests secret (buffer ++ later) = .item frame size := by
  rw [nextFrame_eq] at shown ⊢
  exact Layout.next_item_append shown later

/-- Later octets do not repair a failure. -/
theorem nextFrame_fail_append {secret : Option Bytes} {buffer : Bytes} {error : ProtocolError}
    (failed : nextFrame digests secret buffer = .fail error) (later : Bytes) :
    nextFrame digests secret (buffer ++ later) = .fail error := by
  rw [nextFrame_eq] at failed ⊢
  exact Layout.next_fail_append failed later

/-- A visible frame is visible with its last octet. -/
theorem nextFrame_item_of_append {secret : Option Bytes} {buffer later : Bytes} {frame : Frame}
    {size : Nat} (shown : nextFrame digests secret (buffer ++ later) = .item frame size)
    (present : size ≤ buffer.length) : nextFrame digests secret buffer = .item frame size := by
  rw [nextFrame_eq] at shown ⊢
  exact Layout.next_item_of_append shown present

theorem nextFrame_size_pos {secret : Option Bytes} {buffer : Bytes} {frame : Frame} {size : Nat}
    (shown : nextFrame digests secret buffer = .item frame size) : 0 < size := by
  rw [nextFrame_eq] at shown
  exact Layout.next_size_pos shown

theorem nextFrame_size_le {secret : Option Bytes} {buffer : Bytes} {frame : Frame} {size : Nat}
    (shown : nextFrame digests secret buffer = .item frame size) : size ≤ buffer.length := by
  rw [nextFrame_eq] at shown
  exact Layout.next_size_le shown

/-- The front of a stream as an incremental scanner.  The header alone fixes
the size of a frame, so a frame is visible with its last octet. -/
def frameScanner (secret : Option Bytes) : Scanner UInt8 ProtocolError Frame where
  next := nextFrame digests secret
  next_nil := nextFrame_nil digests
  size_pos := nextFrame_size_pos digests
  size_le := nextFrame_size_le digests
  item_append := nextFrame_item_append digests
  item_of_append := nextFrame_item_of_append digests
  fail_append := nextFrame_fail_append digests

@[simp] theorem frameScanner_next (secret : Option Bytes) (buffer : Bytes) :
    (frameScanner digests secret).next buffer = nextFrame digests secret buffer := rfl

/-- A buffer that waits for more holds less than one frame of the largest
size, because an oversized length has already been refused. -/
theorem length_lt_of_waiting {secret : Option Bytes} {buffer : Bytes}
    (waiting : nextFrame digests secret buffer = .more) :
    buffer.length < headerSize + maxPayload + macSize := by
  by_cases short : buffer.length < headerSize
  · omega
  · rw [nextFrame, if_neg short] at waiting
    cases parsed : decodeHeader (buffer.take headerSize) with
    | error error =>
        rw [parsed] at waiting
        cases waiting
    | ok header =>
        have limit := ((decodeHeader_ok_iff _ header).mp parsed).2.2.1
        rw [parsed] at waiting
        dsimp only at waiting
        by_cases partly : buffer.length < headerSize + header.length + macSize
        · omega
        · rw [if_neg partly] at waiting
          split at waiting <;> cases waiting

/-- The errors at the front of a stream have short texts: the decoder never
gets parts of other sizes than it has announced. -/
theorem nextFrame_short {secret : Option Bytes} {buffer : Bytes} {error : ProtocolError}
    (shown : nextFrame digests secret buffer = .fail error) : ShortText error.message := by
  by_cases short : buffer.length < headerSize
  · rw [nextFrame_more_of_short digests short] at shown
    cases shown
  · have sized : (buffer.take headerSize).length = headerSize :=
      List.length_take_of_le (Nat.le_of_not_lt short)
    rw [nextFrame, if_neg short] at shown
    cases parsed : decodeHeader (buffer.take headerSize) with
    | error raised =>
        rw [parsed] at shown
        cases shown
        exact decodeHeader_short sized parsed
    | ok header =>
        rw [parsed] at shown
        dsimp only at shown
        by_cases partly : buffer.length < headerSize + header.length + macSize
        · rw [if_pos partly] at shown
          cases shown
        · rw [if_neg partly] at shown
          have body : ((buffer.drop headerSize).take header.length).length = header.length := by
            rw [List.length_take, List.length_drop]
            omega
          have mac : ((buffer.drop (headerSize + header.length)).take macSize).length = macSize := by
            rw [List.length_take, List.length_drop]
            omega
          cases decoded : decodeFrame digests (buffer.take headerSize)
              ((buffer.drop headerSize).take header.length)
              ((buffer.drop (headerSize + header.length)).take macSize) secret with
          | error raised =>
              rw [decoded] at shown
              cases shown
              exact decodeFrame_short parsed body mac decoded
          | ok frame =>
              rw [decoded] at shown
              cases shown

/-- Octets that decode to a frame are seen at the front as that frame, with
exactly their own size. -/
theorem nextFrame_of_decode {secret : Option Bytes} {raw : Bytes} {frame : Frame}
    (decoded : decode digests raw secret = .ok frame) (later : Bytes) :
    nextFrame digests secret (raw ++ later) = .item frame raw.length := by
  rcases (decode_ok_iff digests raw secret frame).mp decoded with ⟨checks, mac, authentic, same⟩
  have headerSized := length_frameHeader_pack digests frame
  have sized : raw.length = headerSize + frame.payload.length + macSize := by
    rw [same, List.length_append, List.length_append, headerSized, authentic.1]
  have front : raw.take headerSize = (frameHeader digests frame).pack := by
    rw [same, List.append_assoc, List.take_left' headerSized]
  have body : (raw.drop headerSize).take frame.payload.length = frame.payload := by
    rw [same, List.append_assoc, List.drop_left' headerSized, List.take_left]
  have tail : (raw.drop (headerSize + frame.payload.length)).take macSize = mac := by
    rw [same, List.drop_left' (by rw [List.length_append, headerSized])]
    exact List.take_of_length_le (Nat.le_of_eq authentic.1)
  have alone : nextFrame digests secret raw = .item frame raw.length := by
    have whole := (decodeFrame_ok_iff digests _ _ _ secret frame).mpr ⟨checks, rfl, rfl, authentic⟩
    rw [nextFrame, if_neg (by omega), front, decodeHeader_frameHeader digests checks]
    dsimp only
    rw [if_neg (by omega), body, tail, whole, sized]
  exact nextFrame_item_append digests alone later

/-- An encoded frame at the front is seen with exactly its own octets. -/
theorem nextFrame_of_encode {secret raw : Bytes} {frame : Frame}
    (encoded : encode digests frame secret = .ok raw) (later : Bytes) :
    nextFrame digests (some secret) (raw ++ later) = .item frame raw.length :=
  nextFrame_of_decode digests (decode_of_encode digests encoded) later

/-! ## Both readers make this decision -/

/-- `pop` performs the decision on its buffer.  After an error the buffer is
of no further use, so nothing is said about it. -/
theorem FrameBuffer.pop_eq (buffer : FrameBuffer) :
    match nextFrame digests buffer.secret buffer.buf with
    | .more => buffer.pop digests = (buffer, .ok none)
    | .fail error => (buffer.pop digests).2 = .error error
    | .item frame size =>
        buffer.pop digests = ({ buffer with buf := buffer.buf.drop size }, .ok (some frame)) := by
  unfold nextFrame pop
  by_cases short : buffer.buf.length < headerSize
  · simp [short]
  · cases parsed : decodeHeader (buffer.buf.take headerSize) with
    | error error => simp [short, parsed]
    | ok header =>
        by_cases partly : buffer.buf.length < headerSize + header.length + macSize
        · simp [short, parsed, partly]
        · cases body : decodeFrame digests (buffer.buf.take headerSize)
              ((buffer.buf.drop headerSize).take header.length)
              ((buffer.buf.drop (headerSize + header.length)).take macSize) buffer.secret <;>
            simp [short, parsed, partly, body]

namespace FrameBuffer

/-- Iterating `drain` finds what a scan of the buffer finds. -/
theorem drain_eq_scan (buffer : FrameBuffer) :
    (buffer.drain digests).frames =
        ((frameScanner digests buffer.secret).scan buffer.buf).items.map Prod.fst ∧
      (buffer.drain digests).stop = ((frameScanner digests buffer.secret).scan buffer.buf).stop ∧
      ((buffer.drain digests).stop = none ->
        (buffer.drain digests).buffer =
          ⟨((frameScanner digests buffer.secret).scan buffer.buf).rest, buffer.secret⟩) := by
  rcases buffer with ⟨buf, secret⟩
  induction buf using (frameScanner digests secret).scan_induction with
  | more buf shown =>
      have popped := pop_eq digests ⟨buf, secret⟩
      rw [frameScanner_next] at shown
      dsimp only at popped ⊢
      rw [shown] at popped
      rw [Scanner.scan_more _ shown]
      unfold drain
      split <;> simp_all
  | fail buf error shown =>
      have popped := pop_eq digests ⟨buf, secret⟩
      rw [frameScanner_next] at shown
      dsimp only at popped ⊢
      rw [shown] at popped
      rw [Scanner.scan_fail _ shown]
      unfold drain
      split <;> simp_all
  | item buf frame size shown ih =>
      have popped := pop_eq digests ⟨buf, secret⟩
      rw [frameScanner_next] at shown
      dsimp only at popped ih ⊢
      rw [shown] at popped
      rw [Scanner.scan_item _ shown]
      unfold drain
      split <;> simp_all

/-- What a receiver collects from chunks, one list of frames after each. -/
structure Received where
  outputs : List (List Frame)
  stop : Option ProtocolError
  buffer : FrameBuffer

/-- Feed each chunk and drain after it, up to the first error. -/
def receive (buffer : FrameBuffer) : List Bytes -> Received
  | [] => ⟨[], none, buffer⟩
  | chunk :: chunks =>
      let drained := (buffer.feed chunk).drain digests
      match drained.stop with
      | some error => ⟨[drained.frames], some error, drained.buffer⟩
      | none =>
          let tail := receive drained.buffer chunks
          { tail with outputs := drained.frames :: tail.outputs }

theorem receive_eq_feed (secret : Option Bytes) (buf : Bytes) (chunks : List Bytes) :
    (receive digests ⟨buf, secret⟩ chunks).outputs =
        ((frameScanner digests secret).feed buf chunks).outputs.map (List.map Prod.fst) ∧
      (receive digests ⟨buf, secret⟩ chunks).stop =
        ((frameScanner digests secret).feed buf chunks).stop ∧
      ((receive digests ⟨buf, secret⟩ chunks).stop = none ->
        (receive digests ⟨buf, secret⟩ chunks).buffer.buf =
          ((frameScanner digests secret).feed buf chunks).rest) := by
  induction chunks generalizing buf with
  | nil => simp [receive, Scanner.feed]
  | cons chunk chunks ih =>
      have drained := drain_eq_scan digests ⟨buf ++ chunk, secret⟩
      cases stopped : ((frameScanner digests secret).scan (buf ++ chunk)).stop with
      | some error => simp [receive, Scanner.feed, feed, drained, stopped]
      | none =>
          have rest := drained.2.2 (drained.2.1.trans stopped)
          have tail := ih ((frameScanner digests secret).scan (buf ++ chunk)).rest
          simp only [receive, Scanner.feed, feed, drained.1, drained.2.1, rest, stopped,
            List.map_cons]
          exact ⟨congrArg _ tail.1, tail.2.1, tail.2.2⟩

end FrameBuffer

private theorem run_finish (secret : Bytes) (rawHeader payload stream : Bytes) :
    (Pull.readexactly macSize fun mac =>
        match decodeFrame digests rawHeader payload mac (some secret) with
        | .error error => .fail error
        | .ok frame => Pull.done frame : Pull UInt8 ProtocolError Frame).run stream =
      if macSize ≤ stream.length then
        match decodeFrame digests rawHeader payload (stream.take macSize) (some secret) with
        | .error error => (.raised error, stream.drop macSize)
        | .ok frame => (.returned frame, stream.drop macSize)
      else (.incomplete, []) := by
  rw [Pull.run]
  split
  · cases decodeFrame digests rawHeader payload (stream.take macSize) (some secret) <;> rfl
  · rfl

/-- The empty payload is not asked for, which reads the same octets. -/
private theorem run_optional (size : Nat) (finish : Bytes -> Pull UInt8 ProtocolError Frame)
    (stream : Bytes) :
    (if size ≠ 0 then Pull.readexactly size finish else finish []).run stream =
      if size ≤ stream.length then (finish (stream.take size)).run (stream.drop size)
      else (.incomplete, []) := by
  by_cases empty : size = 0
  · rw [if_neg (not_not.mpr empty), empty, if_pos (Nat.zero_le _), List.take_zero, List.drop_zero]
  · rw [if_pos empty, Pull.run]

/-- Reading in three steps consumes what the decision sees at once. -/
theorem run_readFrame (secret stream : Bytes) :
    (readFrame digests secret).run stream =
      if headerSize ≤ stream.length then
        match decodeHeader (stream.take headerSize) with
        | .error error => (.raised error, stream.drop headerSize)
        | .ok header =>
            if headerSize + header.length + macSize ≤ stream.length then
              match decodeFrame digests (stream.take headerSize)
                ((stream.drop headerSize).take header.length)
                ((stream.drop (headerSize + header.length)).take macSize) (some secret) with
              | .error error =>
                  (.raised error, stream.drop (headerSize + header.length + macSize))
              | .ok frame => (.returned frame, stream.drop (headerSize + header.length + macSize))
            else (.incomplete, [])
      else (.incomplete, []) := by
  rw [readFrame, Pull.run]
  by_cases complete : headerSize ≤ stream.length
  · rw [if_pos complete, if_pos complete]
    cases parsed : decodeHeader (stream.take headerSize) with
    | error error => rfl
    | ok header =>
        dsimp only
        rw [run_optional, List.length_drop]
        by_cases body : headerSize + header.length ≤ stream.length
        · rw [if_pos (by omega), run_finish, List.length_drop, List.length_drop, List.drop_drop,
            List.drop_drop]
          by_cases whole : headerSize + header.length + macSize ≤ stream.length
          · rw [if_pos (by omega), if_pos whole]
          · rw [if_neg (by omega), if_neg whole]
        · rw [if_neg (by omega), if_neg (by omega)]
  · rw [if_neg complete, if_neg complete]

theorem readFrame_implements (secret : Bytes) :
    (readFrame digests secret).Implements (frameScanner digests (some secret)) := by
  have decision (stream : Bytes) :
      match nextFrame digests (some secret) stream with
      | .more => ((readFrame digests secret).run stream).1 = .incomplete
      | .fail error => ((readFrame digests secret).run stream).1 = .raised error
      | .item frame size =>
          (readFrame digests secret).run stream = (.returned frame, stream.drop size) := by
    rw [run_readFrame, nextFrame]
    by_cases short : stream.length < headerSize
    · rw [if_pos short, if_neg (Nat.not_le_of_lt short)]
    · rw [if_neg short, if_pos (Nat.le_of_not_lt short)]
      cases decodeHeader (stream.take headerSize) with
      | error error => rfl
      | ok header =>
          dsimp only
          by_cases partly : stream.length < headerSize + header.length + macSize
          · rw [if_pos partly, if_neg (Nat.not_le_of_lt partly)]
          · rw [if_neg partly, if_pos (Nat.le_of_not_lt partly)]
            cases decodeFrame digests (stream.take headerSize)
              ((stream.drop headerSize).take header.length)
              ((stream.drop (headerSize + header.length)).take macSize) (some secret) <;> rfl
  constructor
  · intro stream shown
    have decided := decision stream
    rw [frameScanner_next] at shown
    rwa [shown] at decided
  · intro stream error shown
    have decided := decision stream
    rw [frameScanner_next] at shown
    rwa [shown] at decided
  · intro stream frame size shown
    have decided := decision stream
    rw [frameScanner_next] at shown
    rwa [shown] at decided

/-- No request exceeds the payload limit, whatever the peer sends: the
length is checked before the body is asked for. -/
theorem readFrame_asksAtMost (secret : Bytes) :
    (readFrame digests secret).AsksAtMost maxPayload := by
  refine ⟨by decide, ?_⟩
  intro rawHeader _
  dsimp only
  cases parsed : decodeHeader rawHeader with
  | error error => trivial
  | ok header =>
      have limit := ((decodeHeader_ok_iff rawHeader header).mp parsed).2.2.1
      have finish (payload : Bytes) :
          (Pull.readexactly macSize fun mac =>
            match decodeFrame digests rawHeader payload mac (some secret) with
            | .error error => .fail error
            | .ok frame => Pull.done frame : Pull UInt8 ProtocolError Frame).AsksAtMost
              maxPayload := by
        refine ⟨by decide, ?_⟩
        intro mac _
        dsimp only
        cases decodeFrame digests rawHeader payload mac (some secret) <;> trivial
      dsimp only
      by_cases empty : header.length = 0
      · rw [if_neg (not_not.mpr empty)]
        exact finish []
      · rw [if_pos empty]
        exact ⟨limit, fun payload _ => finish payload⟩

/-! ## Frames back to back -/

/-- `b"".join(encode(f, secret) for f in frames)`. -/
def join (secret : Bytes) : List Frame -> Except ProtocolError Bytes
  | [] => .ok []
  | frame :: frames => do
      let data <- encode digests frame secret
      let rest <- join secret frames
      .ok (data ++ rest)

/-- Encodable frames can be joined. -/
theorem exists_join (secret : Bytes) {frames : List Frame}
    (encodable : forall frame, frame ∈ frames -> Encodable frame) :
    ∃ data, join digests secret frames = .ok data := by
  induction frames with
  | nil => exact ⟨[], rfl⟩
  | cons frame frames ih =>
      rcases exists_encode digests (encodable frame List.mem_cons_self) secret with ⟨data, encoded⟩
      rcases ih (fun other member => encodable other (List.mem_cons_of_mem frame member)) with
        ⟨rest, joined⟩
      refine ⟨data ++ rest, ?_⟩
      rw [join, encoded, joined]
      rfl

theorem join_cons {secret data : Bytes} {frame : Frame} {frames : List Frame}
    (joined : join digests secret (frame :: frames) = .ok data) :
    ∃ first rest, encode digests frame secret = .ok first ∧
      join digests secret frames = .ok rest ∧ data = first ++ rest := by
  rw [join] at joined
  cases encoded : encode digests frame secret with
  | error error =>
      rw [encoded] at joined
      cases joined
  | ok first =>
      rw [encoded] at joined
      cases tail : join digests secret frames with
      | error error =>
          rw [tail] at joined
          cases joined
      | ok rest =>
          rw [tail] at joined
          cases joined
          exact ⟨first, rest, rfl, rfl, rfl⟩

theorem encodable_of_join {secret data : Bytes} {frames : List Frame}
    (joined : join digests secret frames = .ok data) {frame : Frame} (member : frame ∈ frames) :
    Encodable frame := by
  induction frames generalizing data with
  | nil => cases member
  | cons head frames ih =>
      rcases join_cons digests joined with ⟨first, rest, encoded, others, _⟩
      rcases List.mem_cons.mp member with rfl | later
      · exact ((encode_ok_iff digests _ _ _).mp encoded).1
      · exact ih others later

theorem scan_join {secret data : Bytes} {frames : List Frame}
    (joined : join digests secret frames = .ok data) :
    ((frameScanner digests (some secret)).scan data).items.map Prod.fst = frames ∧
      ((frameScanner digests (some secret)).scan data).stop = none ∧
      ((frameScanner digests (some secret)).scan data).rest = [] := by
  induction frames generalizing data with
  | nil =>
      cases joined
      rw [Scanner.scan_more _ (Scanner.next_nil _)]
      exact ⟨rfl, rfl, rfl⟩
  | cons frame frames ih =>
      rcases join_cons digests joined with ⟨first, rest, encoded, tail, rfl⟩
      have shown := nextFrame_of_encode digests encoded rest
      have remaining := ih tail
      rw [Scanner.scan_item (frameScanner digests (some secret)) shown, List.drop_left]
      exact ⟨congrArg _ remaining.1, remaining.2⟩

/-- A visible frame is the encoding of that frame. -/
theorem encode_of_nextFrame {secret buffer : Bytes} {frame : Frame} {size : Nat}
    (shown : nextFrame digests (some secret) buffer = .item frame size) :
    encode digests frame secret = .ok (buffer.take size) := by
  rcases nextFrame_item digests shown with ⟨header, _, sized, _, body⟩
  rcases (decodeFrame_ok_iff digests _ _ _ _ frame).mp body with ⟨checks, front, middle, authentic⟩
  have parts : buffer.take size = buffer.take headerSize ++
      (buffer.drop headerSize).take header.length ++
        (buffer.drop (headerSize + header.length)).take macSize := by
    rw [sized, List.take_add, List.take_add]
  rw [encode_ok_iff]
  refine ⟨checks, ?_⟩
  have signed := authentic.2 secret rfl
  rw [parts, ← signed, ← front, ← middle]

theorem join_of_scan {secret : Bytes} (data : Bytes)
    (complete : ((frameScanner digests (some secret)).scan data).stop = none)
    (whole : ((frameScanner digests (some secret)).scan data).rest = []) :
    join digests secret (((frameScanner digests (some secret)).scan data).items.map Prod.fst) =
      .ok data := by
  induction data using (frameScanner digests (some secret)).scan_induction with
  | more buffer shown =>
      rw [Scanner.scan_more _ shown] at whole ⊢
      rw [show buffer = [] from whole]
      rfl
  | fail buffer error shown =>
      rw [Scanner.scan_fail _ shown] at complete
      cases complete
  | item buffer frame size shown ih =>
      rw [Scanner.scan_item _ shown] at complete whole ⊢
      have encoded := encode_of_nextFrame digests shown
      have rest := ih complete whole
      rw [Scan.after_items, List.singleton_append, List.map_cons, join, encoded, rest]
      exact congrArg Except.ok (List.take_append_drop size buffer)

theorem join_append {secret first second : Bytes} {frames others : List Frame}
    (front : join digests secret frames = .ok first) (back : join digests secret others = .ok second) :
    join digests secret (frames ++ others) = .ok (first ++ second) := by
  induction frames generalizing first with
  | nil =>
      cases front
      exact back
  | cons frame frames ih =>
      rcases join_cons digests front with ⟨own, rest, encoded, tail, rfl⟩
      rw [List.cons_append, join, encoded, ih tail, List.append_assoc]
      rfl

theorem join_single {secret data : Bytes} {frame : Frame}
    (encoded : encode digests frame secret = .ok data) : join digests secret [frame] = .ok data := by
  rw [join, encoded, join]
  exact congrArg Except.ok (List.append_nil data)

theorem join_ne_nil {secret data : Bytes} {frame : Frame} {frames : List Frame}
    (joined : join digests secret (frame :: frames) = .ok data) : data ≠ [] := by
  rcases join_cons digests joined with ⟨first, rest, encoded, _, rfl⟩
  have size := length_of_encode digests encoded
  intro empty
  have nothing : first = [] := (List.append_eq_nil_iff.mp empty).1
  rw [nothing, headerSize, List.length_nil] at size
  omega

/-- Frames have one way to be put together. -/
theorem join_split {secret front rest : Bytes} {frames whole : List Frame}
    (part : join digests secret frames = .ok front)
    (joined : join digests secret whole = .ok (front ++ rest)) :
    ∃ later, whole = frames ++ later ∧ join digests secret later = .ok rest := by
  induction frames generalizing front whole with
  | nil =>
      cases part
      exact ⟨whole, rfl, joined⟩
  | cons frame frames ih =>
      rcases join_cons digests part with ⟨raw, tail, encoded, others, rfl⟩
      rw [List.append_assoc] at joined
      have shown := nextFrame_of_encode digests encoded (tail ++ rest)
      cases whole with
      | nil =>
          have empty : [] = raw ++ (tail ++ rest) := Except.ok.inj joined
          rw [← empty, nextFrame_nil] at shown
          cases shown
      | cons head whole =>
          rcases join_cons digests joined with ⟨first, more, own, remaining, same⟩
          have seen := nextFrame_of_encode digests own more
          rw [← same, shown] at seen
          injection seen with heads _
          rw [← heads, encoded] at own
          cases own
          have rests := List.append_cancel_left same
          rw [← rests] at remaining
          rcases ih others remaining with ⟨later, split, joined⟩
          exact ⟨later, by rw [split, heads, List.cons_append], joined⟩

/-- The stream reader takes an encoded frame off the front. -/
theorem run_readFrame_encoded {secret raw : Bytes} {frame : Frame}
    (encoded : encode digests frame secret = .ok raw) (later : Bytes) :
    (readFrame digests secret).run (raw ++ later) = (.returned frame, later) := by
  have shown := nextFrame_of_encode digests encoded later
  rw [(readFrame_implements digests secret).item shown, List.drop_left]

/-- Without an octet the stream reader stays where it is. -/
theorem advance_readFrame_nil (secret : Bytes) :
    (readFrame digests secret).advance [] = (readFrame digests secret, []) := by
  rw [readFrame, Pull.advance, if_neg (by decide)]

end
end Wireline
