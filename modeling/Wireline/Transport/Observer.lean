import Wireline.Library.LengthPrefixed
import Wireline.Transport.Framing

namespace Wireline

open Incremental

/-!
# Observer mode

A buffer without a secret parses like a keyed one and leaves out the last
check.  The two judge one layout: they agree on every header and on every CRC,
and a frame that only the observer accepts is one whose MAC does not verify.
-/

variable (digests : Digests)

/-- What `verifyMac` raises. -/
def macMismatch : ProtocolError := ⟨.errAuth, "hmac mismatch"⟩

theorem frameScanner_eq (secret : Option Bytes) :
    frameScanner digests secret = frameLayout.scanner (judgeFrame digests secret) := by
  have same : nextFrame digests secret = frameLayout.next (judgeFrame digests secret) := by
    funext buffer
    exact nextFrame_eq digests secret buffer
  unfold frameScanner Layout.scanner
  congr

/-! ## One judgement -/

/-- The frame that a header and a body make. -/
def Header.frame (header : Header) (payload : Bytes) : Frame :=
  ⟨header.msgType, header.seq, payload, header.flags⟩

section

variable {digests} {header : Header} {rawHeader body : Bytes}
  (parsed : decodeHeader rawHeader = .ok header) (sized : body.length = header.length + macSize)
include parsed sized

/-- Of a body of the announced size an observer doubts the CRC alone. -/
theorem judgeFrame_observer : judgeFrame digests none header rawHeader body =
    (verifyCrc digests (body.take header.length) header.crc).map
      fun _ => header.frame (body.take header.length) := by
  have payload : (body.take header.length).length = header.length := by
    simp
    omega
  have mac : (body.drop header.length).length = macSize := by
    simp
    omega
  unfold judgeFrame decodeFrame
  simp only [parsed, payload, mac, bind, Except.bind, ne_eq, not_true_eq_false, if_false]
  cases verifyCrc digests (body.take header.length) header.crc <;> rfl

/-- A peer then doubts the MAC. -/
theorem judgeFrame_keyed (secret : Bytes) : judgeFrame digests (some secret) header rawHeader body =
    (judgeFrame digests none header rawHeader body).bind fun frame =>
      (verifyMac digests rawHeader (body.take header.length) (body.drop header.length) secret).map
        fun _ => frame := by
  have payload : (body.take header.length).length = header.length := by
    simp
    omega
  have mac : (body.drop header.length).length = macSize := by
    simp
    omega
  rw [judgeFrame_observer parsed sized]
  unfold judgeFrame decodeFrame
  simp only [parsed, payload, mac, bind, Except.bind, ne_eq, not_true_eq_false, if_false]
  cases verifyCrc digests (body.take header.length) header.crc with
  | error error => rfl
  | ok _ =>
      cases verifyMac digests rawHeader (body.take header.length) (body.drop header.length) secret <;>
        rfl

end

/-- The only errors of the digests. -/
theorem code_of_verifyCrc {payload : Bytes} {expected : Nat} {error : ProtocolError}
    (raised : verifyCrc digests payload expected = .error error) : error.code = .errCrc := by
  unfold verifyCrc at raised
  dsimp only at raised
  split at raised <;> cases raised
  rfl

theorem verifyMac_error {rawHeader payload mac secret : Bytes} {error : ProtocolError}
    (raised : verifyMac digests rawHeader payload mac secret = .error error) :
    error = macMismatch := by
  unfold verifyMac at raised
  split at raised <;> cases raised
  rfl

/-- A header is refused for what is in it. -/
theorem code_of_decodeHeader {raw : Bytes} {error : ProtocolError}
    (raised : decodeHeader raw = .error error) : error.code ≠ .errCrc ∧ error.code ≠ .errAuth := by
  unfold decodeHeader at raised
  dsimp only at raised
  repeat' split at raised
  all_goals cases raised
  all_goals simp

/-! ## One frame alone -/

/-- A string that is judged by its digests has the size that its header
announces. -/
theorem whole_of_decode {secret : Option Bytes} {raw : Bytes}
    (judged : (∃ frame, decode digests raw secret = .ok frame) ∨
      ∃ error, decode digests raw secret = .error error ∧ error.code = .errCrc) :
    ∃ header, decodeHeader (raw.take headerSize) = .ok header ∧
      raw.length = headerSize + header.length + macSize := by
  unfold decode at judged
  by_cases runt : raw.length < headerSize + macSize
  · simp [runt] at judged
  · rw [if_neg runt, decodeFrame] at judged
    cases parsed : decodeHeader (raw.take headerSize) with
    | error error =>
        have codes := code_of_decodeHeader parsed
        simp only [parsed, bind, Except.bind, reduceCtorEq, exists_false, false_or,
          Except.error.injEq, exists_eq_left'] at judged
        exact absurd judged codes.1
    | ok header =>
        refine ⟨header, rfl, ?_⟩
        simp only [parsed, bind, Except.bind] at judged
        by_cases body : ((raw.take (raw.length - macSize)).drop headerSize).length ≠ header.length
        · rw [if_pos body] at judged
          simp at judged
        · simp only [List.length_drop, List.length_take] at body
          omega

/-- Such a string is judged in front of a stream as it is judged alone. -/
theorem nextFrame_whole (secret : Option Bytes) {raw : Bytes} {header : Header}
    (parsed : decodeHeader (raw.take headerSize) = .ok header)
    (sized : raw.length = headerSize + header.length + macSize) (later : Bytes) :
    nextFrame digests secret (raw ++ later) =
      match decode digests raw secret with
      | .error error => .fail error
      | .ok frame => .item frame raw.length := by
  have front : (raw ++ later).take headerSize = raw.take headerSize :=
    List.take_append_of_le_length (by omega)
  have payload : ((raw ++ later).drop headerSize).take header.length =
      (raw.take (raw.length - macSize)).drop headerSize := by
    rw [List.drop_append_of_le_length (by omega), List.take_append_of_le_length (by simp; omega),
      List.drop_take]
    congr 1
    omega
  have mac : ((raw ++ later).drop (headerSize + header.length)).take macSize =
      raw.drop (raw.length - macSize) := by
    rw [List.drop_append_of_le_length (by omega), List.take_append_of_le_length (by simp; omega),
      List.take_of_length_le (by simp; omega)]
    congr 1
    omega
  have alone : decode digests raw secret = decodeFrame digests (raw.take headerSize)
      ((raw.take (raw.length - macSize)).drop headerSize) (raw.drop (raw.length - macSize))
      secret := by
    rw [decode, if_neg (by omega)]
  have complete : ¬ (raw ++ later).length < headerSize := by
    rw [List.length_append]
    omega
  have within : ¬ (raw ++ later).length < headerSize + header.length + macSize := by
    rw [List.length_append]
    omega
  cases judged : decode digests raw secret with
  | error error =>
      rw [alone] at judged
      simp only [nextFrame, complete, within, front, parsed, payload, mac, judged, if_false]
  | ok frame =>
      rw [alone] at judged
      simp only [nextFrame, complete, within, front, parsed, payload, mac, judged, if_false]
      rw [sized]

/-- A frame whose digests are refused stands in front in full. -/
theorem decode_of_nextFrame_crc {secret : Option Bytes} {buffer : Bytes} {error : ProtocolError}
    (shown : nextFrame digests secret buffer = .fail error) (code : error.code = .errCrc) :
    ∃ raw later, buffer = raw ++ later ∧ decode digests raw secret = .error error := by
  have front := frameLayout.front (judgeFrame digests secret) buffer
  rw [← nextFrame_eq, shown] at front
  cases front with
  | refused enough parsed => exact absurd code (code_of_decodeHeader parsed).1
  | @rejected header _ parsed whole judged =>
      have present : headerSize + header.length + macSize ≤ buffer.length := by
        rw [Nat.add_assoc]
        exact whole
      let raw := buffer.take (headerSize + header.length + macSize)
      have sized : raw.length = headerSize + header.length + macSize :=
        List.length_take_of_le present
      have parsed : decodeHeader (raw.take headerSize) = .ok header := by
        rw [List.take_take, Nat.min_eq_left (by omega)]
        exact parsed
      have alone := nextFrame_whole digests secret parsed sized
        (buffer.drop (headerSize + header.length + macSize))
      rw [List.take_append_drop, shown] at alone
      refine ⟨raw, _, (List.take_append_drop _ buffer).symm, ?_⟩
      cases decoded : decode digests raw secret with
      | error raised => simp_all
      | ok frame => simp_all

/-- Strings that decode alone are found one after the other. -/
theorem scan_fronts {secret : Option Bytes} {fronts : List Bytes}
    (intact : forall front, front ∈ fronts -> ∃ frame, decode digests front secret = .ok frame)
    (rest : Bytes) :
    ((frameScanner digests secret).scan (fronts.flatten ++ rest)).stop =
      ((frameScanner digests secret).scan rest).stop := by
  induction fronts with
  | nil => simp
  | cons front fronts ih =>
      rcases intact front List.mem_cons_self with ⟨frame, decoded⟩
      rcases whole_of_decode digests (.inl ⟨frame, decoded⟩) with ⟨header, parsed, sized⟩
      have shown := nextFrame_whole digests secret parsed sized (fronts.flatten ++ rest)
      rw [decoded] at shown
      rw [List.flatten_cons, List.append_assoc,
        Scanner.scan_item (frameScanner digests secret) shown, List.drop_left, Scan.after_stop]
      apply ih
      intro other member
      exact intact other (List.mem_cons_of_mem front member)

/-! ## Two buffers -/

/-- The keyed buffer is the stricter one. -/
theorem keyed_stricter (secret : Bytes) :
    Stricter (frameScanner digests (some secret)) (frameScanner digests none) id
      (fun error => error = macMismatch) := by
  rw [frameScanner_eq, frameScanner_eq]
  apply frameLayout.stricter
  · rintro raw error refused rfl
    exact (code_of_decodeHeader refused).2 rfl
  · intro raw header body frame parsed sized judged
    rw [judgeFrame_keyed parsed sized] at judged
    cases observed : judgeFrame digests none header raw body with
    | error error =>
        rw [observed] at judged
        cases judged
    | ok seen =>
        rw [observed] at judged
        cases mac : verifyMac digests raw (body.take header.length) (body.drop header.length) secret with
        | error error => simp [mac, Except.bind, Except.map] at judged
        | ok _ => simpa [mac, Except.bind, Except.map] using judged
  · intro raw header body error parsed sized judged
    rw [judgeFrame_keyed parsed sized] at judged
    cases observed : judgeFrame digests none header raw body with
    | error mismatch =>
        rw [observed] at judged
        cases judged
        refine ⟨fun _ => rfl, ?_⟩
        rintro rfl
        rw [judgeFrame_observer parsed sized] at observed
        cases crc : verifyCrc digests (body.take header.length) header.crc with
        | error error =>
            have code := code_of_verifyCrc digests crc
            rw [crc] at observed
            cases observed
            cases code
        | ok _ =>
            rw [crc] at observed
            cases observed
    | ok seen =>
        rw [observed] at judged
        refine ⟨?_, fun _ => ⟨seen, rfl⟩⟩
        intro other
        cases mac : verifyMac digests raw (body.take header.length) (body.drop header.length) secret with
        | error mismatch =>
            rw [verifyMac_error digests mac] at mac
            simp only [mac, Except.bind, Except.map, Except.error.injEq] at judged
            exact absurd judged.symm other
        | ok _ => simp [mac, Except.bind, Except.map] at judged

/-- An observer sees an encoded frame at the front. -/
theorem observed_of_encode {secret raw : Bytes} {frame : Frame}
    (encoded : encode digests frame secret = .ok raw) :
    (frameScanner digests none).next raw = .item frame raw.length := by
  have shown := nextFrame_of_encode digests encoded []
  rw [List.append_nil] at shown
  exact (keyed_stricter digests secret).item shown

namespace FrameBuffer

/-- What a complete frame or a failure leaves in the buffer does not depend
on the secret. -/
theorem buf_pop (buf : Bytes) (secret : Option Bytes) :
    (pop digests ⟨buf, secret⟩).1.buf = (pop digests ⟨buf, none⟩).1.buf := by
  unfold pop
  by_cases short : buf.length < headerSize
  · simp [short]
  · cases parsed : decodeHeader (buf.take headerSize) with
    | error error => simp [short, parsed]
    | ok header =>
        by_cases partly : buf.length < headerSize + header.length + macSize
        · simp [short, parsed, partly]
        · simp only [short, parsed, partly, if_false]
          split <;> split <;> rfl

/-- Iterating `drain` ends with a `pop` of what a scan leaves. -/
theorem buf_drain (buf : Bytes) (secret : Option Bytes) :
    (drain digests ⟨buf, secret⟩).buffer.buf =
      (pop digests ⟨((frameScanner digests secret).scan buf).rest, none⟩).1.buf := by
  rw [← buf_pop digests _ secret]
  induction buf using (frameScanner digests secret).scan_induction with
  | more buf shown =>
      rw [Scanner.scan_more _ shown]
      unfold drain
      have popped := pop_eq digests ⟨buf, secret⟩
      rw [frameScanner_next] at shown
      simp only [shown] at popped
      split <;> simp_all
  | fail buf error shown =>
      rw [Scanner.scan_fail _ shown]
      unfold drain
      have popped := pop_eq digests ⟨buf, secret⟩
      rw [frameScanner_next] at shown
      simp only [shown] at popped
      split <;> simp_all
  | item buf frame size shown ih =>
      rw [Scanner.scan_item _ shown, Scan.after_rest, ← ih]
      have popped := pop_eq digests ⟨buf, secret⟩
      rw [frameScanner_next] at shown
      simp only [shown] at popped
      conv_lhs => unfold drain
      split <;> simp_all

/-- The same for arrival in chunks. -/
theorem buf_receive {secret : Option Bytes} {buf : Bytes}
    (waiting : nextFrame digests secret buf = .more) (chunks : List Bytes) :
    (receive digests ⟨buf, secret⟩ chunks).buffer.buf =
      (pop digests ⟨((frameScanner digests secret).feed buf chunks).rest, none⟩).1.buf := by
  induction chunks generalizing buf with
  | nil =>
      have popped := pop_eq digests ⟨buf, secret⟩
      simp only [waiting] at popped
      rw [← buf_pop digests _ secret]
      simp [receive, Scanner.feed, popped]
  | cons chunk chunks ih =>
      have drained := drain_eq_scan digests ⟨buf ++ chunk, secret⟩
      have left := buf_drain digests (buf ++ chunk) secret
      have idle := (frameScanner digests secret).next_rest (buf ++ chunk)
      cases stopped : ((frameScanner digests secret).scan (buf ++ chunk)).stop with
      | some error => simp [receive, Scanner.feed, feed, drained.2.1, stopped, left]
      | none =>
          rw [stopped] at idle
          have rest := drained.2.2 (drained.2.1.trans stopped)
          simp [receive, Scanner.feed, feed, drained.2.1, stopped, rest, ih idle]

end FrameBuffer

/-- An observer never disagrees with the receiver before the MAC is at
fault. -/
theorem observer_agrees (secret : Bytes) (chunks : List Bytes) :
    let keyed := FrameBuffer.receive digests ⟨[], some secret⟩ chunks
    let observer := FrameBuffer.receive digests ⟨[], none⟩ chunks
    keyed.outputs.flatten <+: observer.outputs.flatten ∧
      (keyed.stop ≠ some macMismatch ->
        observer.outputs = keyed.outputs ∧ observer.stop = keyed.stop ∧
          observer.buffer.buf = keyed.buffer.buf) := by
  intro keyed observer
  have stricter := keyed_stricter digests secret
  have keyedFeed := FrameBuffer.receive_eq_feed digests (some secret) [] chunks
  have observerFeed := FrameBuffer.receive_eq_feed digests none [] chunks
  constructor
  · have keyedScan := (frameScanner digests (some secret)).feed_eq_scan (Scanner.next_nil _) chunks
    have observerScan := (frameScanner digests none).feed_eq_scan (Scanner.next_nil _) chunks
    rw [keyedFeed.1, observerFeed.1, ← List.map_flatten, ← List.map_flatten, keyedScan.1,
      observerScan.1]
    have front := stricter.items_prefix ([] ++ chunks.flatten)
    rwa [List.map_id] at front
  · intro sound
    have unvetoed : forall error, ((frameScanner digests (some secret)).feed [] chunks).stop =
        some error -> ¬ error = macMismatch := by
      rintro error stopped rfl
      exact sound (keyedFeed.2.1.trans stopped)
    have same := stricter.feed_eq unvetoed
    refine ⟨?_, ?_, ?_⟩
    · rw [observerFeed.1, keyedFeed.1, same]
      simp
    · rw [observerFeed.2.1, keyedFeed.2.1, same]
    · rw [FrameBuffer.buf_receive digests (nextFrame_nil digests),
        FrameBuffer.buf_receive digests (nextFrame_nil digests), same]

end Wireline
