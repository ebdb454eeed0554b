import Wireline.Transport.Observer
import Wireline.Transport.Readers

namespace Wireline

open Incremental

/-!
# Wireline frames in one packet

The analyser scans the payload of a packet for frames without reassembly.  It
reads headers and skips the bodies they announce, so it judges the layout of
`FrameBuffer` without looking at a body at all.  Where a body does not match
its CRC the scan reports a frame that the parser refuses.
-/

structure WirelineInfo where
  msgType : String
  seq : Int
  length : Nat
  flags : Int
deriving DecidableEq, Repr

def Header.info (header : Header) : WirelineInfo :=
  ⟨header.msgType.name, header.seq, header.length, header.flags⟩

def Frame.info (frame : Frame) : WirelineInfo :=
  ⟨frame.msgType.name, frame.seq, frame.payload.length, frame.flags⟩

/-- The loop of `try_parse_wireline`, from `offset` on. -/
def tryParseFrom (data : Bytes) (offset : Nat) : List WirelineInfo :=
  if offset + headerSize ≤ data.length then
    match decodeHeader ((data.drop offset).take headerSize) with
    | .error _ => []
    | .ok header =>
        let stop := offset + headerSize + header.length + macSize
        if stop > data.length then []  -- the body continues in another segment
        else header.info :: tryParseFrom data stop
  else []
termination_by data.length - offset
decreasing_by
  simp only [headerSize] at *
  omega

/-- Scan a payload for frames, without the key and without reassembly. -/
def tryParseWireline (data : Bytes) : List WirelineInfo := tryParseFrom data 0

/-! ## The scan and the parser -/

variable (digests : Digests)

/-- A header stands for its frame, whatever the body. -/
def judgeHeader (header : Header) (_rawHeader _body : Bytes) :
    Except ProtocolError WirelineInfo := .ok header.info

/-- The front of a payload as the packet scan sees it. -/
def headerScanner : Scanner UInt8 ProtocolError WirelineInfo := frameLayout.scanner judgeHeader

/-- What the scan finds at an offset where a complete frame stands. -/
theorem headerScanner_item {data : Bytes} {offset : Nat} {header : Header}
    (parsed : decodeHeader ((data.drop offset).take headerSize) = .ok header)
    (whole : offset + headerSize + header.length + macSize ≤ data.length) :
    headerScanner.next (data.drop offset) =
      .item header.info (headerSize + header.length + macSize) := by
  rw [headerScanner, Layout.scanner_next]
  apply Layout.next_item_iff.mpr
  exact ⟨header, parsed, by simp [frameLayout, Nat.add_assoc], by simp; omega, rfl⟩

/-- The loop is a scan of what is left behind the offset. -/
theorem tryParseFrom_eq_scan (data : Bytes) (offset : Nat) :
    tryParseFrom data offset = (headerScanner.scan (data.drop offset)).items.map Prod.fst := by
  induction offset using tryParseFrom.induct data with
  | case1 offset fits error refused =>
      have shown : headerScanner.next (data.drop offset) = .fail error := by
        simp [headerScanner, Layout.next, frameLayout, refused]
        omega
      rw [tryParseFrom, if_pos fits, refused, Scanner.scan_fail _ shown]
      rfl
  | case2 offset fits header parsed stop cut =>
      have shown : headerScanner.next (data.drop offset) = .more := by
        simp [headerScanner, Layout.next, frameLayout, parsed]
        omega
      rw [tryParseFrom, if_pos fits, parsed, Scanner.scan_more _ shown]
      dsimp only
      rw [if_pos cut]
      rfl
  | case3 offset fits header parsed stop whole ih =>
      have shown := headerScanner_item parsed (Nat.le_of_not_lt whole)
      rw [tryParseFrom, if_pos fits, parsed, Scanner.scan_item _ shown]
      dsimp only
      rw [if_neg whole, ih]
      simp [stop, Nat.add_assoc]
  | case4 offset short =>
      have shown : headerScanner.next (data.drop offset) = .more := by
        have positive : 0 < headerSize := by decide
        rw [headerScanner, Layout.scanner_next, Layout.next, if_pos]
        rw [List.length_drop]
        simp only [frameLayout]
        omega
      rw [tryParseFrom, if_neg short, Scanner.scan_more _ shown]
      rfl

theorem tryParseWireline_eq_scan (data : Bytes) :
    tryParseWireline data = (headerScanner.scan data).items.map Prod.fst :=
  tryParseFrom_eq_scan data 0

/-- The parser is stricter than the scan: it also checks the CRC. -/
theorem observer_stricter :
    Stricter (frameScanner digests none) headerScanner Frame.info
      (fun error => error.code = .errCrc) := by
  rw [frameScanner_eq, headerScanner]
  apply frameLayout.stricter
  · intro raw error refused
    exact (code_of_decodeHeader refused).1
  · intro raw header body frame parsed sized judged
    rw [judgeFrame_observer parsed sized] at judged
    cases crc : verifyCrc digests (body.take header.length) header.crc with
    | error error =>
        rw [crc] at judged
        cases judged
    | ok _ =>
        rw [crc] at judged
        cases judged
        have payload : (body.take header.length).length = header.length := by
          rw [List.length_take, sized]
          exact Nat.min_eq_left (Nat.le_add_right _ _)
        simp [judgeHeader, Header.info, Frame.info, Header.frame, payload]
  · intro raw header body error parsed sized judged
    rw [judgeFrame_observer parsed sized] at judged
    cases crc : verifyCrc digests (body.take header.length) header.crc with
    | error mismatch =>
        rw [crc] at judged
        cases judged
        exact ⟨fun other => absurd (code_of_verifyCrc digests crc) other,
          fun _ => ⟨header.info, rfl⟩⟩
    | ok _ =>
        rw [crc] at judged
        cases judged

/-! ## Where they differ -/

/-- Behind intact frames stands one whose body does not match its CRC. -/
def Corrupt (data : Bytes) : Prop :=
  ∃ (fronts : List Bytes) (raw later : Bytes) (error : ProtocolError),
    data = fronts.flatten ++ (raw ++ later) ∧
    (forall front, front ∈ fronts -> ∃ frame, decode digests front none = .ok frame) ∧
    decode digests raw none = .error error ∧ error.code = .errCrc

/-- The parser stops at a CRC exactly there. -/
theorem corrupt_iff (data : Bytes) :
    Corrupt digests data <->
      ∃ error, ((frameScanner digests none).scan data).stop = some error ∧ error.code = .errCrc := by
  constructor
  · rintro ⟨fronts, raw, later, error, rfl, intact, refused, code⟩
    rcases whole_of_decode digests (.inr ⟨error, refused, code⟩) with ⟨header, parsed, sized⟩
    have shown := nextFrame_whole digests none parsed sized later
    rw [refused] at shown
    refine ⟨error, ?_, code⟩
    rw [scan_fronts digests intact, Scanner.scan_fail (frameScanner digests none) shown]
  · rintro ⟨error, stopped, code⟩
    have shown := (frameScanner digests none).next_rest data
    rw [stopped, frameScanner_next] at shown
    rcases decode_of_nextFrame_crc digests shown code with ⟨raw, later, split, refused⟩
    have partition := (frameScanner digests none).scan_partition data
    refine ⟨((frameScanner digests none).scan data).items.map Prod.snd, raw, later, error, ?_, ?_,
      refused, code⟩
    · rw [← split, partition]
    · intro front member
      rcases List.mem_map.mp member with ⟨⟨frame, own⟩, found, rfl⟩
      exact ⟨frame, FrameBuffer.decode_of_scan digests found⟩

/-- The packet scan agrees with the parser exactly if no CRC stops the
parser. -/
theorem tryParse_agrees_iff (data : Bytes) :
    tryParseWireline data =
        ((FrameBuffer.feed ⟨[], none⟩ data).drain digests).frames.map Frame.info <->
      ¬ Corrupt digests data := by
  have drained := (FrameBuffer.drain_eq_scan digests ⟨data, none⟩).1
  have agree := (observer_stricter digests).items_eq_iff data
  rw [corrupt_iff, tryParseWireline_eq_scan, FrameBuffer.feed, List.nil_append, drained, agree]
  simp

/-- The header of a PING without a payload, with a CRC of 1. -/
def miscountedHeader : HeaderFields := ⟨magic, version, MsgType.ping.value, 0, 0, 0, 1⟩

def miscounted : Bytes := miscountedHeader.pack ++ List.replicate macSize 0

theorem decodeHeader_miscounted :
    decodeHeader (miscounted.take headerSize) = .ok ⟨.ping, 0, 0, 0, 1⟩ := by
  have fits : miscountedHeader.Fits := by constructor <;> decide
  have sized := HeaderFields.length_pack fits
  have front : miscounted.take headerSize = miscountedHeader.pack := by
    rw [miscounted, ← sized, List.take_left]
  rw [front, decodeHeader_ok_iff, HeaderFields.unpack_pack fits]
  exact ⟨sized, rfl, Nat.zero_le _, (unknownFlags_eq_zero_iff 0).mpr (by decide)⟩

theorem nextFrame_miscounted {digests : Digests} (wrong : (digests.crc32 []).toNat ≠ 1) :
    ∃ error, nextFrame digests none miscounted = .fail error := by
  have judged : ∃ error, judgeFrame digests none ⟨.ping, 0, 0, 0, 1⟩ (miscounted.take headerSize)
      ((miscounted.drop headerSize).take (0 + macSize)) = .error error := by
    rw [judgeFrame_observer decodeHeader_miscounted (by decide), List.take_zero, verifyCrc]
    dsimp only
    rw [if_pos wrong]
    exact ⟨_, rfl⟩
  rcases judged with ⟨error, judged⟩
  refine ⟨error, ?_⟩
  rw [nextFrame_eq]
  exact Layout.next_rejected decodeHeader_miscounted (by decide) judged

/-- The scan reports it and the parser does not. -/
theorem tryParse_reports_miscounted :
    tryParseWireline miscounted = [⟨"PING", 0, 0, 0⟩] ∧
      ((FrameBuffer.feed ⟨[], none⟩ miscounted).drain Reference.runtime.toDigests).frames = [] := by
  have sized : miscounted.length = headerSize + 0 + macSize := by decide
  constructor
  · rw [tryParseWireline, tryParseFrom, if_pos (by rw [sized]; decide), List.drop_zero,
      decodeHeader_miscounted]
    dsimp only
    rw [sized, if_neg (by decide), tryParseFrom, if_neg (by rw [sized]; decide)]
    rfl
  · have wrong : (Reference.runtime.crc32 []).toNat ≠ 1 := by decide
    rcases nextFrame_miscounted wrong with ⟨error, shown⟩
    have stopped := (frameScanner Reference.runtime.toDigests none).scan_fail
      ((frameScanner_next _ _ _).trans shown)
    rw [(FrameBuffer.drain_eq_scan _ _).1, FrameBuffer.feed, List.nil_append, stopped]
    rfl

end Wireline
