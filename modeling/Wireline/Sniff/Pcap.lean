import Mathlib
import Wireline.Library.BigEndian
import Wireline.Library.LengthPrefixed
import Wireline.Protocol.Text

namespace Wireline

open Incremental

/-!
# The classic pcap format

A capture file is a 24-byte header, then for each packet a 16-byte record
header followed by the captured bytes.  The magic number decides the byte
order.  The reader is a generator: it yields the packets in front of a
truncated tail before it raises.

A timestamp is the exact rational number that the record states, where the
source has the nearest floating-point number.
-/

/-- `data[start:stop]`, for positions that are not negative. -/
def slice (data : Bytes) (start stop : Nat) : Bytes := (data.take stop).drop start

theorem length_slice (data : Bytes) (start stop : Nat) :
    (slice data start stop).length = min stop data.length - start := by
  simp [slice]

/-- Positions behind a front are positions in what follows it. -/
theorem slice_append (front rest : Bytes) (start stop : Nat) :
    slice (front ++ rest) (front.length + start) (front.length + stop) = slice rest start stop := by
  simp [slice, List.take_append, List.drop_append]

theorem slice_drop (data : Bytes) (skipped start stop : Nat) :
    slice (data.drop skipped) start stop = slice data (skipped + start) (skipped + stop) := by
  simp [slice, List.take_drop, List.drop_drop]

theorem drop_slice (data : Bytes) (start stop skipped : Nat) :
    (slice data start stop).drop skipped = slice data (start + skipped) stop := by
  simp [slice, List.drop_drop]

theorem slice_slice (data : Bytes) (start stop first last : Nat) :
    slice (slice data start stop) first last =
      slice data (start + first) (min stop (start + last)) := by
  simp [slice, List.take_drop, List.drop_drop, List.take_take, Nat.min_comm]

theorem slice_length (data : Bytes) (start stop : Nat) :
    slice data start (min data.length stop) = slice data start stop := by
  simp [slice, List.take_eq_take_min, Nat.min_comm]

theorem take_append_slice (data : Bytes) {start stop : Nat} (ordered : start ≤ stop) :
    data.take start ++ slice data start stop = data.take stop := by
  have front : data.take start = (data.take stop).take start := by
    rw [List.take_take, Nat.min_eq_left ordered]
  rw [slice, front, List.take_append_drop]

theorem drop_eq_slice (data : Bytes) (start : Nat) :
    data.drop start = slice data start data.length := by
  simp [slice]

theorem getD_slice (data : Bytes) {start stop position : Nat} (inside : start + position < stop) :
    (slice data start stop).getD position 0 = data.getD (start + position) 0 := by
  simp [slice, List.getElem?_drop, inside]

theorem getD_append_left {front : Bytes} (rest : Bytes) {position : Nat}
    (inside : position < front.length) : (front ++ rest).getD position 0 = front.getD position 0 := by
  simp [List.getD, List.getElem?_append_left inside]

theorem slice_append_left {front : Bytes} (rest : Bytes) {start stop : Nat}
    (inside : stop ≤ front.length) : slice (front ++ rest) start stop = slice front start stop := by
  simp [slice, List.take_append_of_le_length inside]

inductive ByteOrder
  | little
  | big
deriving DecidableEq, Repr

namespace ByteOrder

/-- An unsigned integer of this byte order. -/
def decode (order : ByteOrder) (octets : Bytes) : Nat :=
  match order with
  | little => BigEndian.decode octets.reverse
  | big => BigEndian.decode octets

def encode (order : ByteOrder) (width value : Nat) : Bytes :=
  match order with
  | little => (BigEndian.encode width value).reverse
  | big => BigEndian.encode width value

@[simp] theorem length_encode (order : ByteOrder) (width value : Nat) :
    (order.encode width value).length = width := by
  cases order <;> simp [encode]

theorem decode_encode (order : ByteOrder) {width value : Nat} (fits : value < 256 ^ width) :
    order.decode (order.encode width value) = value := by
  cases order <;> simp [encode, decode, BigEndian.decode_encode _ _ fits]

theorem decode_lt (order : ByteOrder) (octets : Bytes) :
    order.decode octets < 256 ^ octets.length := by
  cases order with
  | little => simpa [decode] using BigEndian.decode_lt octets.reverse
  | big => exact BigEndian.decode_lt octets

theorem encode_decode (order : ByteOrder) (octets : Bytes) :
    order.encode octets.length (order.decode octets) = octets := by
  cases order with
  | little =>
      have back := BigEndian.encode_decode octets.reverse
      rw [List.length_reverse] at back
      rw [encode, decode, back, List.reverse_reverse]
  | big => exact BigEndian.encode_decode octets

theorem exists_word (order : ByteOrder) {octets : Bytes} (sized : octets.length = 4) :
    ∃ word : UInt32, order.decode octets = word.toNat ∧ order.encode 4 word.toNat = octets := by
  have bound := order.decode_lt octets
  have back := order.encode_decode octets
  rw [sized] at bound back
  exact ⟨.ofNatLT _ bound, (UInt32.toNat_ofNatLT ..).symm, by rwa [UInt32.toNat_ofNatLT]⟩

end ByteOrder

def magicLe : Nat := 0xA1B2C3D4
def magicBe : Nat := 0xD4C3B2A1
def fileHeaderSize : Nat := 24
def recordHeaderSize : Nat := 16

def linktypeEthernet : Nat := 1
def linktypeRawIp : Nat := 101
def linktypeLoopback : Nat := 0

/-- The file is not a pcap, or is truncated. -/
structure PcapError where
  message : String
deriving DecidableEq, Repr

structure Packet where
  timestamp : ℚ
  data : Bytes
  originalLength : Nat
deriving DecidableEq, Repr

/-- What iterating the reader yields, and the error that ends it if there is
one. -/
structure Capture where
  packets : List (Nat × Packet)
  raised : Option PcapError
deriving DecidableEq, Repr

/-! ## Reading -/

/-- The four fields of `struct.Struct(endian + "IIII")`. -/
structure RecordFields where
  tsSec : Nat
  tsUsec : Nat
  inclLen : Nat
  origLen : Nat

def RecordFields.unpack (order : ByteOrder) (raw : Bytes) : RecordFields where
  tsSec := order.decode (raw.take 4)
  tsUsec := order.decode ((raw.drop 4).take 4)
  inclLen := order.decode ((raw.drop 8).take 4)
  origLen := order.decode ((raw.drop 12).take 4)

/-- The loop of `read_packets`, from `offset` on. -/
def readRecords (order : ByteOrder) (linktype : Nat) (raw : Bytes) (offset : Nat) : Capture :=
  if offset < raw.length then
    if offset + recordHeaderSize > raw.length then
      ⟨[], some ⟨s!"truncated record header at offset {offset}"⟩⟩
    else
      let fields := RecordFields.unpack order (slice raw offset (offset + recordHeaderSize))
      let start := offset + recordHeaderSize
      if start + fields.inclLen > raw.length then
        ⟨[], some ⟨s!"truncated packet data at offset {start}"⟩⟩
      else
        let data := slice raw start (start + fields.inclLen)
        let packet : Packet := ⟨fields.tsSec + fields.tsUsec / 1000000, data, fields.origLen⟩
        let rest := readRecords order linktype raw (start + fields.inclLen)
        { rest with packets := (linktype, packet) :: rest.packets }
  else ⟨[], none⟩
termination_by raw.length - offset
decreasing_by
  simp only [recordHeaderSize] at *
  omega

/-- Yield every record with the link type of the file. -/
def readPackets (raw : Bytes) : Capture :=
  if raw.length < fileHeaderSize then
    ⟨[], some ⟨s!"file is {raw.length} bytes, shorter than a pcap header"⟩⟩
  else
    let magic := ByteOrder.little.decode (raw.take 4)
    if magic = magicLe then
      readRecords .little (ByteOrder.little.decode (slice raw 20 24)) raw fileHeaderSize
    else if magic = magicBe then
      readRecords .big (ByteOrder.big.decode (slice raw 20 24)) raw fileHeaderSize
    else ⟨[], some ⟨s!"unknown pcap magic {hexWord magic}"⟩⟩

/-! ## Well-formed files -/

/-- A complete record. -/
structure Record where
  tsSec : UInt32
  tsUsec : UInt32
  originalLength : UInt32
  data : Bytes
  sized : data.length < 2 ^ 32

namespace Record

def header (order : ByteOrder) (record : Record) : Bytes :=
  order.encode 4 record.tsSec.toNat ++ order.encode 4 record.tsUsec.toNat ++
    order.encode 4 record.data.length ++ order.encode 4 record.originalLength.toNat

def octets (order : ByteOrder) (record : Record) : Bytes := record.header order ++ record.data

def timestamp (record : Record) : ℚ := record.tsSec.toNat + record.tsUsec.toNat / 1000000

def packet (record : Record) : Packet :=
  ⟨record.timestamp, record.data, record.originalLength.toNat⟩

@[simp] theorem length_header (order : ByteOrder) (record : Record) :
    (record.header order).length = recordHeaderSize := by
  simp [header, recordHeaderSize]

/-- A record's header is read back. -/
theorem unpack_header (order : ByteOrder) (record : Record) :
    RecordFields.unpack order (record.header order) =
      ⟨record.tsSec.toNat, record.tsUsec.toNat, record.data.length,
        record.originalLength.toNat⟩ := by
  have sec : record.tsSec.toNat < 256 ^ 4 := record.tsSec.toNat_lt
  have usec : record.tsUsec.toNat < 256 ^ 4 := record.tsUsec.toNat_lt
  have incl : record.data.length < 256 ^ 4 := record.sized
  have orig : record.originalLength.toNat < 256 ^ 4 := record.originalLength.toNat_lt
  simp [RecordFields.unpack, header, List.drop_append, List.take_of_length_le,
    List.drop_of_length_le, ByteOrder.decode_encode order sec,
    ByteOrder.decode_encode order usec, ByteOrder.decode_encode order incl,
    ByteOrder.decode_encode order orig]

end Record

/-- A well-formed file: the magic of its byte order, five fields that the
reader skips, the link type and complete records. -/
structure CaptureFile where
  order : ByteOrder
  settings : Bytes
  sized : settings.length = 16
  linktype : UInt32
  records : List Record

namespace CaptureFile

def header (file : CaptureFile) : Bytes :=
  file.order.encode 4 magicLe ++ file.settings ++ file.order.encode 4 file.linktype.toNat

def octets (file : CaptureFile) : Bytes :=
  file.header ++ (file.records.map (Record.octets file.order)).flatten

end CaptureFile

/-! ## Records as a scan -/

/-- The layout of a record: the header announces how many octets were
captured. -/
def recordLayout (order : ByteOrder) : Layout UInt8 Empty RecordFields where
  headerSize := recordHeaderSize
  positive := by decide
  header raw := .ok (RecordFields.unpack order raw)
  bodySize := RecordFields.inclLen

def RecordFields.packet (fields : RecordFields) (data : Bytes) : Packet :=
  ⟨fields.tsSec + fields.tsUsec / 1000000, data, fields.origLen⟩

def recordScanner (order : ByteOrder) : Scanner UInt8 Empty Packet :=
  (recordLayout order).scanner fun fields _ body => .ok (fields.packet body)

theorem recordScanner_item_iff {order : ByteOrder} {raw : Bytes} {packet : Packet} {size : Nat} :
    (recordScanner order).next raw = .item packet size <->
      let fields := RecordFields.unpack order (raw.take recordHeaderSize)
      size = recordHeaderSize + fields.inclLen ∧ size ≤ raw.length ∧
        packet = fields.packet ((raw.drop recordHeaderSize).take fields.inclLen) := by
  rw [recordScanner, Layout.scanner_next, Layout.next_item_iff]
  constructor
  · rintro ⟨fields, ⟨⟩, sized, whole, ⟨⟩⟩
    exact ⟨sized, whole, rfl⟩
  · rintro ⟨sized, whole, rfl⟩
    exact ⟨_, rfl, sized, whole, rfl⟩

/-- A scan goes on until a record is not complete. -/
theorem recordScanner_more {order : ByteOrder} {raw : Bytes}
    (broken : raw.length < recordHeaderSize ∨ raw.length <
      recordHeaderSize + (RecordFields.unpack order (raw.take recordHeaderSize)).inclLen) :
    (recordScanner order).next raw = .more := by
  cases shown : (recordScanner order).next raw with
  | more => rfl
  | fail error => exact error.elim
  | item packet size =>
      rcases recordScanner_item_iff.mp shown with ⟨sized, whole, _⟩
      omega

/-- The loop is a scan of what is left behind the offset, and raises if the
scan leaves octets behind. -/
theorem readRecords_eq_scan (order : ByteOrder) (linktype : Nat) (raw : Bytes) (offset : Nat) :
    ∃ raised, readRecords order linktype raw offset =
        ⟨((recordScanner order).scan (raw.drop offset)).items.map fun item => (linktype, item.1),
          raised⟩ ∧
      (raised = none <-> ((recordScanner order).scan (raw.drop offset)).rest = []) := by
  have header (offset : Nat) : slice raw offset (offset + recordHeaderSize) =
      (raw.drop offset).take recordHeaderSize := by
    rw [slice, List.take_drop]
  induction offset using readRecords.induct order linktype raw with
  | case1 offset inside cut =>
      have shown : (recordScanner order).next (raw.drop offset) = .more := by
        apply recordScanner_more
        rw [List.length_drop]
        omega
      rw [readRecords, if_pos inside, if_pos cut, Scanner.scan_more _ shown]
      refine ⟨_, rfl, iff_of_false nofun ?_⟩
      rw [List.drop_eq_nil_iff]
      omega
  | case2 offset inside fits fields start cut =>
      have shown : (recordScanner order).next (raw.drop offset) = .more := by
        apply recordScanner_more
        rw [← header, List.length_drop]
        right
        change raw.length - offset < recordHeaderSize + fields.inclLen
        omega
      rw [readRecords, if_pos inside, if_neg fits]
      dsimp only
      rw [if_pos cut, Scanner.scan_more _ shown]
      refine ⟨_, rfl, iff_of_false nofun ?_⟩
      rw [List.drop_eq_nil_iff]
      omega
  | case3 offset inside fits fields start whole ih =>
      have body : slice raw start (start + fields.inclLen) =
          ((raw.drop offset).drop recordHeaderSize).take fields.inclLen := by
        rw [List.take_drop]
        change _ = slice (raw.drop offset) recordHeaderSize (recordHeaderSize + fields.inclLen)
        rw [slice_drop, ← Nat.add_assoc]
      have shown : (recordScanner order).next (raw.drop offset) =
          .item (fields.packet (slice raw start (start + fields.inclLen)))
            (recordHeaderSize + fields.inclLen) := by
        rw [recordScanner_item_iff, ← header, body, List.length_drop]
        refine ⟨rfl, ?_, rfl⟩
        omega
      rcases ih with ⟨raised, rest, ends⟩
      rw [readRecords, if_pos inside, if_neg fits]
      dsimp only
      rw [if_neg whole, Scanner.scan_item _ shown, List.drop_drop, ← Nat.add_assoc, rest]
      exact ⟨raised, rfl, ends⟩
  | case4 offset outside =>
      have empty : raw.drop offset = [] := List.drop_of_length_le (Nat.le_of_not_lt outside)
      rw [readRecords, if_neg outside, empty, Scanner.scan_more _ (Scanner.next_nil _)]
      exact ⟨none, rfl, iff_of_true rfl rfl⟩

/-! ## Records and their octets -/

namespace Record

@[simp] theorem length_octets (order : ByteOrder) (record : Record) :
    (record.octets order).length = recordHeaderSize + record.data.length := by
  rw [octets, List.length_append, length_header]

/-- A record is complete with its last octet. -/
theorem next_octets (order : ByteOrder) (record : Record) :
    (recordScanner order).next (record.octets order) =
      .item record.packet (record.octets order).length := by
  have front : (record.octets order).take recordHeaderSize = record.header order := by
    rw [octets, ← length_header order record, List.take_left]
  have back : (record.octets order).drop recordHeaderSize = record.data := by
    rw [octets, ← length_header order record, List.drop_left]
  rw [recordScanner_item_iff, front, back, unpack_header, length_octets]
  refine ⟨rfl, Nat.le_refl _, ?_⟩
  rw [List.take_length]
  rfl

theorem octets_injective (order : ByteOrder) : Function.Injective (octets order) := by
  intro first second same
  have headers : (first.header order).length = (second.header order).length := by
    rw [length_header, length_header]
  rcases List.append_inj same headers with ⟨header, data⟩
  have fields := congrArg (RecordFields.unpack order) header
  rw [unpack_header, unpack_header] at fields
  rcases first with ⟨sec, usec, originalLength, octets, sized⟩
  rcases second with ⟨otherSec, otherUsec, otherLength, otherOctets, otherSized⟩
  simp only [RecordFields.mk.injEq, UInt32.toNat_inj] at fields data
  rcases fields with ⟨rfl, rfl, _, rfl⟩
  cases data
  rfl

end Record

/-- The record whose header is given. -/
theorem RecordFields.unpack_complete (order : ByteOrder) {header data : Bytes}
    (sized : header.length = recordHeaderSize)
    (announced : (RecordFields.unpack order header).inclLen = data.length) :
    ∃ record : Record, record.octets order = header ++ data ∧
      record.packet = (RecordFields.unpack order header).packet data := by
  have four (skipped : Nat) (inside : skipped + 4 ≤ 16) :
      ((header.drop skipped).take 4).length = 4 := by
    rw [List.length_take, List.length_drop, sized, recordHeaderSize]
    omega
  rcases order.exists_word (four 0 (by decide)) with ⟨sec, secRead, secOctets⟩
  rcases order.exists_word (four 4 (by decide)) with ⟨usec, usecRead, usecOctets⟩
  rcases order.exists_word (four 8 (by decide)) with ⟨incl, inclRead, inclOctets⟩
  rcases order.exists_word (four 12 (by decide)) with ⟨orig, origRead, origOctets⟩
  rw [List.drop_zero] at secRead secOctets
  have fields : RecordFields.unpack order header =
      ⟨sec.toNat, usec.toNat, incl.toNat, orig.toNat⟩ := by
    rw [RecordFields.unpack, secRead, usecRead, inclRead, origRead]
  have length : incl.toNat = data.length := by
    rw [fields] at announced
    exact announced
  have parts : header = header.take 4 ++ ((header.drop 4).take 4 ++ ((header.drop 8).take 4 ++
      (header.drop 12).take 4)) := by
    have last : (header.drop 12).take 4 = header.drop 12 :=
      List.take_of_length_le (by rw [List.length_drop, sized, recordHeaderSize])
    have third := List.take_append_drop 4 (header.drop 8)
    have second := List.take_append_drop 4 (header.drop 4)
    rw [List.drop_drop] at second third
    rw [last, third, second, List.take_append_drop]
  refine ⟨⟨sec, usec, orig, data, by rw [← length]; exact incl.toNat_lt⟩, ?_, by rw [fields]; rfl⟩
  rw [Record.octets, Record.header, secOctets, usecOctets, origOctets]
  dsimp only
  rw [← length, inclOctets]
  conv_rhs => rw [parts]
  simp only [List.append_assoc]

/-- Every complete record is found, and everything found is one. -/
theorem record_of_next {order : ByteOrder} {own : Bytes} {packet : Packet}
    (shown : (recordScanner order).next own = .item packet own.length) :
    ∃ record : Record, record.octets order = own ∧ record.packet = packet := by
  rcases recordScanner_item_iff.mp shown with ⟨sized, _, rfl⟩
  have header : (own.take recordHeaderSize).length = recordHeaderSize := by
    rw [List.length_take]
    omega
  have body : (own.drop recordHeaderSize).length =
      (RecordFields.unpack order (own.take recordHeaderSize)).inclLen := by
    rw [List.length_drop]
    omega
  rcases RecordFields.unpack_complete order header body.symm with ⟨record, octets, packet⟩
  rw [List.take_append_drop] at octets
  refine ⟨record, octets, ?_⟩
  rw [packet, ← body, List.take_length]

theorem items_eq_records (order : ByteOrder) (raw : Bytes) :
    ∃ records : List Record, ((recordScanner order).scan raw).items =
      records.map fun record => (record.packet, record.octets order) := by
  let view (record : Record) : Packet × Bytes := (record.packet, record.octets order)
  have each : ((recordScanner order).scan raw).items ∈ Set.range (List.map view) := by
    rw [Set.range_list_map]
    intro item member
    rcases record_of_next ((recordScanner order).next_of_mem_items member) with
      ⟨record, octets, packet⟩
    exact ⟨record, Prod.ext packet octets⟩
  rcases each with ⟨records, same⟩
  exact ⟨records, same.symm⟩

theorem scan_octets (order : ByteOrder) (records : List Record) (later : Bytes) :
    (recordScanner order).scan ((records.map (Record.octets order)).flatten ++ later) =
      ((recordScanner order).scan later).after
        (records.map fun record => (record.packet, record.octets order)) := by
  have complete (item : Packet × Bytes)
      (member : item ∈ records.map fun record => (record.packet, record.octets order)) :
      (recordScanner order).next item.2 = .item item.1 item.2.length := by
    rcases List.mem_map.mp member with ⟨record, _, rfl⟩
    exact record.next_octets order
  have found := (recordScanner order).scan_flatten complete later
  rwa [List.map_map] at found

/-! ## Files -/

namespace CaptureFile

/-- What the reader yields for the records of a file. -/
def packets (file : CaptureFile) : List (Nat × Packet) :=
  file.records.map fun record => (file.linktype.toNat, record.packet)

@[simp] theorem length_header (file : CaptureFile) : file.header.length = fileHeaderSize := by
  simp [header, file.sized, fileHeaderSize]

end CaptureFile

/-- The header of a file is read, whatever follows it. -/
theorem readPackets_header (file : CaptureFile) (later : Bytes) :
    readPackets (file.header ++ later) =
      readRecords file.order file.linktype.toNat (file.header ++ later) fileHeaderSize := by
  rcases file with ⟨order, settings, sized, linktype, records⟩
  let front := order.encode 4 magicLe ++ settings ++ order.encode 4 linktype.toNat
  have headerSized : front.length = fileHeaderSize := by
    simp [front, sized, fileHeaderSize]
  have magic : (front ++ later).take 4 = order.encode 4 magicLe := by
    simp [front]
  have link : slice (front ++ later) 20 24 = order.encode 4 linktype.toNat := by
    have inside := slice_append (order.encode 4 magicLe ++ settings)
      (order.encode 4 linktype.toNat ++ later) 0 4
    simpa [front, slice, sized, List.take_of_length_le] using inside
  have fits : linktype.toNat < 256 ^ 4 := linktype.toNat_lt
  have long : ¬ (front ++ later).length < fileHeaderSize := by
    rw [List.length_append]
    omega
  change readPackets (front ++ later) = readRecords order linktype.toNat (front ++ later) fileHeaderSize
  rw [readPackets, if_neg long, magic, link]
  cases order with
  | little =>
      have known : magicLe < 256 ^ 4 := by decide
      rw [ByteOrder.decode_encode .little fits, ByteOrder.decode_encode .little known]
      dsimp only
      rw [if_pos rfl]
  | big =>
      -- The reader looks at the magic before it knows the byte order.
      have swapped : ByteOrder.little.decode (ByteOrder.big.encode 4 magicLe) = magicBe := by decide
      have other : magicBe ≠ magicLe := by decide
      rw [swapped, ByteOrder.decode_encode .big fits]
      dsimp only
      rw [if_neg other, if_pos rfl]

/-- Complete records are read, and the octets behind them decide about the
end. -/
theorem readPackets_octets_append (file : CaptureFile) {later : Bytes}
    (incomplete : (recordScanner file.order).next later = .more) :
    ∃ raised, readPackets (file.octets ++ later) = ⟨file.packets, raised⟩ ∧
      (raised = none <-> later = []) := by
  have read := readPackets_header file ((file.records.map (Record.octets file.order)).flatten ++ later)
  rcases readRecords_eq_scan file.order file.linktype.toNat
    (file.header ++ ((file.records.map (Record.octets file.order)).flatten ++ later))
    fileHeaderSize with ⟨raised, found, ends⟩
  have behind : (file.header ++
      ((file.records.map (Record.octets file.order)).flatten ++ later)).drop fileHeaderSize =
        (file.records.map (Record.octets file.order)).flatten ++ later := by
    rw [← file.length_header, List.drop_left]
  rw [behind, scan_octets, Scanner.scan_more _ incomplete] at found ends
  refine ⟨raised, ?_, ends⟩
  rw [CaptureFile.octets, List.append_assoc, read, found]
  simp [CaptureFile.packets, Scan.after, Function.comp_def]

/-- A well-formed file is read completely. -/
theorem readPackets_octets (file : CaptureFile) :
    readPackets file.octets =
      ⟨file.records.map fun record => (file.linktype.toNat, record.packet), none⟩ := by
  rcases readPackets_octets_append file (Scanner.next_nil _) with ⟨raised, read, ends⟩
  rw [List.append_nil, ends.mpr rfl] at read
  exact read

/-- A file is determined by its octets. -/
theorem CaptureFile.octets_injective : Function.Injective CaptureFile.octets := by
  intro first second same
  have headers : first.header.length = second.header.length := by
    rw [length_header, length_header]
  rcases List.append_inj same headers with ⟨header, body⟩
  rcases first with ⟨order, settings, sized, linktype, records⟩
  rcases second with ⟨otherOrder, otherSettings, otherSized, otherLinktype, otherRecords⟩
  rcases List.append_inj header (by simp [sized, otherSized]) with ⟨front, link⟩
  rcases List.append_inj front (by simp) with ⟨magic, setting⟩
  dsimp only at magic setting link body
  have orders : order = otherOrder := by
    cases order <;> cases otherOrder
    case little.little | big.big => rfl
    all_goals exact absurd magic (by decide)
  subst orders setting
  have words := congrArg order.decode link
  rw [order.decode_encode linktype.toNat_lt, order.decode_encode otherLinktype.toNat_lt,
    UInt32.toNat_inj] at words
  have found (records : List Record) := scan_octets order records []
  have items := congrArg (fun octets => ((recordScanner order).scan (octets ++ [])).items) body
  rw [found, found, Scan.after_items, Scan.after_items, List.append_left_inj] at items
  have pairs : Function.Injective fun record : Record => (record.packet, record.octets order) :=
    fun _ _ equal => Record.octets_injective order (Prod.mk.inj equal).2
  rw [words, List.map_injective_iff.mpr pairs items]

/-- Some octets of a record and not all of them. -/
def BreaksOff (order : ByteOrder) (part : Bytes) : Prop :=
  ∃ (record : Record) (missing : Bytes), record.octets order = part ++ missing ∧ part ≠ [] ∧
    missing ≠ []

theorem next_of_breaksOff {order : ByteOrder} {part : Bytes} (broken : BreaksOff order part) :
    (recordScanner order).next part = .more := by
  rcases broken with ⟨record, missing, split, _, lacks⟩
  have whole := record.next_octets order
  rw [split] at whole
  exact (recordScanner order).next_of_part whole lacks

/-- Octets that are not a record yet can be completed to one. -/
theorem breaksOff_of_next {order : ByteOrder} {part : Bytes} (present : part ≠ [])
    (incomplete : (recordScanner order).next part = .more) : BreaksOff order part := by
  -- Zeros complete the header, and then the data that it announces.
  let header := (part ++ List.replicate recordHeaderSize 0).take recordHeaderSize
  let size := recordHeaderSize + (RecordFields.unpack order header).inclLen
  have lacks : part.length < size := by
    by_contra! enough
    have long : recordHeaderSize ≤ part.length := Nat.le_trans (Nat.le_add_right _ _) enough
    have front : part.take recordHeaderSize = header := (List.take_append_of_le_length long).symm
    have fits : recordHeaderSize +
        (RecordFields.unpack order (part.take recordHeaderSize)).inclLen ≤ part.length := by
      rwa [front]
    have shown := recordScanner_item_iff.mpr ⟨rfl, fits, rfl⟩
    rw [incomplete] at shown
    cases shown
  let missing := List.replicate (size - part.length) (0 : UInt8)
  have sized : (part ++ missing).length = size := by
    rw [List.length_append, List.length_replicate]
    omega
  have headerSized : header.length = recordHeaderSize := by
    rw [List.length_take, List.length_append, List.length_replicate]
    omega
  have front : (part ++ missing).take recordHeaderSize = header := by
    simp only [header, missing, List.take_append, List.take_replicate]
    congr 2
    omega
  have body : (RecordFields.unpack order header).inclLen =
      ((part ++ missing).drop recordHeaderSize).length := by
    rw [List.length_drop, sized, Nat.add_sub_cancel_left]
  rcases RecordFields.unpack_complete order headerSized body with ⟨record, octets, _⟩
  rw [← front, List.take_append_drop] at octets
  refine ⟨record, missing, octets, present, ?_⟩
  rw [← List.length_pos_iff, List.length_replicate]
  omega

/-- A file that breaks off inside a record. -/
theorem readPackets_broken (file : CaptureFile) {part : Bytes} (broken : BreaksOff file.order part) :
    ∃ error, readPackets (file.octets ++ part) = ⟨file.packets, some error⟩ := by
  rcases readPackets_octets_append file (next_of_breaksOff broken) with ⟨raised, read, ends⟩
  rcases broken with ⟨_, _, _, present, _⟩
  cases raised with
  | none => exact absurd (ends.mp rfl) present
  | some error => exact ⟨error, read⟩

/-- The magic decides the byte order, which is that of the whole header. -/
theorem magic_octets {octets : Bytes} (sized : octets.length = 4) :
    (ByteOrder.little.decode octets = magicLe -> octets = ByteOrder.little.encode 4 magicLe) ∧
      (ByteOrder.little.decode octets = magicBe -> octets = ByteOrder.big.encode 4 magicLe) := by
  have back := ByteOrder.little.encode_decode octets
  rw [sized] at back
  constructor
  · intro same
    rw [← same, back]
  · intro swapped
    rw [← back, swapped]
    decide

/-- A known magic makes a header, and the scan of what is behind it makes the
records. -/
theorem exists_file (order : ByteOrder) {raw : Bytes} (long : fileHeaderSize ≤ raw.length)
    (magic : raw.take 4 = order.encode 4 magicLe) :
    ∃ (file : CaptureFile) (later : Bytes), raw = file.octets ++ later ∧
      (recordScanner file.order).next later = .more := by
  change 24 ≤ raw.length at long
  have settings : (slice raw 4 20).length = 16 := by
    rw [length_slice]
    omega
  have link : (slice raw 20 24).length = 4 := by
    rw [length_slice]
    omega
  rcases order.exists_word link with ⟨linktype, _, linkOctets⟩
  rcases items_eq_records order (raw.drop 24) with ⟨records, found⟩
  have partition := (recordScanner order).scan_partition (raw.drop 24)
  have stopped := (recordScanner order).next_rest (raw.drop 24)
  have header : raw.take 24 = raw.take 4 ++ slice raw 4 20 ++ slice raw 20 24 := by
    rw [take_append_slice raw (by decide), take_append_slice raw (by decide)]
  refine ⟨⟨order, slice raw 4 20, settings, linktype, records⟩,
    ((recordScanner order).scan (raw.drop 24)).rest, ?_, ?_⟩
  · rw [found, List.map_map] at partition
    rw [CaptureFile.octets, CaptureFile.header]
    dsimp only
    rw [linkOctets, ← magic, ← header, List.append_assoc]
    conv_lhs => rw [← List.take_append_drop 24 raw, ← partition]
    rfl
  · cases stop : ((recordScanner order).scan (raw.drop 24)).stop with
    | none => rwa [stop] at stopped
    | some error => exact error.elim

theorem readPackets_header_cases (raw : Bytes) :
    (∃ (file : CaptureFile) (later : Bytes), raw = file.octets ++ later ∧
        (recordScanner file.order).next later = .more) ∨
      ∃ error, readPackets raw = ⟨[], some error⟩ := by
  rw [readPackets]
  split
  case isTrue short => exact .inr ⟨_, rfl⟩
  case isFalse long =>
    have sized : (raw.take 4).length = 4 := by
      rw [List.length_take]
      change ¬ raw.length < 24 at long
      omega
    rcases magic_octets sized with ⟨little, big⟩
    dsimp only
    split
    case isTrue known => exact .inl (exists_file .little (Nat.le_of_not_lt long) (little known))
    case isFalse =>
      split
      case isTrue known => exact .inl (exists_file .big (Nat.le_of_not_lt long) (big known))
      case isFalse => exact .inr ⟨_, rfl⟩

/-- Whatever has a header is a file, or breaks off inside a record behind
one. -/
theorem readPackets_cases (raw : Bytes) :
    (∃ file : CaptureFile, raw = file.octets) ∨
      (∃ (file : CaptureFile) (part : Bytes), raw = file.octets ++ part ∧
        BreaksOff file.order part) ∨
      ∃ error, readPackets raw = ⟨[], some error⟩ := by
  rcases readPackets_header_cases raw with ⟨file, later, rfl, incomplete⟩ | refused
  · by_cases present : later = []
    · left
      rw [present, List.append_nil]
      exact ⟨file, rfl⟩
    · exact .inr (.inl ⟨file, later, rfl, breaksOff_of_next present incomplete⟩)
  · exact .inr (.inr refused)

/-- The reader accepts the well-formed files and nothing else. -/
theorem readPackets_complete_iff (raw : Bytes) :
    (readPackets raw).raised = none <-> ∃ file : CaptureFile, raw = file.octets := by
  constructor
  · intro complete
    rcases readPackets_cases raw with whole | ⟨file, part, rfl, broken⟩ | ⟨error, refused⟩
    · exact whole
    · rcases readPackets_broken file broken with ⟨error, read⟩
      rw [read] at complete
      cases complete
    · rw [refused] at complete
      cases complete
  · rintro ⟨file, rfl⟩
    rw [readPackets_octets]

end Wireline
