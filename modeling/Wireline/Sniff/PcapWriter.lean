import Wireline.Library.Rounding
import Wireline.Library.Sequences
import Wireline.Sniff.Pcap

namespace Wireline

open Rounding Sequences

/-!
# Writing a capture

The writer truncates a timestamp to seconds and rounds what is left to
microseconds.  What it writes is read back, and a timestamp is found again to
half a microsecond.

Rounding may reach a whole second.  The writer does not carry it into the
seconds: the record has a microsecond field of 1,000,000, and writing what is
read from it gives another record.
-/

/-- `struct.Struct.pack` for unsigned fields, each a width and a value.
`none` is the `struct.error` of a value that does not fit. -/
def ByteOrder.pack (order : ByteOrder) (fields : List (Nat × Int)) : Option Bytes :=
  if forall field, field ∈ fields -> 0 ≤ field.2 ∧ field.2 < 256 ^ field.1 then
    some (fields.map fun field => order.encode field.1 field.2.toNat).flatten
  else none

/-- One turn of the loop of `write_packets`. -/
def writeRecord (out : Bytes) (timestamp : ℚ) (data : Bytes) : Option Bytes := do
  let sec := truncate timestamp
  let usec := halfEven ((timestamp - sec) * 1000000)
  let header <- ByteOrder.little.pack [(4, sec), (4, usec), (4, data.length), (4, data.length)]
  some (out ++ header ++ data)

/-- Write a capture.  The time zone is the one field that is signed, and it
is zero. -/
def writePackets (packets : List (ℚ × Bytes)) (linktype : Int := linktypeEthernet)
    (snaplen : Int := 65535) : Option Bytes := do
  let out <- ByteOrder.little.pack
    [(4, magicLe), (2, 2), (2, 4), (4, 0), (4, 0), (4, snaplen), (4, linktype)]
  packets.foldlM (fun out packet => writeRecord out packet.1 packet.2) out

theorem ByteOrder.pack_eq_some_iff {order : ByteOrder} {fields : List (Nat × Int)} {raw : Bytes} :
    order.pack fields = some raw <->
      (forall field, field ∈ fields -> 0 ≤ field.2 ∧ field.2 < 256 ^ field.1) ∧
        raw = (fields.map fun field => order.encode field.1 field.2.toNat).flatten := by
  rw [pack, Option.ite_none_right_eq_some, Option.some_inj]
  exact and_congr_right fun _ => eq_comm

theorem exists_word_of_range {value : Int} (nonneg : 0 ≤ value) (fits : value < 256 ^ 4) :
    ∃ word : UInt32, (word.toNat : Int) = value := by
  have small : value.toNat < 2 ^ 32 := by omega
  refine ⟨.ofNatLT _ small, ?_⟩
  rw [UInt32.toNat_ofNatLT, Int.toNat_of_nonneg nonneg]

/-! ## What is written -/

/-- The record that a packet leaves. -/
structure Emits (packet : ℚ × Bytes) (record : Record) : Prop where
  sec : (record.tsSec.toNat : Int) = truncate packet.1
  usec : (record.tsUsec.toNat : Int) = units 1000000 packet.1
  originalLength : record.originalLength.toNat = packet.2.length
  data : record.data = packet.2

/-- Four words that fit are the header of a record. -/
theorem exists_record {sec usec : Int} {data header : Bytes}
    (packed : ByteOrder.little.pack
      [(4, sec), (4, usec), (4, data.length), (4, data.length)] = some header) :
    ∃ record : Record, (record.tsSec.toNat : Int) = sec ∧ (record.tsUsec.toNat : Int) = usec ∧
      record.originalLength.toNat = data.length ∧ record.data = data ∧
        header = record.header .little := by
  rcases ByteOrder.pack_eq_some_iff.mp packed with ⟨fits, rfl⟩
  simp only [List.forall_mem_cons] at fits
  rcases fits with ⟨⟨secLow, secHigh⟩, ⟨usecLow, usecHigh⟩, ⟨lengthLow, lengthHigh⟩, _⟩
  rcases exists_word_of_range secLow secHigh with ⟨sec, rfl⟩
  rcases exists_word_of_range usecLow usecHigh with ⟨usec, rfl⟩
  rcases exists_word_of_range lengthLow lengthHigh with ⟨length, sized⟩
  have same : length.toNat = data.length := Int.ofNat_inj.mp sized
  have bound : data.length < 2 ^ 32 := by
    rw [← same]
    exact length.toNat_lt
  refine ⟨⟨sec, usec, length, data, bound⟩, rfl, rfl, same, rfl, ?_⟩
  simp [Record.header, same]

theorem pack_record {record : Record} (uncut : record.originalLength.toNat = record.data.length) :
    ByteOrder.little.pack [(4, record.tsSec.toNat), (4, record.tsUsec.toNat),
      (4, record.data.length), (4, record.data.length)] = some (record.header .little) := by
  have sec := record.tsSec.toNat_lt
  have usec := record.tsUsec.toNat_lt
  have sized := record.sized
  rw [ByteOrder.pack_eq_some_iff]
  constructor
  · simp only [List.forall_mem_cons]
    refine ⟨?_, ?_, ?_, ?_, List.forall_mem_nil _⟩ <;> omega
  · simp [Record.header, uncut]

theorem writeRecord_eq_some_iff {out after : Bytes} {timestamp : ℚ} {data : Bytes} :
    writeRecord out timestamp data = some after <->
      ∃ record, Emits (timestamp, data) record ∧ after = out ++ record.octets .little := by
  rw [writeRecord, Option.bind_eq_bind, Option.bind_eq_some_iff]
  constructor
  · rintro ⟨header, packed, ⟨⟩⟩
    rcases exists_record packed with ⟨record, sec, usec, originalLength, rfl, rfl⟩
    exact ⟨record, ⟨sec, usec, originalLength, rfl⟩, List.append_assoc ..⟩
  · rintro ⟨record, ⟨sec, usec, originalLength, same⟩, rfl⟩
    subst same
    have packed := pack_record originalLength
    rw [sec, usec] at packed
    exact ⟨record.header .little, packed, congrArg some (List.append_assoc ..)⟩

/-- The loop puts one record behind another. -/
theorem foldlM_writeRecord_eq_some_iff {packets : List (ℚ × Bytes)} {out raw : Bytes} :
    packets.foldlM (fun out packet => writeRecord out packet.1 packet.2) out = some raw <->
      ∃ records, List.Forall₂ Emits packets records ∧
        raw = out ++ (records.map (Record.octets .little)).flatten := by
  induction packets generalizing out with
  | nil =>
      rw [List.foldlM_nil]
      constructor
      · rintro ⟨⟩
        exact ⟨[], .nil, (List.append_nil _).symm⟩
      · rintro ⟨records, ⟨⟩, rfl⟩
        exact congrArg some (List.append_nil _).symm
  | cons packet packets ih =>
      rw [List.foldlM_cons, Option.bind_eq_bind, Option.bind_eq_some_iff]
      constructor
      · rintro ⟨after, written, rest⟩
        rcases writeRecord_eq_some_iff.mp written with ⟨record, emits, rfl⟩
        rcases ih.mp rest with ⟨records, all, rfl⟩
        exact ⟨record :: records, .cons emits all, List.append_assoc ..⟩
      · rintro ⟨_, matched, rfl⟩
        rcases List.forall₂_cons_left_iff.mp matched with ⟨record, records, emits, all, rfl⟩
        exact ⟨_, writeRecord_eq_some_iff.mpr ⟨record, emits, rfl⟩,
          ih.mpr ⟨records, all, (List.append_assoc ..).symm⟩⟩

/-- The fields that the reader skips. -/
def writerSettings (snaplen : Nat) : Bytes :=
  ByteOrder.little.encode 2 2 ++ ByteOrder.little.encode 2 4 ++ ByteOrder.little.encode 4 0 ++
    ByteOrder.little.encode 4 0 ++ ByteOrder.little.encode 4 snaplen

/-- The file that a capture is written to. -/
structure Writes (packets : List (ℚ × Bytes)) (linktype snaplen : Int) (file : CaptureFile) :
    Prop where
  order : file.order = .little
  fits : 0 ≤ snaplen ∧ snaplen < 2 ^ 32
  settings : file.settings = writerSettings snaplen.toNat
  linktype : (file.linktype.toNat : Int) = linktype
  records : List.Forall₂ Emits packets file.records

/-- A capture is written exactly if some file writes the packets, and then it
is that file. -/
theorem writePackets_eq_some_iff {packets : List (ℚ × Bytes)} {linktype snaplen : Int}
    {raw : Bytes} :
    writePackets packets linktype snaplen = some raw <->
      ∃ file, Writes packets linktype snaplen file ∧ raw = file.octets := by
  rw [writePackets, Option.bind_eq_bind, Option.bind_eq_some_iff]
  constructor
  · rintro ⟨header, packed, written⟩
    rcases foldlM_writeRecord_eq_some_iff.mp written with ⟨records, all, rfl⟩
    rcases ByteOrder.pack_eq_some_iff.mp packed with ⟨fits, rfl⟩
    simp only [List.forall_mem_cons] at fits
    rcases fits with ⟨_, _, _, _, _, snap, ⟨linkLow, linkHigh⟩, _⟩
    rcases exists_word_of_range linkLow linkHigh with ⟨linktype, rfl⟩
    refine ⟨⟨.little, writerSettings snaplen.toNat, by simp [writerSettings], linktype, records⟩,
      ⟨rfl, by omega, rfl, rfl, all⟩, ?_⟩
    simp [CaptureFile.octets, CaptureFile.header, writerSettings]
  · rintro ⟨⟨order, settings, sized, linktype, records⟩, ⟨rfl, snap, rfl, rfl, all⟩, rfl⟩
    have link := linktype.toNat_lt
    refine ⟨_, ByteOrder.pack_eq_some_iff.mpr ⟨?_, rfl⟩,
      foldlM_writeRecord_eq_some_iff.mpr ⟨records, all, ?_⟩⟩
    · simp only [List.forall_mem_cons]
      refine ⟨by decide, by decide, by decide, by decide, by decide, ?_, ?_, List.forall_mem_nil _⟩ <;> omega
    · simp [CaptureFile.octets, CaptureFile.header, writerSettings]

/-! ## Reading back -/

/-- The timestamps for which a record has room. -/
def InRange (timestamp : ℚ) : Prop := 0 ≤ timestamp ∧ timestamp < 2 ^ 32 - 1

theorem exists_emits {packet : ℚ × Bytes} (range : InRange packet.1)
    (sized : packet.2.length < 2 ^ 32) : ∃ record, Emits packet record := by
  rcases range with ⟨nonneg, early⟩
  have secLow : 0 ≤ truncate packet.1 := by
    rw [truncate_of_nonneg nonneg]
    exact Int.floor_nonneg.mpr nonneg
  have secHigh : truncate packet.1 < 256 ^ 4 := by
    rw [truncate_of_nonneg nonneg, Int.floor_lt]
    push_cast
    linarith
  have scale : ((1000000 : Int) : ℚ) = 1000000 := Int.cast_ofNat 1000000
  have usecLow : 0 ≤ units 1000000 packet.1 := units_nonneg (by norm_num) nonneg
  have usecHigh : units 1000000 packet.1 ≤ 1000000 := by
    rw [← scale]
    exact units_le (by decide) nonneg
  rcases exists_word_of_range secLow secHigh with ⟨sec, secWord⟩
  rcases exists_word_of_range usecLow (lt_of_le_of_lt usecHigh (by decide)) with ⟨usec, usecWord⟩
  exact ⟨⟨sec, usec, .ofNatLT _ sized, packet.2, sized⟩, secWord, usecWord,
    UInt32.toNat_ofNatLT .., rfl⟩

/-- What fits its field is written. -/
theorem exists_writePackets_iff {packets : List (ℚ × Bytes)} {linktype snaplen : Int}
    (range : forall packet, packet ∈ packets -> InRange packet.1) :
    (∃ raw, writePackets packets linktype snaplen = some raw) <->
      (0 ≤ linktype ∧ linktype < 2 ^ 32) ∧ (0 ≤ snaplen ∧ snaplen < 2 ^ 32) ∧
        forall packet, packet ∈ packets -> packet.2.length < 2 ^ 32 := by
  constructor
  · rintro ⟨raw, written⟩
    rcases writePackets_eq_some_iff.mp written with ⟨file, writes, _⟩
    have link := file.linktype.toNat_lt
    refine ⟨?_, writes.fits, ?_⟩
    · rw [← writes.linktype]
      omega
    · intro packet member
      rcases exists_forall₂_iff.mp ⟨_, writes.records⟩ packet member with ⟨record, emits⟩
      rw [← emits.data]
      exact record.sized
  · rintro ⟨⟨linkLow, linkHigh⟩, snap, sized⟩
    rcases exists_word_of_range linkLow linkHigh with ⟨link, linkWord⟩
    rcases exists_forall₂_iff.mpr fun packet member =>
      exists_emits (range packet member) (sized packet member) with ⟨records, all⟩
    exact ⟨_, writePackets_eq_some_iff.mpr
      ⟨⟨.little, writerSettings snaplen.toNat, by simp [writerSettings], link, records⟩,
        ⟨rfl, snap, rfl, linkWord, all⟩, rfl⟩⟩

/-- What the reader yields for a packet. -/
structure ReadBack (linktype : Int) (packet : ℚ × Bytes) (yielded : Nat × Packet) : Prop where
  linktype : (yielded.1 : Int) = linktype
  data : yielded.2.data = packet.2
  originalLength : yielded.2.originalLength = packet.2.length
  timestamp : |yielded.2.timestamp - packet.1| ≤ 1 / 2000000

theorem Emits.timestamp {packet : ℚ × Bytes} {record : Record} (emits : Emits packet record) :
    record.timestamp = truncate packet.1 + units 1000000 packet.1 / 1000000 := by
  rw [Record.timestamp, ← emits.sec, ← emits.usec, Int.cast_natCast, Int.cast_natCast]

theorem Writes.readBack {packets : List (ℚ × Bytes)} {linktype snaplen : Int} {file : CaptureFile}
    (writes : Writes packets linktype snaplen file) :
    List.Forall₂ (ReadBack linktype) packets file.packets := by
  rw [CaptureFile.packets, List.forall₂_map_right_iff]
  refine writes.records.imp fun packet record emits => ⟨writes.linktype, emits.data,
    emits.originalLength, ?_⟩
  have close := abs_truncate_add_units_sub_le (show (0 : ℚ) < 1000000 by norm_num) packet.1
  rw [← emits.timestamp] at close
  exact le_trans close (by norm_num)

/-- A capture is read if and only if it is a well-formed file, up to the record
inside which it breaks off, and everything that is written is found again. -/
theorem readPackets_writePackets :
    (forall raw, (readPackets raw).raised = none <-> ∃ file : CaptureFile, raw = file.octets) ∧
      (forall file : CaptureFile, readPackets file.octets = ⟨file.packets, none⟩) ∧
      (forall (file : CaptureFile) (part : Bytes), BreaksOff file.order part ->
        ∃ error, readPackets (file.octets ++ part) = ⟨file.packets, some error⟩) ∧
      forall (packets : List (ℚ × Bytes)) (linktype snaplen : Int),
        (forall packet, packet ∈ packets -> InRange packet.1) ->
          ((∃ raw, writePackets packets linktype snaplen = some raw) <->
            (0 ≤ linktype ∧ linktype < 2 ^ 32) ∧ (0 ≤ snaplen ∧ snaplen < 2 ^ 32) ∧
              forall packet, packet ∈ packets -> packet.2.length < 2 ^ 32) ∧
          forall raw, writePackets packets linktype snaplen = some raw ->
            ∃ yielded, readPackets raw = ⟨yielded, none⟩ ∧
              List.Forall₂ (ReadBack linktype) packets yielded := by
  refine ⟨readPackets_complete_iff, readPackets_octets, fun file part => readPackets_broken file,
    fun packets linktype snaplen range => ⟨exists_writePackets_iff range, ?_⟩⟩
  intro raw written
  rcases writePackets_eq_some_iff.mp written with ⟨file, writes, rfl⟩
  exact ⟨file.packets, readPackets_octets file, writes.readBack⟩

theorem twoPackets_read : ∃ raw yielded,
    writePackets [(3 / 2, [7]), (9 / 4, [])] = some raw ∧ readPackets raw = ⟨yielded, none⟩ ∧
      List.Forall₂ (ReadBack linktypeEthernet) [(3 / 2, [7]), (9 / 4, [])] yielded := by
  have range : forall packet, packet ∈ ([(3 / 2, [7]), (9 / 4, [])] : List (ℚ × Bytes)) ->
      InRange packet.1 := by
    simp only [List.forall_mem_cons, InRange]
    norm_num
  rcases readPackets_writePackets.2.2.2 _ linktypeEthernet 65535 range with ⟨possible, found⟩
  rcases possible.mpr (by simp [linktypeEthernet]) with ⟨raw, written⟩
  rcases found raw written with ⟨yielded, read, matched⟩
  exact ⟨raw, yielded, written, read, matched⟩

/-! ## Writing again -/

/-- The pairs that the reader yields. -/
def readPairs (raw : Bytes) : List (ℚ × Bytes) :=
  (readPackets raw).packets.map fun yielded => (yielded.2.timestamp, yielded.2.data)

/-- Microseconds stay below a second, and writing what was read reproduces
the file. -/
structure Canonical (linktype snaplen : Int) (raw : Bytes) : Prop where
  usec : forall file : CaptureFile, raw = file.octets ->
    forall record, record ∈ file.records -> record.tsUsec.toNat < 1000000
  again : writePackets (readPairs raw) linktype snaplen = some raw

theorem readPairs_octets (file : CaptureFile) :
    readPairs file.octets = file.records.map fun record => (record.timestamp, record.data) := by
  rw [readPairs, readPackets_octets, List.map_map]
  rfl

/-- Rounding reaches the next second half a microsecond before it. -/
theorem Emits.usec_lt_iff {packet : ℚ × Bytes} {record : Record} (nonneg : 0 ≤ packet.1)
    (emits : Emits packet record) :
    record.tsUsec.toNat < 1000000 <-> packet.1 - ⌊packet.1⌋ < 1999999 / 2000000 := by
  have carry := units_lt_iff (show Even (1000000 : Int) by decide) packet.1
  rw [truncate_of_nonneg nonneg, Int.cast_ofNat, ← emits.usec] at carry
  have bound : (record.tsUsec.toNat : Int) < 1000000 <-> record.tsUsec.toNat < 1000000 := by
    omega
  rw [← bound, carry]
  constructor
  · intro below
    linarith
  · intro below
    linarith

/-- A record whose seconds and microseconds do not overlap is what its own
timestamp leaves. -/
theorem emits_again {record : Record} (carryless : record.tsUsec.toNat < 1000000)
    (uncut : record.originalLength.toNat = record.data.length) :
    Emits (record.timestamp, record.data) record := by
  have found : truncate record.timestamp = (record.tsSec.toNat : Int) ∧
      units 1000000 record.timestamp = (record.tsUsec.toNat : Int) :=
    truncate_units_of_lt (Int.natCast_nonneg record.tsSec.toNat)
      (Int.natCast_nonneg record.tsUsec.toNat) (Int.ofNat_lt.mpr carryless)
  exact ⟨found.1.symm, found.2.symm, uncut, rfl⟩

/-- A file is reproduced exactly when no timestamp is within half a microsecond
below a second. -/
theorem canonical_iff {packets : List (ℚ × Bytes)} {linktype snaplen : Int} {raw : Bytes}
    (range : forall packet, packet ∈ packets -> InRange packet.1)
    (written : writePackets packets linktype snaplen = some raw) :
    Canonical linktype snaplen raw <->
      forall packet, packet ∈ packets -> packet.1 - ⌊packet.1⌋ < 1999999 / 2000000 := by
  rcases writePackets_eq_some_iff.mp written with ⟨file, writes, rfl⟩
  -- The condition on the packets is one on the records that they leave.
  have carryless : (forall packet, packet ∈ packets -> packet.1 - ⌊packet.1⌋ < 1999999 / 2000000) <->
      forall record, record ∈ file.records -> record.tsUsec.toNat < 1000000 :=
    forall_mem_congr writes.records fun packet record member emits =>
      (emits.usec_lt_iff (range packet member).1).symm
  rw [carryless]
  constructor
  · intro canonical
    exact canonical.usec file rfl
  · intro usec
    refine ⟨?_, ?_⟩
    · intro other same
      rwa [← CaptureFile.octets_injective same]
    · rw [readPairs_octets, writePackets_eq_some_iff]
      refine ⟨file, ⟨writes.order, writes.fits, writes.settings, writes.linktype, ?_⟩, rfl⟩
      rw [List.forall₂_map_left_iff, List.forall₂_same]
      intro record member
      have emitted : List.Forall₂ (flip Emits) file.records packets := .flip writes.records
      rcases exists_forall₂_iff.mp ⟨_, emitted⟩ record member with ⟨packet, emits⟩
      exact emits_again (usec record member) (emits.originalLength.trans (by rw [emits.data]))

theorem threeHalves_canonical : ∃ raw,
    writePackets [(3 / 2, [7])] = some raw ∧ Canonical linktypeEthernet 65535 raw := by
  have range : forall packet, packet ∈ ([(3 / 2, [7])] : List (ℚ × Bytes)) -> InRange packet.1 := by
    simp only [List.forall_mem_cons, InRange]
    norm_num
  have possible : ∃ raw, writePackets [(3 / 2, [7])] = some raw :=
    (exists_writePackets_iff range).mpr (by simp [linktypeEthernet])
  rcases possible with ⟨raw, written⟩
  refine ⟨raw, written, (canonical_iff range written).mpr ?_⟩
  simp only [List.forall_mem_singleton]
  norm_num

/-- 1.9999997 s is stored as one second and a million microseconds. -/
def carriedRecord : Record := ⟨1, 1000000, 1, [7], by decide⟩

def carriedFile : CaptureFile :=
  ⟨.little, writerSettings 65535, by simp [writerSettings], 1, [carriedRecord]⟩

/-- The carry is not stored as such, and is made when the file is written
again. -/
theorem carried_not_canonical :
    InRange (19999997 / 10000000) ∧ ∃ raw, writePackets [(19999997 / 10000000, [7])] = some raw ∧
      ¬ (forall file : CaptureFile, raw = file.octets ->
        forall record, record ∈ file.records -> record.tsUsec.toNat < 1000000) ∧
      writePackets (readPairs raw) ≠ some raw := by
  have emits : Emits (19999997 / 10000000, [7]) carriedRecord :=
    ⟨by decide +kernel, by decide +kernel, rfl, rfl⟩
  have writes : Writes [(19999997 / 10000000, [7])] linktypeEthernet 65535 carriedFile :=
    ⟨rfl, by decide, rfl, rfl, .cons emits .nil⟩
  refine ⟨by norm_num [InRange], carriedFile.octets, writePackets_eq_some_iff.mpr ⟨_, writes, rfl⟩,
    ?_, ?_⟩
  · intro below
    exact absurd (below carriedFile rfl carriedRecord List.mem_cons_self) (by decide)
  · rw [readPairs_octets, Ne, writePackets_eq_some_iff]
    rintro ⟨other, again, same⟩
    rw [← CaptureFile.octets_injective same] at again
    rcases List.forall₂_cons.mp again.records with ⟨carried, _⟩
    exact absurd carried.sec (by decide +kernel)

end Wireline
