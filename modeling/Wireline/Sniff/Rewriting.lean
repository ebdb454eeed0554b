import Wireline.Sniff.PcapWriter

namespace Wireline

open Rounding Sequences

/-!
# Writing what was read

A capture from elsewhere may be in the other byte order, with packets that were
cut when they were captured and with more than a million microseconds in a
record.  Read and written again it becomes a file in one normal form, which
writing does not change any more.  Times and octets of the packets stay; what
is lost is how long a cut packet was.
-/

/-- A file as the writer leaves it. -/
structure Normal (linktype snaplen : Int) (file : CaptureFile) : Prop where
  order : file.order = .little
  settings : file.settings = writerSettings snaplen.toNat
  linktype : (file.linktype.toNat : Int) = linktype
  carried : forall record, record ∈ file.records -> record.tsUsec.toNat < 1000000
  uncut : forall record, record ∈ file.records ->
    record.originalLength.toNat = record.data.length

/-! ## One record -/

/-- The microseconds of a record carry into its seconds. -/
theorem Record.timestamp_eq (record : Record) :
    record.timestamp = ((record.tsSec.toNat + record.tsUsec.toNat / 1000000 : Nat) : ℚ) +
      ((record.tsUsec.toNat % 1000000 : Nat) : ℚ) / 1000000 := by
  have parts := Nat.div_add_mod record.tsUsec.toNat 1000000
  rw [Record.timestamp]
  generalize record.tsUsec.toNat / 1000000 = whole at parts ⊢
  generalize record.tsUsec.toNat % 1000000 = part at parts ⊢
  rw [← parts]
  push_cast
  ring

theorem Record.timestamp_parts (record : Record) :
    truncate record.timestamp = (record.tsSec.toNat + record.tsUsec.toNat / 1000000 : Nat) ∧
      units 1000000 record.timestamp = (record.tsUsec.toNat % 1000000 : Nat) := by
  have small : ((record.tsUsec.toNat % 1000000 : Nat) : Int) < 1000000 := by omega
  rw [record.timestamp_eq]
  exact truncate_units_of_lt (Int.natCast_nonneg _) (Int.natCast_nonneg _) small

/-- What is written for a record that was read. -/
theorem emits_own_iff {record written : Record} :
    Emits (record.timestamp, record.data) written <->
      written.tsSec.toNat = record.tsSec.toNat + record.tsUsec.toNat / 1000000 ∧
        written.tsUsec.toNat = record.tsUsec.toNat % 1000000 ∧
        written.originalLength.toNat = record.data.length ∧ written.data = record.data := by
  have parts := record.timestamp_parts
  constructor
  · rintro ⟨sec, usec, originalLength, data⟩
    rw [parts.1] at sec
    rw [parts.2] at usec
    exact ⟨Int.ofNat_inj.mp sec, Int.ofNat_inj.mp usec, originalLength, data⟩
  · rintro ⟨sec, usec, originalLength, data⟩
    refine ⟨?_, ?_, originalLength, data⟩
    · rw [parts.1, sec]
    · rw [parts.2, usec]

/-- A record is written again as it stands if its microseconds do not reach a
second and it is not cut. -/
theorem emits_self_iff {record : Record} :
    Emits (record.timestamp, record.data) record <->
      record.tsUsec.toNat < 1000000 ∧ record.originalLength.toNat = record.data.length := by
  rw [emits_own_iff]
  constructor
  · rintro ⟨_, usec, originalLength, _⟩
    exact ⟨by omega, originalLength⟩
  · rintro ⟨carried, uncut⟩
    exact ⟨by omega, by omega, uncut, rfl⟩

theorem emits_unique {packet : ℚ × Bytes} {first second : Record} (one : Emits packet first)
    (other : Emits packet second) : first = second := by
  rcases first with ⟨sec, usec, originalLength, data, sized⟩
  rcases second with ⟨sec', usec', originalLength', data', sized'⟩
  have seconds : sec = sec' := UInt32.toNat_inj.mp (Int.ofNat_inj.mp (one.sec.trans other.sec.symm))
  have parts : usec = usec' :=
    UInt32.toNat_inj.mp (Int.ofNat_inj.mp (one.usec.trans other.usec.symm))
  have lengths : originalLength = originalLength' :=
    UInt32.toNat_inj.mp (one.originalLength.trans other.originalLength.symm)
  have octets : data = data' := one.data.trans other.data.symm
  subst seconds parts lengths octets
  rfl

/-- The seconds fit their field again unless the carry leaves it. -/
theorem exists_emits_own_iff {record : Record} :
    (∃ written, Emits (record.timestamp, record.data) written) <-> record.timestamp < 2 ^ 32 := by
  have early : record.timestamp < 2 ^ 32 <->
      record.tsSec.toNat + record.tsUsec.toNat / 1000000 < 2 ^ 32 := by
    have part : ((record.tsUsec.toNat % 1000000 : Nat) : ℚ) < 1000000 := by
      exact_mod_cast Nat.mod_lt _ (by decide)
    have nonneg : (0 : ℚ) ≤ ((record.tsUsec.toNat % 1000000 : Nat) : ℚ) := Nat.cast_nonneg _
    rw [record.timestamp_eq]
    generalize record.tsSec.toNat + record.tsUsec.toNat / 1000000 = whole
    constructor
    · intro below
      have least : (whole : ℚ) < 2 ^ 32 := by linarith
      exact_mod_cast least
    · intro below
      have most : (whole : ℚ) + 1 ≤ 2 ^ 32 := by exact_mod_cast below
      linarith
  rw [early]
  constructor
  · rintro ⟨written, emits⟩
    rw [← (emits_own_iff.mp emits).1]
    exact written.tsSec.toNat_lt
  · intro fits
    have small : record.tsUsec.toNat % 1000000 < 2 ^ 32 := by omega
    refine ⟨⟨.ofNatLT _ fits, .ofNatLT _ small, .ofNatLT _ record.sized, record.data, record.sized⟩,
      emits_own_iff.mpr ⟨?_, ?_, ?_, rfl⟩⟩ <;> exact UInt32.toNat_ofNatLT ..

/-- The time that is written is the time that was read. -/
theorem timestamp_of_emits {record written : Record}
    (emits : Emits (record.timestamp, record.data) written) :
    written.timestamp = record.timestamp := by
  have parts := emits_own_iff.mp emits
  rw [record.timestamp_eq, Record.timestamp, parts.1, parts.2.1]

/-! ## Whole files -/

/-- The files that a file is written to. -/
def Rewrites (file : CaptureFile) (linktype snaplen : Int) (written : CaptureFile) : Prop :=
  Writes (file.records.map fun record => (record.timestamp, record.data)) linktype snaplen written

theorem rewritten_iff {file : CaptureFile} {linktype snaplen : Int} {raw : Bytes} :
    writePackets (readPairs file.octets) linktype snaplen = some raw <->
      ∃ written, Rewrites file linktype snaplen written ∧ raw = written.octets := by
  rw [readPairs_octets, writePackets_eq_some_iff]
  rfl

section

variable {file written : CaptureFile} {linktype snaplen : Int}
  (rewrites : Rewrites file linktype snaplen written)
include rewrites

theorem Rewrites.emitted : List.Forall₂
    (fun record written => Emits (record.timestamp, record.data) written) file.records
      written.records :=
  List.forall₂_map_left_iff.mp rewrites.records

theorem Rewrites.normal : Normal linktype snaplen written where
  order := rewrites.order
  settings := rewrites.settings
  linktype := rewrites.linktype
  carried := by
    intro record member
    rcases exists_forall₂_iff.mp ⟨_, rewrites.emitted.flip⟩ record member with ⟨origin, emits⟩
    have usec := (emits_own_iff.mp emits).2.1
    omega
  uncut := by
    intro record member
    rcases exists_forall₂_iff.mp ⟨_, rewrites.emitted.flip⟩ record member with ⟨origin, emits⟩
    have parts := (emits_own_iff.mp emits).2.2
    rw [parts.1, parts.2]

theorem Rewrites.readPairs_eq : readPairs written.octets = readPairs file.octets := by
  rw [readPairs_octets, readPairs_octets]
  have kept {records others : List Record} (emitted : List.Forall₂
      (fun record written => Emits (record.timestamp, record.data) written) records others) :
      (others.map fun record => (record.timestamp, record.data)) =
        records.map fun record => (record.timestamp, record.data) := by
    induction emitted with
    | nil => rfl
    | cons emits _ ih => rw [List.map_cons, List.map_cons, ih, timestamp_of_emits emits, emits.data]
  exact kept rewrites.emitted

/-- A file in normal form is written as it is. -/
theorem Rewrites.eq_of_normal (normal : Normal linktype snaplen file) : written = file := by
  rcases file with ⟨order, settings, sized, link, records⟩
  rcases written with ⟨order', settings', sized', link', records'⟩
  have orders : order' = order := rewrites.order.trans normal.order.symm
  have front : settings' = settings := rewrites.settings.trans normal.settings.symm
  have links : link' = link :=
    UInt32.toNat_inj.mp (Int.ofNat_inj.mp (rewrites.linktype.trans normal.linktype.symm))
  have kept {records others : List Record} (emitted : List.Forall₂
      (fun record written => Emits (record.timestamp, record.data) written) records others)
      (own : forall record, record ∈ records -> Emits (record.timestamp, record.data) record) :
      others = records := by
    induction emitted with
    | nil => rfl
    | cons emits _ ih =>
        rw [List.forall_mem_cons] at own
        rw [emits_unique emits own.1, ih own.2]
  have same : records' = records := kept rewrites.emitted fun record member =>
    emits_self_iff.mpr ⟨normal.carried record member, normal.uncut record member⟩
  subst orders front links same
  rfl

end

/-- A file can be written again exactly if no carry leaves the seconds.  What
is written is canonical, with the times and the octets of the file, and it is
the file itself exactly if that is in normal form. -/
theorem rewriting_normalises (file : CaptureFile) (linktype snaplen : Int) :
    ((∃ raw, writePackets (readPairs file.octets) linktype snaplen = some raw) <->
      (0 ≤ linktype ∧ linktype < 2 ^ 32) ∧ (0 ≤ snaplen ∧ snaplen < 2 ^ 32) ∧
        forall record, record ∈ file.records -> record.timestamp < 2 ^ 32) ∧
      forall raw, writePackets (readPairs file.octets) linktype snaplen = some raw ->
        Canonical linktype snaplen raw ∧ readPairs raw = readPairs file.octets ∧
          (raw = file.octets <-> Normal linktype snaplen file) := by
  refine ⟨?_, ?_⟩
  · constructor
    · rintro ⟨raw, again⟩
      rcases rewritten_iff.mp again with ⟨written, rewrites, rfl⟩
      have link := written.linktype.toNat_lt
      refine ⟨?_, rewrites.fits, ?_⟩
      · rw [← rewrites.linktype]
        omega
      · intro record member
        rcases exists_forall₂_iff.mp ⟨_, rewrites.emitted⟩ record member with ⟨own, emits⟩
        exact exists_emits_own_iff.mp ⟨own, emits⟩
    · rintro ⟨⟨linkLow, linkHigh⟩, snap, early⟩
      rcases exists_word_of_range linkLow linkHigh with ⟨link, linkWord⟩
      rcases exists_forall₂_iff.mpr fun record member =>
        exists_emits_own_iff.mpr (early record member) with ⟨records, emitted⟩
      exact ⟨_, rewritten_iff.mpr
        ⟨⟨.little, writerSettings snaplen.toNat, by simp [writerSettings], link, records⟩,
          ⟨rfl, snap, rfl, linkWord, List.forall₂_map_left_iff.mpr emitted⟩, rfl⟩⟩
  · intro raw again
    rcases rewritten_iff.mp again with ⟨written, rewrites, rfl⟩
    refine ⟨⟨?_, ?_⟩, rewrites.readPairs_eq, ?_, ?_⟩
    · intro file same
      rw [← CaptureFile.octets_injective same]
      exact rewrites.normal.carried
    · rw [rewrites.readPairs_eq]
      exact again
    · intro same
      rw [← CaptureFile.octets_injective same]
      exact rewrites.normal
    · intro normal
      rw [rewrites.eq_of_normal normal]

end Wireline
