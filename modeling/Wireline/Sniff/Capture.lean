import Wireline.Sniff.Dissect

namespace Wireline

/-!
# One row per packet

`dissect` walks a capture record by record.  Taking a field never raises, so a
well-formed file is dissected to its end.  A frame that is too short for its
Ethernet header is the one packet that leaves no row.
-/

/-- What `dissect` can raise. -/
inductive SniffError
  | pcap (error : PcapError)
  | field (error : FieldError)
deriving DecidableEq, Repr

/-- The loop of `dissect` over the packets that the reader yields. -/
def dissectAll : List (Nat × Packet) -> Except FieldError (List Row)
  | [] => .ok []
  | (linktype, packet) :: packets => do
      let row <- dissectPacket linktype packet
      let rows <- dissectAll packets
      .ok (row.toList ++ rows)

/-- Decompose every packet in a capture.  The reader raises after its last
packet. -/
def dissect (raw : Bytes) : Except SniffError (List Row) :=
  let capture := readPackets raw
  match dissectAll capture.packets with
  | .error error => .error (.field error)
  | .ok rows =>
      match capture.raised with
      | some error => .error (.pcap error)
      | none => .ok rows

/-- The packets that leave a row. -/
def LeavesRow (linktype : Nat) (packet : Packet) : Prop :=
  linktype = linktypeEthernet -> ethHeaderSize ≤ packet.data.length

instance (linktype : Nat) (packet : Packet) : Decidable (LeavesRow linktype packet) :=
  inferInstanceAs (Decidable (_ -> _))

theorem dissectPacket_leavesRow {linktype : Nat} {packet : Packet}
    (leaves : LeavesRow linktype packet) :
    ∃ row, dissectPacket linktype packet = .ok (some row) ∧ row.ts = packet.timestamp := by
  rcases dissectPacket_outcome linktype packet with
    ⟨ethernet, runt, _⟩ | ⟨row, after, dissected, ts, _, outcome⟩
  · exact absurd (leaves ethernet) (Nat.not_le_of_lt runt)
  · refine ⟨after, dissected, ?_⟩
    cases outcome with
    | bare same _ => exact same.trans ts
    | tcp _ | udp _ => exact ts

theorem dissectPacket_none {linktype : Nat} {packet : Packet}
    (leaves : ¬ LeavesRow linktype packet) : dissectPacket linktype packet = .ok none := by
  rcases dissectPacket_outcome linktype packet with
    ⟨_, _, dissected⟩ | ⟨_, _, _, _, _, _⟩
  · exact dissected
  · rcases Classical.not_imp.mp leaves with ⟨ethernet, runt⟩
    rw [dissectPacket, if_pos ethernet, if_pos (Nat.lt_of_not_le runt)]

/-- The rows carry the timestamps of the packets that leave one. -/
theorem dissectAll_ok (packets : List (Nat × Packet)) :
    ∃ rows, dissectAll packets = .ok rows ∧
      rows.map Row.ts =
        (packets.filter fun entry => LeavesRow entry.1 entry.2).map fun entry => entry.2.timestamp := by
  induction packets with
  | nil => exact ⟨[], rfl, rfl⟩
  | cons entry packets ih =>
      rcases entry with ⟨linktype, packet⟩
      rcases ih with ⟨rows, dissected, stamps⟩
      by_cases leaves : LeavesRow linktype packet
      · rcases dissectPacket_leavesRow leaves with ⟨row, first, ts⟩
        refine ⟨row :: rows, ?_, ?_⟩
        · simp [dissectAll, first, dissected, bind, Except.bind]
        · simp [leaves, ts, stamps]
      · refine ⟨rows, ?_, ?_⟩
        · simp [dissectAll, dissectPacket_none leaves, dissected, bind, Except.bind]
        · simp [leaves, stamps]

/-- Dissecting a well-formed file returns, with one row for each record
exactly if no record is too short for its Ethernet header. -/
theorem dissect_row_per_record (file : CaptureFile) :
    ∃ rows, dissect file.octets = .ok rows ∧
      (rows.map Row.ts = file.records.map Record.timestamp <->
        (file.linktype.toNat = linktypeEthernet ->
          forall record, record ∈ file.records -> ethHeaderSize ≤ record.data.length)) := by
  let packets := file.records.map fun record => (file.linktype.toNat, record.packet)
  rcases dissectAll_ok packets with ⟨rows, dissected, stamps⟩
  have read : dissect file.octets = .ok rows := by
    rw [dissect, readPackets_octets]
    dsimp only
    rw [dissected]
  have all : file.records.map Record.timestamp = packets.map fun entry => entry.2.timestamp := by
    simp [packets, Record.packet]
  refine ⟨rows, read, ?_⟩
  rw [stamps, all]
  constructor
  · intro same ethernet record member
    have count := congrArg List.length same
    rw [List.length_map, List.length_map, List.length_filter_eq_length_iff] at count
    have leaves := count (file.linktype.toNat, record.packet) (List.mem_map_of_mem member)
    exact of_decide_eq_true leaves ethernet
  · intro complete
    congr 1
    rw [List.filter_eq_self]
    intro entry member
    rcases List.mem_map.mp member with ⟨record, inside, rfl⟩
    apply decide_eq_true
    intro ethernet
    exact complete ethernet record inside

/-- A capture of one empty Ethernet frame. -/
def emptyFrame : CaptureFile where
  order := .little
  settings := List.replicate 16 0
  sized := by decide
  linktype := 1
  records := [⟨7, 0, 0, [], by decide⟩]

/-- Its record leaves no row. -/
theorem dissect_emptyFrame : dissect emptyFrame.octets = .ok [] := by
  rw [dissect, readPackets_octets]
  rfl

end Wireline
