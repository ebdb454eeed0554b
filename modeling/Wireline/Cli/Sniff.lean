import Wireline.Cli.Failures
import Wireline.Sniff.Report

namespace Wireline

/-!
# `wireline sniff`

The failures of the command are those of the capture file, and none of its
octets leads to anything else.
-/

variable (digests : Digests)

/-- `main` for `sniff`, on the octets of the file.  `none` is a traceback. -/
def sniff (args : CommonArgs) (flows : Bool) (raw : Bytes) : Option Exit :=
  match dissect raw with
  | .ok rows => some { code := 0, stdout := report digests flows rows }
  | .error (.pcap error) => some (failed (.pcapError error) args)
  | .error (.field .osError) => some (failed (.osError "OSError" "packed IP wrong length") args)
  | .error (.field .structError) => none
  | .error (.field .indexError) => none

/-! ## The texts of a broken capture -/

theorem hexWord_printable (value : Nat) : (hexWord value).Printable := by
  have mark : "0x".Printable := by decide
  exact (mark.append (String.Printable.pushn (by decide) (by decide) _)).append
    (hexDigits_printable value)

theorem readRecords_printable (order : ByteOrder) (linktype : Nat) (raw : Bytes) (offset : Nat) :
    forall error, (readRecords order linktype raw offset).raised = some error ->
      error.message.Printable := by
  have texts : "truncated record header at offset ".Printable ∧
      "truncated packet data at offset ".Printable := by decide
  induction offset using readRecords.induct order linktype raw with
  | case1 offset inside cut =>
      intro error raised
      rw [readRecords, if_pos inside, if_pos cut] at raised
      cases raised
      exact texts.1.append (String.printable_nat offset)
  | case2 offset inside whole fields start cut =>
      intro error raised
      rw [readRecords, if_pos inside, if_neg whole] at raised
      dsimp only at raised
      rw [if_pos cut] at raised
      cases raised
      exact texts.2.append (String.printable_nat start)
  | case3 offset inside whole fields start complete ih =>
      intro error raised
      rw [readRecords, if_pos inside, if_neg whole] at raised
      dsimp only at raised
      rw [if_neg complete] at raised
      exact ih error raised
  | case4 offset behind =>
      intro error raised
      rw [readRecords, if_neg behind] at raised
      cases raised

theorem readPackets_printable (raw : Bytes) :
    forall error, (readPackets raw).raised = some error -> error.message.Printable := by
  have texts : "file is ".Printable ∧ " bytes, shorter than a pcap header".Printable ∧
      "unknown pcap magic ".Printable := by decide
  rcases texts with ⟨file, shorter, unknown⟩
  intro error raised
  unfold readPackets at raised
  dsimp only at raised
  split at raised
  · cases raised
    exact (file.append (String.printable_nat _)).append shorter
  · split at raised
    · exact readRecords_printable _ _ _ _ error raised
    · split at raised
      · exact readRecords_printable _ _ _ _ error raised
      · cases raised
        exact unknown.append (hexWord_printable _)

theorem describeFailure_pcap_printable {error : PcapError} (own : error.message.Printable)
    (args : CommonArgs) : (describeFailure (.pcapError error) args).Printable := by
  have texts : "wireline: PcapError".Printable ∧ ": ".Printable ∧ "".Printable := by decide
  change (("wireline: " ++ "PcapError") ++
    if error.message ≠ "" then ": " ++ error.message else "").Printable
  refine String.Printable.append (by decide) ?_
  split
  · exact texts.2.1.append own
  · exact texts.2.2

/-! ## The command -/

/-- `dissect` ends with its rows, or with the error of the reader. -/
theorem dissect_cases (raw : Bytes) :
    (∃ rows, dissect raw = .ok rows ∧ (readPackets raw).raised = none) ∨
      ∃ error, dissect raw = .error (.pcap error) ∧ (readPackets raw).raised = some error := by
  rcases dissectAll_ok (readPackets raw).packets with ⟨rows, all, _⟩
  unfold dissect
  dsimp only
  rw [all]
  cases (readPackets raw).raised with
  | none => exact .inl ⟨rows, rfl, rfl⟩
  | some error => exact .inr ⟨error, rfl, rfl⟩

/-- Whatever the file holds, the command exits without a traceback and
everything it prints is printable.  It reports the rows exactly if the file is
a well-formed capture, and otherwise nothing but the line that says what is
wrong with it. -/
theorem sniff_exits (args : CommonArgs) (flows : Bool) (raw : Bytes) :
    ∃ exit, sniff digests args flows raw = some exit ∧
      (forall line, line ∈ exit.stdout ++ exit.stderr -> line.Printable) ∧
      ((∃ file : CaptureFile, raw = file.octets) ->
        ∃ rows, dissect raw = .ok rows ∧
          exit = { code := 0, stdout := report digests flows rows }) ∧
      ((¬ ∃ file : CaptureFile, raw = file.octets) ->
        ∃ line, exit = { code := 1, stderr := [line] }) := by
  rcases dissect_cases raw with ⟨rows, dissected, complete⟩ | ⟨error, dissected, raised⟩
  · refine ⟨{ code := 0, stdout := report digests flows rows }, by rw [sniff, dissected], ?_, ?_, ?_⟩
    · rw [List.append_nil]
      exact report_printable digests flows (dissect_clean dissected)
    · exact fun _ => ⟨rows, dissected, rfl⟩
    · exact fun malformed => absurd ((readPackets_complete_iff raw).mp complete) malformed
  · refine ⟨failed (.pcapError error) args, by rw [sniff, dissected], ?_, ?_, ?_⟩
    · exact List.forall_mem_singleton.mpr
        (describeFailure_pcap_printable (readPackets_printable raw error raised) args)
    · intro whole
      rw [(readPackets_complete_iff raw).mpr whole] at raised
      cases raised
    · exact fun _ => ⟨describeFailure (.pcapError error) args, rfl⟩

end Wireline
