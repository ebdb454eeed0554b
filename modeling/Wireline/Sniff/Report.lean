import Wireline.Library.Printable
import Wireline.Library.Sequences
import Wireline.Sniff.Capture
import Wireline.Sniff.PcapWriter
import Wireline.Sniff.Reassembly

namespace Wireline

open Incremental Rounding

/-!
# What `wireline sniff` prints

One line for each row, then a summary of the messages seen packet by packet,
and with `--flows` the messages of each direction.  The rows are all there
before the first line is printed, so a capture that breaks off is reported by
its error and by nothing else.

A capture is made of other people's octets.  None of them reaches the terminal
as it is: names and numbers are printed, and payloads are not.
-/

/-! ## Lines -/

def L4Proto.name : L4Proto -> String
  | tcp => "TCP"
  | udp => "UDP"

/-- A number of at least `width` decimal digits. -/
def decimalPadded (width value : Nat) : String :=
  "".pushn '0' (width - (toString value).length) ++ toString value

/-- `f"{value:.{places}f}"`, for a value that is not negative. -/
def fixedPoint (places : Nat) (value : ℚ) : String :=
  let scaled := (halfEven (value * 10 ^ places)).toNat
  s!"{scaled / 10 ^ places}.{decimalPadded places (scaled % 10 ^ places)}"

def WirelineInfo.text (info : WirelineInfo) : String :=
  s!"{info.msgType} seq={info.seq} len={info.length}"

/-- The parts of a line, layers left to right. -/
def Row.parts (row : Row) : List String :=
  [fixedPoint 6 row.ts] ++
    (if row.l2Src ≠ "" then [s!"L2 {row.l2Src} -> {row.l2Dst}"] else []) ++
    (if row.l3Src ≠ "" then [s!"L3 {row.l3Src} -> {row.l3Dst}"] else []) ++
    (match row.l4Proto with
      | none => []
      | some proto =>
          [if row.l4Flags ≠ "" then
            s!"L4 {proto.name} {row.l4Sport} -> {row.l4Dport} [{row.l4Flags}]"
          else s!"L4 {proto.name} {row.l4Sport} -> {row.l4Dport}"]) ++
    (if row.payloadLen ≠ 0 then [s!"len {row.payloadLen}"] else []) ++
    (if row.l7 ≠ [] then ["L7 " ++ String.intercalate ", " (row.l7.map WirelineInfo.text)] else []) ++
    (if row.note ≠ "" then [s!"({row.note})"] else [])

/-- Human-readable output, one line per row. -/
def formatRows (rows : List Row) : List String :=
  rows.map fun row => String.intercalate "  " row.parts

/-! ## Counts -/

/-- `counts[name] = counts.get(name, 0) + 1`, on a dictionary in insertion
order. -/
def countOne (counts : List (String × Nat)) (name : String) : List (String × Nat) :=
  match counts with
  | [] => [(name, 1)]
  | entry :: counts =>
      if entry.1 = name then (name, entry.2 + 1) :: counts else entry :: countOne counts name

def summarise (rows : List Row) : List (String × Nat) :=
  (rows.flatMap fun row => row.l7.map WirelineInfo.msgType).foldl countOne []

/-- What counting one more name does to counts that are spelt out. -/
theorem countOne_map {keys : List String} (unique : keys.Nodup) (count : String -> Nat)
    (name : String) :
    countOne (keys.map fun key => (key, count key)) name =
      if name ∈ keys then keys.map fun key => (key, if key = name then count key + 1 else count key)
      else keys.map (fun key => (key, count key)) ++ [(name, 1)] := by
  induction keys with
  | nil => rfl
  | cons key keys ih =>
      rcases List.nodup_cons.mp unique with ⟨fresh, others⟩
      rw [List.map_cons, countOne]
      by_cases same : key = name
      · subst same
        have kept : keys.map (fun other => (other, count other)) =
            keys.map fun other => (other, if other = key then count other + 1 else count other) := by
          apply List.map_congr_left
          intro other member
          rw [if_neg]
          rintro rfl
          exact fresh member
        rw [if_pos rfl, if_pos List.mem_cons_self, List.map_cons, if_pos rfl, kept]
      · rw [if_neg same, ih others]
        by_cases member : name ∈ keys
        · rw [if_pos member, if_pos (List.mem_cons_of_mem key member), List.map_cons, if_neg same]
        · have absent : name ∉ key :: keys := by
            rw [List.mem_cons, not_or]
            exact ⟨fun own => same own.symm, member⟩
          rw [if_neg member, if_neg absent, List.cons_append]

/-- Each name is counted, in the order of the first of its kind. -/
theorem foldl_countOne (names : List String) :
    names.foldl countOne [] = names.eraseDups.map fun name => (name, names.count name) := by
  induction names using List.reverseRecOn with
  | nil => rfl
  | append_singleton names name ih =>
      rw [List.foldl_append, ih, List.foldl_cons, List.foldl_nil,
        countOne_map (Sequences.nodup_eraseDups names), List.eraseDups_append]
      by_cases member : name ∈ names
      · have nothing : ([name].removeAll names).eraseDups = [] := by simp [List.removeAll, member]
        rw [if_pos (List.mem_eraseDups.mpr member), nothing, List.append_nil]
        apply List.map_congr_left
        intro other _
        by_cases own : other = name
        · simp [own]
        · have differs : name ≠ other := fun same => own same.symm
          simp [own, differs]
      · have one : ([name].removeAll names).eraseDups = [name] := by
          simp [List.removeAll, member, List.eraseDups_cons]
        rw [if_neg (mt List.mem_eraseDups.mp member), one, List.map_append]
        congr 1
        · apply List.map_congr_left
          intro other inside
          have differs : other ≠ name := by
            rintro rfl
            exact member (List.mem_eraseDups.mp inside)
          simp [differs.symm]
        · simp [List.count_eq_zero_of_not_mem member]

/-- `{counts or 'none'}`. -/
def countsText (counts : List (String × Nat)) : String :=
  if counts = [] then "none"
  else "\x7b" ++ String.intercalate ", " (counts.map fun entry => s!"'{entry.1}': {entry.2}") ++ "\x7d"

/-! ## Flows -/

/-- The keys of `reassemble_flows`, in the order of their first packets. -/
def flowKeys (rows : List Row) : List String :=
  ((rows.filter fun row => ¬ (row.payload = [] ∨ row.l4Proto = none)).map Row.flowKey).eraseDups

def flowLine (key : String) (frames : List Frame) : String :=
  let names := String.intercalate ", " (frames.map fun frame => s!"{frame.msgType.name}(seq={frame.seq})")
  s!"  {key}: " ++ if names ≠ "" then names else "no complete messages"

/-! ## The command -/

variable (digests : Digests)

/-- What `sniff` prints for the rows of a capture. -/
def report (flows : Bool) (rows : List Row) : List String :=
  formatRows rows ++
    ["", s!"{rows.length} packets, wireline messages seen per packet: {countsText (summarise rows)}"] ++
    if flows then
      ["", "reassembled per direction:"] ++
        (flowKeys rows).map fun key => flowLine key ((reassembleFlows digests rows key).getD [])
    else []

/-! ## Nothing but printable text -/

theorem hexDigits_printable (value : Nat) : (hexDigits value).Printable :=
  String.printable_toDigits 16 value

theorem hexPadded_printable (width value : Nat) : (hexPadded width value).Printable :=
  (String.Printable.pushn (by decide) (by decide) _).append (hexDigits_printable value)

theorem decimalPadded_printable (width value : Nat) : (decimalPadded width value).Printable :=
  (String.Printable.pushn (by decide) (by decide) _).append (String.printable_nat value)

theorem mac_printable (raw : Bytes) : (mac raw).Printable := by
  apply String.Printable.intercalate (by decide)
  intro part member
  rcases List.mem_map.mp member with ⟨octet, _, rfl⟩
  exact hexPadded_printable 2 octet.toNat

theorem dottedQuad_printable (raw : Bytes) : (dottedQuad raw).Printable := by
  apply String.Printable.intercalate (by decide)
  intro part member
  rcases List.mem_map.mp member with ⟨octet, _, rfl⟩
  exact String.printable_nat octet.toNat

theorem tcpFlags_printable (flags : Nat) : (tcpFlags flags).Printable := by
  unfold tcpFlags
  dsimp only
  split
  · decide
  · apply String.Printable.intercalate (by decide)
    intro part member
    rcases List.mem_map.mp member with ⟨entry, inside, rfl⟩
    have names : forall entry, entry ∈ tcpFlagNames -> entry.2.Printable := by decide
    exact names entry (List.mem_of_mem_filter inside)

theorem msgType_printable (msgType : MsgType) : msgType.name.Printable := by
  cases msgType <;> decide

/-- The texts of a row. -/
structure Row.Clean (row : Row) : Prop where
  l2Src : row.l2Src.Printable
  l2Dst : row.l2Dst.Printable
  l3Src : row.l3Src.Printable
  l3Dst : row.l3Dst.Printable
  l4Flags : row.l4Flags.Printable
  l7 : forall info, info ∈ row.l7 -> info.msgType.Printable
  note : row.note.Printable

theorem tryParseFrom_printable (data : Bytes) (offset : Nat) :
    forall info, info ∈ tryParseFrom data offset -> info.msgType.Printable := by
  induction offset using tryParseFrom.induct data with
  | case1 offset fits error refused =>
      intro info member
      rw [tryParseFrom, if_pos fits, refused] at member
      cases member
  | case2 offset fits header parsed stop cut =>
      intro info member
      rw [tryParseFrom, if_pos fits, parsed] at member
      dsimp only at member
      rw [if_pos cut] at member
      cases member
  | case3 offset fits header parsed stop whole ih =>
      intro info member
      rw [tryParseFrom, if_pos fits, parsed] at member
      dsimp only at member
      rw [if_neg whole] at member
      rcases List.mem_cons.mp member with rfl | later
      · exact msgType_printable header.msgType
      · exact ih info later
  | case4 offset short =>
      intro info member
      rw [tryParseFrom, if_neg short] at member
      cases member

theorem dissectPayload_clean {row : Row} (clean : row.Clean) (data : Bytes) :
    (dissectPayload row data).Clean :=
  ⟨clean.l2Src, clean.l2Dst, clean.l3Src, clean.l3Dst, clean.l4Flags,
    tryParseFrom_printable data 0, clean.note⟩

theorem dissectTransport_clean {row after : Row} (clean : row.Clean) {proto : Nat} {data : Bytes}
    (dissected : dissectTransport row proto data = .ok after) : after.Clean := by
  by_cases tcp : proto = protoTcp
  · subst tcp
    by_cases complete : data.length < 20
    · rw [dissectTransport, if_pos rfl, if_pos complete] at dissected
      cases dissected
      exact clean
    · rw [dissectTransport_tcp row (Nat.le_of_not_lt complete)] at dissected
      cases dissected
      unfold tcpRow
      apply dissectPayload_clean
      exact ⟨clean.l2Src, clean.l2Dst, clean.l3Src, clean.l3Dst, tcpFlags_printable _, clean.l7,
        clean.note⟩
  · by_cases udp : proto = protoUdp
    · subst udp
      by_cases complete : data.length < 8
      · rw [dissectTransport, if_neg tcp, if_pos rfl, if_pos complete] at dissected
        cases dissected
        exact clean
      · rw [dissectTransport_udp row (Nat.le_of_not_lt complete)] at dissected
        cases dissected
        unfold udpRow
        apply dissectPayload_clean
        exact ⟨clean.l2Src, clean.l2Dst, clean.l3Src, clean.l3Dst, clean.l4Flags, clean.l7,
          clean.note⟩
    · rw [dissectTransport, if_neg tcp, if_neg udp] at dissected
      cases dissected
      have text : "ip protocol ".Printable := by decide
      exact ⟨clean.l2Src, clean.l2Dst, clean.l3Src, clean.l3Dst, clean.l4Flags, clean.l7,
        text.append (String.printable_nat proto)⟩

theorem dissectNetwork_clean {row after : Row} (clean : row.Clean) {data : Bytes}
    (dissected : dissectNetwork row data = .ok after) : after.Clean := by
  have text : "not an ipv4 packet".Printable := by decide
  have refused : ({ row with note := "not an ipv4 packet" } : Row).Clean :=
    ⟨clean.l2Src, clean.l2Dst, clean.l3Src, clean.l3Dst, clean.l4Flags, clean.l7, text⟩
  by_cases complete : data.length < 20
  · rw [dissectNetwork, if_pos complete] at dissected
    cases dissected
    exact refused
  · by_cases version : (data.getD 0 0).toNat >>> 4 = 4
    · rw [dissectNetwork_ipv4 (Nat.le_of_not_lt complete) version] at dissected
      refine dissectTransport_clean ?_ dissected
      exact ⟨clean.l2Src, clean.l2Dst, dottedQuad_printable _, dottedQuad_printable _,
        clean.l4Flags, clean.l7, clean.note⟩
    · rw [dissectNetwork, if_neg complete, index_ok (by omega)] at dissected
      simp only [bind, Except.bind] at dissected
      rw [if_pos version] at dissected
      cases dissected
      exact refused

/-- A row without any layer but the first. -/
theorem clean_bare (ts : ℚ) {l2Src l2Dst : String} (src : l2Src.Printable)
    (dst : l2Dst.Printable) : ({ ts := ts, l2Src := l2Src, l2Dst := l2Dst } : Row).Clean := by
  have empty : "".Printable := by decide
  exact ⟨src, dst, empty, empty, empty, nofun, empty⟩

theorem map_some_ok {result : Except FieldError Row} {after : Row}
    (mapped : result.map some = .ok (some after)) : result = .ok after := by
  cases result with
  | error error => cases mapped
  | ok row =>
      cases mapped
      rfl

theorem dissectPacket_clean {linktype : Nat} {packet : Packet} {after : Row}
    (dissected : dissectPacket linktype packet = .ok (some after)) : after.Clean := by
  by_cases ethernet : linktype = linktypeEthernet
  · subst ethernet
    by_cases complete : packet.data.length < ethHeaderSize
    · rw [dissectPacket, if_pos rfl, if_pos complete] at dissected
      cases dissected
    · have framed : (etherRow packet).Clean :=
        clean_bare packet.timestamp (mac_printable _) (mac_printable _)
      rw [dissectPacket_ethernet (Nat.le_of_not_lt complete)] at dissected
      split at dissected
      · cases dissected
        have text : "non-ipv4 ethertype ".Printable := by decide
        have mark : "0x".Printable := by decide
        exact ⟨framed.l2Src, framed.l2Dst, framed.l3Src, framed.l3Dst, framed.l4Flags, framed.l7,
          text.append (mark.append (hexPadded_printable 4 _))⟩
      · exact dissectNetwork_clean framed (map_some_ok dissected)
  · have empty : "".Printable := by decide
    have bare := clean_bare packet.timestamp empty empty
    by_cases loopback : linktype = linktypeLoopback
    · rw [dissectPacket, if_neg ethernet, if_pos loopback] at dissected
      exact dissectNetwork_clean bare (map_some_ok dissected)
    · by_cases raw : linktype = linktypeRawIp
      · rw [dissectPacket, if_neg ethernet, if_neg loopback, if_neg (not_not.mpr raw)] at dissected
        exact dissectNetwork_clean bare (map_some_ok dissected)
      · rw [dissectPacket, if_neg ethernet, if_neg loopback, if_pos raw] at dissected
        cases dissected
        have text : "unsupported linktype ".Printable := by decide
        exact ⟨bare.l2Src, bare.l2Dst, bare.l3Src, bare.l3Dst, bare.l4Flags, bare.l7,
          text.append (String.printable_nat linktype)⟩

theorem dissectAll_clean {packets : List (Nat × Packet)} {rows : List Row}
    (dissected : dissectAll packets = .ok rows) : forall row, row ∈ rows -> row.Clean := by
  induction packets generalizing rows with
  | nil =>
      cases dissected
      exact List.forall_mem_nil _
  | cons entry packets ih =>
      rcases entry with ⟨linktype, packet⟩
      rw [dissectAll] at dissected
      cases first : dissectPacket linktype packet with
      | error error =>
          rw [first] at dissected
          cases dissected
      | ok row =>
          cases others : dissectAll packets with
          | error error =>
              rw [first, others] at dissected
              cases dissected
          | ok later =>
              rw [first, others] at dissected
              cases dissected
              intro other member
              rcases List.mem_append.mp member with own | behind
              · have same := Option.mem_toList.mp own
                subst same
                exact dissectPacket_clean first
              · exact ih others other behind

theorem dissect_clean {raw : Bytes} {rows : List Row} (dissected : dissect raw = .ok rows) :
    forall row, row ∈ rows -> row.Clean := by
  unfold dissect at dissected
  dsimp only at dissected
  cases all : dissectAll (readPackets raw).packets with
  | error error =>
      rw [all] at dissected
      cases dissected
  | ok found =>
      rw [all] at dissected
      dsimp only at dissected
      split at dissected
      · cases dissected
      · cases dissected
        exact dissectAll_clean all

theorem fixedPoint_printable (places : Nat) (value : ℚ) : (fixedPoint places value).Printable := by
  have dot : ".".Printable := by decide
  exact ((String.printable_nat _).append dot).append (decimalPadded_printable places _)

theorem WirelineInfo.text_printable {info : WirelineInfo} (name : info.msgType.Printable) :
    info.text.Printable := by
  have seq : " seq=".Printable := by decide
  have len : " len=".Printable := by decide
  exact (((name.append seq).append (String.printable_int _)).append len).append
    (String.printable_nat _)

theorem Row.Clean.parts {row : Row} (clean : row.Clean) :
    forall part, part ∈ row.parts -> part.Printable := by
  have arrow : " -> ".Printable := by decide
  have optional {condition : Prop} [Decidable condition] {text : String}
      (printable : text.Printable) :
      forall part, part ∈ (if condition then [text] else []) -> part.Printable := by
    intro part member
    split at member
    · rw [List.mem_singleton.mp member]
      exact printable
    · cases member
  have labels : "L2 ".Printable ∧ "L3 ".Printable ∧ "L4 ".Printable ∧ "L7 ".Printable ∧
      "len ".Printable ∧ " ".Printable ∧ " [".Printable ∧ "]".Printable ∧ "(".Printable ∧
      ")".Printable ∧ ", ".Printable := by decide
  rcases labels with ⟨l2, l3, l4, l7, len, blank, opening, closing, bracket, close, comma⟩
  have transport (proto : L4Proto) : (if row.l4Flags ≠ "" then
      s!"L4 {proto.name} {row.l4Sport} -> {row.l4Dport} [{row.l4Flags}]"
        else s!"L4 {proto.name} {row.l4Sport} -> {row.l4Dport}").Printable := by
    have name : proto.name.Printable := by cases proto <;> decide
    have ports := ((((l4.append name).append blank).append (String.printable_nat row.l4Sport)).append
      arrow).append (String.printable_nat row.l4Dport)
    split
    · exact ((ports.append opening).append clean.l4Flags).append closing
    · exact ports
  unfold Row.parts
  intro part member
  simp only [List.mem_append] at member
  rcases member with (((((time | link) | network) | ports) | length) | messages) | note
  · rw [List.mem_singleton.mp time]
    exact fixedPoint_printable 6 row.ts
  · exact optional (((l2.append clean.l2Src).append arrow).append clean.l2Dst) part link
  · exact optional (((l3.append clean.l3Src).append arrow).append clean.l3Dst) part network
  · cases proto : row.l4Proto with
    | none =>
        rw [proto] at ports
        cases ports
    | some proto' =>
        rw [proto] at ports
        rw [List.mem_singleton.mp ports]
        exact transport proto'
  · exact optional (len.append (String.printable_nat _)) part length
  · refine optional (l7.append (String.Printable.intercalate comma ?_)) part messages
    intro text inside
    rcases List.mem_map.mp inside with ⟨info, found, rfl⟩
    exact info.text_printable (clean.l7 info found)
  · exact optional ((bracket.append clean.note).append close) part note

theorem formatRows_printable {rows : List Row} (clean : forall row, row ∈ rows -> row.Clean) :
    forall line, line ∈ formatRows rows -> line.Printable := by
  intro line member
  rcases List.mem_map.mp member with ⟨row, inside, rfl⟩
  exact String.Printable.intercalate (by decide) (clean row inside).parts

theorem countOne_names {counts : List (String × Nat)} {name : String} (own : name.Printable)
    (others : forall entry, entry ∈ counts -> entry.1.Printable) :
    forall entry, entry ∈ countOne counts name -> entry.1.Printable := by
  induction counts with
  | nil => exact List.forall_mem_singleton.mpr own
  | cons first counts ih =>
      rw [List.forall_mem_cons] at others
      rw [countOne]
      split
      · exact List.forall_mem_cons.mpr ⟨own, others.2⟩
      · exact List.forall_mem_cons.mpr ⟨others.1, ih others.2⟩

theorem countsText_printable {rows : List Row} (clean : forall row, row ∈ rows -> row.Clean) :
    (countsText (summarise rows)).Printable := by
  have names : forall name, name ∈ (rows.flatMap fun row => row.l7.map WirelineInfo.msgType) ->
      name.Printable := by
    intro name member
    rcases List.mem_flatMap.mp member with ⟨row, inside, found⟩
    rcases List.mem_map.mp found with ⟨info, listed, rfl⟩
    exact (clean row inside).l7 info listed
  have counted (names : List String) (counts : List (String × Nat))
      (own : forall name, name ∈ names -> name.Printable)
      (others : forall entry, entry ∈ counts -> entry.1.Printable) :
      forall entry, entry ∈ names.foldl countOne counts -> entry.1.Printable := by
    induction names generalizing counts with
    | nil => exact others
    | cons name names ih =>
        rw [List.forall_mem_cons] at own
        exact ih _ own.2 (countOne_names own.1 others)
  unfold countsText
  split
  · decide
  · have texts : "'".Printable ∧ "': ".Printable ∧ ", ".Printable ∧ "\x7b".Printable ∧
        "\x7d".Printable := by decide
    rcases texts with ⟨quote, colon, comma, opening, closing⟩
    refine (opening.append (String.Printable.intercalate comma ?_)).append closing
    intro part member
    rcases List.mem_map.mp member with ⟨entry, inside, rfl⟩
    have name := counted _ _ names (List.forall_mem_nil _) entry inside
    exact ((quote.append name).append colon).append (String.printable_nat entry.2)

theorem flowLine_printable {key : String} (own : key.Printable) (frames : List Frame) :
    (flowLine key frames).Printable := by
  have texts : "  ".Printable ∧ ": ".Printable ∧ ", ".Printable ∧ "(seq=".Printable ∧
      ")".Printable ∧ "no complete messages".Printable := by decide
  rcases texts with ⟨indent, colon, comma, opening, closing, missing⟩
  have names : (String.intercalate ", "
      (frames.map fun frame => s!"{frame.msgType.name}(seq={frame.seq})")).Printable := by
    apply String.Printable.intercalate comma
    intro part member
    rcases List.mem_map.mp member with ⟨frame, _, rfl⟩
    exact (((msgType_printable frame.msgType).append opening).append
      (String.printable_int frame.seq)).append closing
  unfold flowLine
  dsimp only
  refine ((indent.append own).append colon).append ?_
  split
  · exact names
  · exact missing

theorem flowKeys_printable {rows : List Row} (clean : forall row, row ∈ rows -> row.Clean) :
    forall key, key ∈ flowKeys rows -> key.Printable := by
  intro key member
  rw [flowKeys, List.mem_eraseDups] at member
  rcases List.mem_map.mp member with ⟨row, inside, rfl⟩
  have own := clean row (List.mem_of_mem_filter inside)
  have texts : ":".Printable ∧ " -> ".Printable := by decide
  exact (((((own.l3Src.append texts.1).append (String.printable_nat _)).append texts.2).append
    own.l3Dst).append texts.1).append (String.printable_nat _)

/-- Whatever a capture holds, its report is printable. -/
theorem report_printable (flows : Bool) {rows : List Row}
    (clean : forall row, row ∈ rows -> row.Clean) :
    forall line, line ∈ report digests flows rows -> line.Printable := by
  have texts : "".Printable ∧ " packets, wireline messages seen per packet: ".Printable ∧
      "reassembled per direction:".Printable := by decide
  rcases texts with ⟨empty, packets, heading⟩
  intro line member
  rw [report, List.mem_append, List.mem_append] at member
  rcases member with (row | summary) | flow
  · exact formatRows_printable clean line row
  · have all : forall line, line ∈ ["", s!"{rows.length} packets, wireline messages seen per packet: {countsText (summarise rows)}"] -> line.Printable :=
      List.forall_mem_cons.mpr ⟨empty, List.forall_mem_singleton.mpr
        (((String.printable_nat _).append packets).append (countsText_printable clean))⟩
    exact all line summary
  · cases flows with
    | false => cases flow
    | true =>
        rw [if_pos rfl, List.mem_append] at flow
        rcases flow with front | listed
        · have all : forall line, line ∈ ["", "reassembled per direction:"] -> line.Printable :=
            List.forall_mem_cons.mpr ⟨empty, List.forall_mem_singleton.mpr heading⟩
          exact all line front
        · rcases List.mem_map.mp listed with ⟨key, inside, rfl⟩
          exact flowLine_printable (flowKeys_printable clean key inside) _

end Wireline
