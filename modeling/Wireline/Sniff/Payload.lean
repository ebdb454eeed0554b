import Wireline.Sniff.Dissect

namespace Wireline

/-!
# Where a payload is taken from

The payload of a row is cut out of the packet by slices inside slices, and the
packet itself states how long its headers are.  Composed, they are one slice.
It never reaches behind the stated ends.  It starts behind the fixed headers
only if each of the stated lengths covers its own: the dissector does not
refuse a header length below the fixed part.
-/

/-! ## The composed slice -/

/-- The part of a transport header that every packet has. -/
def fixedHeader : L4Proto -> Nat
  | .tcp => 20
  | .udp => 8

/-- The length of the transport header as the packet states it. -/
def transportHeader (proto : L4Proto) (segment : Bytes) : Nat :=
  match proto with
  | .tcp => dataOffset segment
  | .udp => 8

/-- The end that an IPv4 header states. -/
def networkEnd (data : Bytes) : Nat :=
  if totalLength data ≠ 0 then totalLength data else data.length

/-- The end that a transport header states, from the start of the segment. -/
def transportEnd (proto : L4Proto) (segment : Bytes) : Option Nat :=
  match proto with
  | .tcp => none
  | .udp => if 8 ≤ udpLength segment then some (udpLength segment) else none

section

variable (linktype : Nat) (proto : L4Proto) (packet : Bytes)

/-- What lies behind the link header. -/
def network : Bytes := packet.drop (linkHeader linktype)

/-- Where the transport header starts. -/
def segmentStart : Nat := linkHeader linktype + ihl (network linktype packet)

def payloadStart : Nat :=
  segmentStart linktype packet + transportHeader proto (ipPayload (network linktype packet))

def payloadStop : Nat :=
  let data := network linktype packet
  let stop := linkHeader linktype + networkEnd data
  min packet.length <|
    match transportEnd proto (ipPayload data) with
    | none => stop
    | some length => min stop (linkHeader linktype + ihl data + length)

end

theorem ipPayload_eq_slice (data : Bytes) :
    ipPayload data = slice data (ihl data) (networkEnd data) := by
  unfold ipPayload networkEnd
  split
  · rfl
  · exact drop_eq_slice data (ihl data)

/-- What the transport layer hands on, as one slice of the packet. -/
theorem tcpPayload_eq_slice (linktype : Nat) (packet : Bytes) :
    (ipPayload (network linktype packet)).drop (dataOffset (ipPayload (network linktype packet))) =
      slice packet (payloadStart linktype .tcp packet) (payloadStop linktype .tcp packet) := by
  simp only [payloadStart, segmentStart, payloadStop, transportHeader, transportEnd, slice_length]
  generalize dataOffset (ipPayload (network linktype packet)) = offset
  rw [ipPayload_eq_slice, drop_slice]
  conv_lhs => rw [network, slice_drop]
  rw [← Nat.add_assoc]
  rfl

theorem udpPayload_eq_slice (linktype : Nat) (packet : Bytes) :
    (if 8 ≤ udpLength (ipPayload (network linktype packet)) then
        slice (ipPayload (network linktype packet)) 8
          (udpLength (ipPayload (network linktype packet)))
      else (ipPayload (network linktype packet)).drop 8) =
      slice packet (payloadStart linktype .udp packet) (payloadStop linktype .udp packet) := by
  simp only [payloadStart, segmentStart, payloadStop, transportHeader, transportEnd, slice_length]
  generalize udpLength (ipPayload (network linktype packet)) = length
  rw [ipPayload_eq_slice]
  split
  · rw [slice_slice]
    conv_lhs => rw [network, slice_drop]
    dsimp only
    rw [← Nat.add_min_add_left, ← Nat.add_assoc, ← Nat.add_assoc]
    rfl
  · rw [drop_slice]
    conv_lhs => rw [network, slice_drop]
    rw [← Nat.add_assoc]
    rfl

/-- A row with a transport comes from a packet that holds its header, and its
payload is one slice of the packet. -/
theorem payload_eq_slice {linktype : Nat} {packet : Packet} {row : Row} {proto : L4Proto}
    (dissected : dissectPacket linktype packet = .ok (some row))
    (transport : row.l4Proto = some proto) :
    row.payload = slice packet.data (payloadStart linktype proto packet.data)
      (payloadStop linktype proto packet.data) := by
  rcases dissectPacket_outcome linktype packet with
    ⟨_, _, none⟩ | ⟨before, after, same, _, bare, outcome⟩
  · rw [dissected] at none
    cases none
  · rw [dissected] at same
    cases same
    cases outcome with
    | bare _ untouched =>
        rw [untouched, bare] at transport
        cases transport
    | tcp holds =>
        cases transport
        exact tcpPayload_eq_slice linktype packet.data
    | udp holds =>
        cases transport
        exact udpPayload_eq_slice linktype packet.data

/-! ## Headers are not scanned -/

section

variable (linktype : Nat) (proto : L4Proto) (packet : Bytes)

/-- The fixed IPv4 header is over where the transport header starts, and the
fixed transport header before any octet of the payload. -/
def SparesHeaders : Prop :=
  forall position, payloadStart linktype proto packet ≤ position ->
    position < payloadStop linktype proto packet ->
      linkHeader linktype + 20 ≤ segmentStart linktype packet ∧
        segmentStart linktype packet + fixedHeader proto ≤ position

/-- The lengths that the headers state cover their fixed parts, each its own,
or there is no payload. -/
def StatesHeaders : Prop :=
  let data := network linktype packet
  (20 ≤ ihl data ∧ fixedHeader proto ≤ transportHeader proto (ipPayload data)) ∨
    payloadStop linktype proto packet ≤ payloadStart linktype proto packet

theorem sparesHeaders_iff :
    SparesHeaders linktype proto packet <-> StatesHeaders linktype proto packet := by
  unfold SparesHeaders StatesHeaders
  constructor
  · intro spares
    by_cases empty : payloadStop linktype proto packet ≤ payloadStart linktype proto packet
    · exact .inr empty
    · have first := spares _ (Nat.le_refl _) (Nat.lt_of_not_le empty)
      left
      unfold payloadStart segmentStart at first
      omega
  · rintro (⟨wide, covered⟩ | empty) position behind before
    · unfold payloadStart at behind
      refine ⟨Nat.add_le_add_left wide _, ?_⟩
      omega
    · omega

end

/-- The payload of a row ends where its headers say, and it spares their fixed
parts exactly if the length in each header covers its own. -/
theorem payload_spares_headers_iff {linktype : Nat} {packet : Packet} {row : Row}
    {proto : L4Proto} (dissected : dissectPacket linktype packet = .ok (some row))
    (transport : row.l4Proto = some proto) :
    let data := network linktype packet.data
    let start := payloadStart linktype proto packet.data
    let stop := payloadStop linktype proto packet.data
    row.payload = slice packet.data start stop ∧
      (totalLength data ≠ 0 -> stop ≤ linkHeader linktype + totalLength data) ∧
      (proto = .udp -> 8 ≤ udpLength (ipPayload data) ->
        stop ≤ linkHeader linktype + ihl data + udpLength (ipPayload data)) ∧
      (SparesHeaders linktype proto packet.data <-> StatesHeaders linktype proto packet.data) := by
  intro data start stop
  refine ⟨payload_eq_slice dissected transport, ?_, ?_, sparesHeaders_iff ..⟩
  · intro stated
    have limit : networkEnd data = totalLength data := if_pos stated
    simp only [stop, payloadStop]
    split
    · rw [← limit]
      exact Nat.min_le_right _ _
    · rw [← limit]
      exact Nat.le_trans (Nat.min_le_right _ _) (Nat.min_le_left _ _)
  · rintro rfl long
    have limit : transportEnd .udp (ipPayload data) = some (udpLength (ipPayload data)) := if_pos long
    simp only [stop, payloadStop]
    rw [show network linktype packet.data = data from rfl, limit]
    exact Nat.le_trans (Nat.min_le_right _ _) (Nat.min_le_right _ _)

/-- Both headers have options, and octets follow the stated end. -/
def optioned : Bytes :=
  [0x46, 0, 0, 51] ++ List.replicate 5 0 ++ [6] ++ List.replicate 14 0 ++
    (List.replicate 12 0 ++ [0x60, 0x18] ++ List.replicate 10 0) ++ [1, 2, 3] ++ [0, 0]

theorem payload_spares_headers_iff_optioned :
    ∃ row, dissectPacket linktypeRawIp ⟨0, optioned, 53⟩ = .ok (some row) ∧
      row.payload = [1, 2, 3] ∧ payloadStart linktypeRawIp .tcp optioned = 48 ∧
      payloadStop linktypeRawIp .tcp optioned = 51 ∧ SparesHeaders linktypeRawIp .tcp optioned := by
  have holds : HoldsSegment protoTcp 20 optioned := by decide
  have dissected := dissectPacket_rawIp ⟨0, optioned, 53⟩
  rw [dissectNetwork_tcp _ holds] at dissected
  have spared := payload_spares_headers_iff dissected rfl
  refine ⟨_, dissected, spared.1.trans ?_, ?_, ?_, spared.2.2.2.mpr (.inl ?_)⟩ <;> decide

/-- An IPv4 header that states a length of zero. -/
def headless : Bytes := [0x40] ++ List.replicate 8 0 ++ [6] ++ List.replicate 10 0

/-- The header itself is taken for payload. -/
theorem headless_taken :
    ∃ row, dissectPacket linktypeRawIp ⟨0, headless, 20⟩ = .ok (some row) ∧
      row.l4Proto = some .tcp ∧ row.payload = headless ∧
      forall start stop, 40 ≤ start -> row.payload ≠ slice headless start stop := by
  have holds : HoldsSegment protoTcp 20 headless := by decide
  have dissected := dissectPacket_rawIp ⟨0, headless, 20⟩
  rw [dissectNetwork_tcp _ holds] at dissected
  have whole : (ipPayload headless).drop (dataOffset (ipPayload headless)) = headless := by decide
  refine ⟨_, dissected, rfl, (payload_tcpRow _ _).trans whole, ?_⟩
  intro start stop behind same
  rw [payload_tcpRow, whole] at same
  have sized : headless.length = 20 := by decide
  have short := congrArg List.length same
  rw [length_slice, sized] at short
  omega

end Wireline
