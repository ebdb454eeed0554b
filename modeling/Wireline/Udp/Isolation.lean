import Mathlib
import Wireline.Reference
import Wireline.Udp.Server

namespace Wireline

/-!
# Peers do not interfere

What the server keeps of an address and what it sends to it are decided by the
datagrams that came from this address and passed their checks.  All others can
be left out of a run, whoever sent them.  The comparison is between a run and
the same run without them; two runs that agree on what is left then agree on
the address.
-/

/-- A server with everything that it has sent. -/
structure Station (Addr : Type) where
  server : UdpServer Addr
  sent : List (Bytes × Addr)

namespace Station

variable {Addr : Type} [DecidableEq Addr] (runtime : Runtime)

def start (secret : Bytes) (dedupSize : Nat) : Station Addr := ⟨.start secret dedupSize, []⟩

def next (station : Station Addr) (arrival : UdpServer.Arrival Addr) : Station Addr :=
  let delivery := station.server.onDatagram runtime arrival.data arrival.addr arrival.draw
  ⟨delivery.server, station.sent ++ delivery.sent⟩

def step (station : Station Addr) (arrival : UdpServer.Arrival Addr) : Option (Station Addr) :=
  some (station.next runtime arrival)

/-- The datagrams that were sent to an address. -/
def sentTo (station : Station Addr) (addr : Addr) : List Bytes :=
  (station.sent.filter fun datagram => datagram.2 = addr).map Prod.fst

/-- The datagram passes its checks. -/
def decodes (secret : Bytes) (arrival : UdpServer.Arrival Addr) : Bool :=
  (decode runtime.toDigests arrival.data (some secret)).isOk

/-- The datagram comes from this address and passes its checks. -/
def concerns (secret : Bytes) (addr : Addr) (arrival : UdpServer.Arrival Addr) : Bool :=
  arrival.addr = addr ∧ decodes runtime secret arrival

/-- Two stations that an address cannot tell apart. -/
structure Alike (secret : Bytes) (dedupSize : Nat) (addr : Addr) (station other : Station Addr) :
    Prop where
  sound : station.server.Sound
  sounds : other.server.Sound
  keyed : station.server.secret = secret ∧ other.server.secret = secret
  sized : station.server.dedupSize = dedupSize ∧ other.server.dedupSize = dedupSize
  peer : station.server.peers addr = other.server.peers addr
  sent : station.sentTo addr = other.sentTo addr

end Station

namespace UdpServer

variable {Addr : Type} [DecidableEq Addr] {runtime : Runtime}

variable (runtime) in
/-- What a call does for its own address depends on what the server keeps of
this address. -/
theorem onDatagram_local {server other : UdpServer Addr} (keyed : server.secret = other.secret)
    (sized : server.dedupSize = other.dedupSize) {addr : Addr}
    (same : server.peers addr = other.peers addr) (data : Bytes) (draw : Draw) :
    (server.onDatagram runtime data addr draw).sent = (other.onDatagram runtime data addr draw).sent ∧
      (server.onDatagram runtime data addr draw).server.peers addr =
        (other.onDatagram runtime data addr draw).server.peers addr := by
  have peer : server.peer addr draw = other.peer addr draw := by
    rw [UdpServer.peer, UdpServer.peer, same, sized]
  rw [onDatagram, onDatagram, keyed, peer]
  cases decode runtime.toDigests data (some other.secret) with
  | error error => exact ⟨rfl, same⟩
  | ok frame =>
      dsimp only
      cases (other.peer addr draw).dedup.get frame.seq with
      | some cached => exact ⟨rfl, by rw [peers_setPeer_self, peers_setPeer_self]⟩
      | none =>
          dsimp only
          cases ((acks (other.peer addr draw).session frame).2.onFrame runtime draw.nonce
            frame).result with
          | error raised => exact ⟨rfl, by rw [peers_setPeer_self, peers_setPeer_self]⟩
          | ok reaction =>
              dsimp only
              rw [secret_setPeer, secret_setPeer, keyed]
              cases join runtime.toDigests other.secret
                ((acks (other.peer addr draw).session frame).1 ++ reaction.frames) with
              | error raised =>
                  exact ⟨rfl, (peers_setPeer_self ..).trans (peers_setPeer_self ..).symm⟩
              | ok reply =>
                  dsimp only
                  cases reaction.close with
                  | false => exact ⟨rfl, (peers_setPeer_self ..).trans (peers_setPeer_self ..).symm⟩
                  | true => exact ⟨rfl, (peers_delPeer_self ..).trans (peers_delPeer_self ..).symm⟩

/-- A call answers its own address only. -/
theorem Receipt.sent_here {server : UdpServer Addr} {data : Bytes} {addr : Addr} {draw : Draw}
    {delivery : Delivery Addr} (receipt : Receipt runtime server data addr draw delivery) :
    forall datagram, datagram ∈ delivery.sent -> datagram.2 = addr := by
  intro datagram member
  cases receipt with
  | dropped undecodable => cases member
  | raised decoded missed handling result => cases member
  | replayed decoded known hit =>
      split at member
      · rw [List.mem_singleton.mp member]
      · cases member
  | answered decoded missed handling result joined =>
      split at member
      · rw [List.mem_singleton.mp member]
      · cases member

/-- An entry appears only for an address whose datagram decoded. -/
theorem Receipt.known {server : UdpServer Addr} {data : Bytes} {addr : Addr} {draw : Draw}
    {delivery : Delivery Addr} (receipt : Receipt runtime server data addr draw delivery)
    {other : Addr} (known : delivery.server.peers other ≠ none) :
    server.peers other ≠ none ∨
      (addr = other ∧ ∃ frame, decode runtime.toDigests data (some server.secret) = .ok frame) := by
  by_cases here : addr = other
  · cases receipt with
    | dropped undecodable => exact .inl known
    | replayed decoded _ _ | raised decoded _ _ _ | answered decoded _ _ _ _ =>
        exact .inr ⟨here, _, decoded⟩
  · rw [receipt.peers_other (fun same => here same.symm)] at known
    exact .inl known

end UdpServer
namespace Station

variable {Addr : Type} [DecidableEq Addr] {runtime : Runtime} {secret : Bytes} {dedupSize : Nat}

theorem alike_start (addr : Addr) :
    Alike secret dedupSize addr (start secret dedupSize) (start secret dedupSize) :=
  ⟨UdpServer.sound_start secret dedupSize, UdpServer.sound_start secret dedupSize, ⟨rfl, rfl⟩, ⟨rfl, rfl⟩, rfl, rfl⟩

theorem sentTo_next (station : Station Addr) (arrival : UdpServer.Arrival Addr) (addr : Addr) :
    (station.next runtime arrival).sentTo addr = station.sentTo addr ++
      ((station.server.onDatagram runtime arrival.data arrival.addr arrival.draw).sent.filter
        fun datagram => datagram.2 = addr).map Prod.fst := by
  rw [sentTo, sentTo, next, List.filter_append, List.map_append]

/-- An arrival that does not concern the address. -/
theorem Alike.hidden {addr : Addr} {station other : Station Addr}
    (alike : Alike secret dedupSize addr station other) {arrival : UdpServer.Arrival Addr}
    (elsewhere : concerns runtime secret addr arrival = false) :
    Alike secret dedupSize addr (station.next runtime arrival) other := by
  have receipt := UdpServer.onDatagram_receipt runtime alike.sound arrival.data arrival.addr
    arrival.draw
  have untouched : (station.next runtime arrival).server.peers addr = station.server.peers addr ∧
      (station.next runtime arrival).sentTo addr = station.sentTo addr := by
    rw [sentTo_next, next]
    by_cases here : arrival.addr = addr
    · -- a datagram of the address itself, which fails its checks
      cases decoded : decode runtime.toDigests arrival.data (some station.server.secret) with
      | error error =>
          rw [UdpServer.onDatagram, decoded]
          exact ⟨rfl, List.append_nil _⟩
      | ok frame =>
          rw [alike.keyed.1] at decoded
          simp [concerns, decodes, decoded, here, Except.isOk, Except.toBool] at elsewhere
    · refine ⟨receipt.peers_other fun same => here same.symm, ?_⟩
      have nothing : (station.server.onDatagram runtime arrival.data arrival.addr
          arrival.draw).sent.filter (fun datagram => datagram.2 = addr) = [] := by
        rw [List.filter_eq_nil_iff]
        intro datagram member
        rw [receipt.sent_here datagram member]
        simpa using here
      rw [nothing]
      exact List.append_nil _
  exact ⟨receipt.sound alike.sound, alike.sounds,
    ⟨receipt.secret.trans alike.keyed.1, alike.keyed.2⟩,
    ⟨receipt.dedupSize.trans alike.sized.1, alike.sized.2⟩, untouched.1.trans alike.peer,
    untouched.2.trans alike.sent⟩

/-- An arrival of both from the address itself. -/
theorem Alike.shown {addr : Addr} {station other : Station Addr}
    (alike : Alike secret dedupSize addr station other) {arrival : UdpServer.Arrival Addr}
    (here : arrival.addr = addr) :
    Alike secret dedupSize addr (station.next runtime arrival) (other.next runtime arrival) := by
  subst here
  have receipt := UdpServer.onDatagram_receipt runtime alike.sound arrival.data arrival.addr
    arrival.draw
  have answer := UdpServer.onDatagram_receipt runtime alike.sounds arrival.data arrival.addr
    arrival.draw
  have same := UdpServer.onDatagram_local runtime (alike.keyed.1.trans alike.keyed.2.symm)
    (alike.sized.1.trans alike.sized.2.symm) alike.peer arrival.data arrival.draw
  refine ⟨receipt.sound alike.sound, answer.sound alike.sounds,
    ⟨receipt.secret.trans alike.keyed.1, answer.secret.trans alike.keyed.2⟩,
    ⟨receipt.dedupSize.trans alike.sized.1, answer.dedupSize.trans alike.sized.2⟩, same.2, ?_⟩
  rw [sentTo_next, sentTo_next, alike.sent, same.1]

/-- A run does for an address what the datagrams do that concern it. -/
theorem run_concerning (secret : Bytes) (dedupSize : Nat) (addr : Addr)
    {arrivals : List (UdpServer.Arrival Addr)} {station : Station Addr}
    (reached : Execution.run (step runtime) (start secret dedupSize) arrivals = some station) :
    ∃ other, Execution.run (step runtime) (start secret dedupSize)
        (arrivals.filter (concerns runtime secret addr)) = some other ∧
      Alike secret dedupSize addr station other := by
  apply Execution.run_filter (step runtime) _ _ (alike_start addr) reached
  · intro station other arrival after alike elsewhere stepped
    cases stepped
    exact alike.hidden elsewhere
  · intro station other arrival after alike here stepped
    cases stepped
    have own : arrival.addr = addr := by
      simp only [concerns, decide_eq_true_eq] at here
      exact here.1
    exact ⟨_, rfl, alike.shown own⟩

/-- An address is known only if one of its datagrams decoded. -/
theorem known_sent {arrivals : List (UdpServer.Arrival Addr)} {station last : Station Addr}
    (sound : station.server.Sound) (keyed : station.server.secret = secret)
    (reached : Execution.run (step runtime) station arrivals = some last) {addr : Addr}
    (known : last.server.peers addr ≠ none) :
    station.server.peers addr ≠ none ∨
      ∃ arrival, arrival ∈ arrivals.filter (decodes runtime secret) ∧ arrival.addr = addr := by
  induction arrivals generalizing station with
  | nil =>
      cases reached
      exact .inl known
  | cons arrival arrivals ih =>
      rcases Execution.run_cons _ reached with ⟨after, stepped, rest⟩
      cases stepped
      have receipt := UdpServer.onDatagram_receipt runtime sound arrival.data arrival.addr
        arrival.draw
      rcases ih (receipt.sound sound) (receipt.secret.trans keyed) rest with before | later
      · rcases receipt.known before with old | ⟨here, frame, decoded⟩
        · exact .inl old
        · refine .inr ⟨arrival, List.mem_filter.mpr ⟨List.mem_cons_self, ?_⟩, here⟩
          rw [keyed] at decoded
          rw [decodes, decoded]
          rfl
      · rcases later with ⟨found, member, here⟩
        refine .inr ⟨found, ?_, here⟩
        rw [List.filter_cons]
        split
        · exact List.mem_cons_of_mem arrival member
        · exact member

/-- Two runs whose datagrams agree, as far as they come from an address and
decode, agree on what the server sends to this address and keeps of it.  The
table has no more entries than addresses have sent a datagram that decoded. -/
theorem isolated (runtime : Runtime) (secret : Bytes) (dedupSize : Nat) (addr : Addr)
    {arrivals others : List (UdpServer.Arrival Addr)}
    (same : arrivals.filter (concerns runtime secret addr) =
      others.filter (concerns runtime secret addr)) :
    ∃ station other,
      Execution.run (step runtime) (start secret dedupSize) arrivals = some station ∧
      Execution.run (step runtime) (start secret dedupSize) others = some other ∧
      station.sentTo addr = other.sentTo addr ∧
      station.server.peers addr = other.server.peers addr ∧
      Set.encard { known | station.server.peers known ≠ none } ≤
        ((arrivals.filter (decodes runtime secret)).map fun arrival => arrival.addr).toFinset.card := by
  have total (station : Station Addr) (arrival : UdpServer.Arrival Addr) :
      ∃ after, step runtime station arrival = some after := ⟨_, rfl⟩
  rcases Execution.run_total total (start secret dedupSize) arrivals with ⟨station, reached⟩
  rcases Execution.run_total total (start secret dedupSize) others with ⟨other, also⟩
  rcases run_concerning secret dedupSize addr reached with ⟨first, ran, alike⟩
  rcases run_concerning secret dedupSize addr also with ⟨second, follows, similar⟩
  rw [same, follows] at ran
  cases ran
  refine ⟨station, other, reached, also, alike.sent.trans similar.sent.symm,
    alike.peer.trans similar.peer.symm, ?_⟩
  rw [← Set.encard_coe_eq_coe_finsetCard]
  apply Set.encard_le_encard
  intro known listed
  rcases known_sent (UdpServer.sound_start secret dedupSize) rfl reached listed with
    absent | ⟨arrival, member, here⟩
  · exact absurd rfl absent
  · rw [List.coe_toFinset]
    exact List.mem_map.mpr ⟨arrival, member, here⟩

/-- A HELLO from one address, then garbage under its name or the same HELLO
from another address. -/
theorem isolated_hello :
    ∃ data, encode Reference.runtime.toDigests ⟨.hello, 0, Reference.hello, flagRequireAck⟩
          Reference.secret = .ok data ∧
      ∃ station other : Station Nat,
        Execution.run (step Reference.runtime) (start Reference.secret 1)
            [⟨data, 0, ⟨Reference.sessionId, Reference.nonce⟩⟩, ⟨[0], 0, ⟨Reference.sessionId, Reference.nonce⟩⟩] = some station ∧
        Execution.run (step Reference.runtime) (start Reference.secret 1)
            [⟨data, 0, ⟨Reference.sessionId, Reference.nonce⟩⟩, ⟨data, 1, ⟨Reference.sessionId, Reference.nonce⟩⟩] = some other ∧
        station.sentTo 0 = other.sentTo 0 ∧
        station.server.peers 0 = other.server.peers 0 ∧
        Set.encard { known | station.server.peers known ≠ none } ≤
          (([⟨data, 0, ⟨Reference.sessionId, Reference.nonce⟩⟩, ⟨[0], 0, ⟨Reference.sessionId, Reference.nonce⟩⟩].filter
            (decodes Reference.runtime Reference.secret)).map
              fun arrival : UdpServer.Arrival Nat => arrival.addr).toFinset.card := by
  have range : (0 : Int) ≤ 0 ∧ (0 : Int) ≤ maxSeq := by decide
  rcases exists_encode Reference.runtime.toDigests
    (encodable_requireAck Reference.hello_fits range) Reference.secret with ⟨data, encoded⟩
  have runt : concerns Reference.runtime Reference.secret 0 ⟨[0], 0, ⟨Reference.sessionId, Reference.nonce⟩⟩ = false := by
    have short : ([0] : Bytes).length < headerSize + macSize := by decide
    rw [concerns, decodes, decode, if_pos short]
    rfl
  have foreign : concerns Reference.runtime Reference.secret 0 ⟨data, 1, ⟨Reference.sessionId, Reference.nonce⟩⟩ =
      false := by
    simp [concerns]
  refine ⟨data, encoded, isolated Reference.runtime Reference.secret 1 0 ?_⟩
  simp only [List.filter_cons, runt, foreign, List.filter_nil, Bool.false_eq_true, if_false]

end Station
end Wireline
