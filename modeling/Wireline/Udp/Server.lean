import Mathlib.Data.List.Nodup
import Mathlib.Logic.Function.Basic
import Wireline.Library.Execution
import Wireline.SessionOutput
import Wireline.Transport.Framing

namespace Wireline

/-!
# The datagram server

UDP gives neither delivery, nor order, nor protection from duplicates.  The
server keeps one session for each peer address and, in front of it, a window
of recently seen sequence numbers with the reply each of them produced.  A
sequence number in the window is answered from it and never reaches the
session.

The event loop calls `onDatagram` for one datagram at a time.  An exception
that leaves it is logged by the loop and the server goes on, with whatever
the call had already assigned.
-/

/-! ## The deduplication window -/

/-- The loop `while len(entries) > size: popitem(last=False)`. -/
def evict (size : Nat) : List (Int × Bytes) -> List (Int × Bytes)
  | [] => []
  | entry :: entries =>
      if size < (entry :: entries).length then evict size entries else entry :: entries

theorem evict_eq_drop (size : Nat) (entries : List (Int × Bytes)) :
    evict size entries = entries.drop (entries.length - size) := by
  induction entries with
  | nil => exact List.drop_nil.symm
  | cons entry entries ih =>
      rw [evict]
      by_cases beyond : size < (entry :: entries).length
      · have more : (entry :: entries).length - size = entries.length - size + 1 := by
          rw [List.length_cons] at beyond ⊢
          omega
        rw [if_pos beyond, ih, more, List.drop_succ_cons]
      · rw [if_neg beyond, Nat.sub_eq_zero_of_le (Nat.le_of_not_lt beyond), List.drop_zero]

/-- The last `size` sequence numbers from one peer, oldest first, with the
reply each of them produced. -/
structure DedupWindow where
  size : Nat
  entries : List (Int × Bytes)
  unique : (entries.map Prod.fst).Nodup
  bounded : entries.length ≤ size

namespace DedupWindow

def empty (size : Nat) : DedupWindow := ⟨size, [], List.nodup_nil, Nat.zero_le size⟩

def get (window : DedupWindow) (seq : Int) : Option Bytes := window.entries.lookup seq

/-- Store a reply as the newest entry, and evict from the oldest on. -/
def put (window : DedupWindow) (seq : Int) (reply : Bytes) : DedupWindow where
  size := window.size
  entries := evict window.size
    (window.entries.filter (fun entry => entry.1 ≠ seq) ++ [(seq, reply)])
  unique := by
    have others : ((window.entries.filter (fun entry => entry.1 ≠ seq)).map Prod.fst).Nodup :=
      window.unique.sublist (List.filter_sublist.map Prod.fst)
    have absent : seq ∉ (window.entries.filter (fun entry => entry.1 ≠ seq)).map Prod.fst := by
      intro member
      rcases List.mem_map.mp member with ⟨entry, kept, same⟩
      exact of_decide_eq_true (List.mem_filter.mp kept).2 same
    rw [evict_eq_drop, List.map_drop, List.map_append]
    have joined := List.Nodup.concat absent others
    rw [List.concat_eq_append] at joined
    exact joined.sublist (List.drop_sublist _ _)
  bounded := by
    rw [evict_eq_drop, List.length_drop]
    omega

@[simp] theorem get_empty (size : Nat) (seq : Int) : (empty size).get seq = none := rfl

theorem entries_put_eq (window : DedupWindow) (seq : Int) (reply : Bytes) :
    (window.put seq reply).entries =
      (window.entries.filter (fun entry => entry.1 ≠ seq) ++ [(seq, reply)]).rtake window.size :=
  evict_eq_drop ..

theorem mem_of_get {window : DedupWindow} {seq : Int} {reply : Bytes}
    (hit : window.get seq = some reply) : (seq, reply) ∈ window.entries := by
  rw [get, List.lookup_eq_some_iff] at hit
  rcases hit with ⟨before, after, split, _⟩
  rw [split]
  exact List.mem_append_right _ List.mem_cons_self

theorem get_of_mem {window : DedupWindow} {seq : Int} {reply : Bytes}
    (member : (seq, reply) ∈ window.entries) : window.get seq = some reply := by
  rcases window with ⟨size, entries, unique, bounded⟩
  change (seq, reply) ∈ entries at member
  change entries.lookup seq = some reply
  clear bounded
  induction entries with
  | nil => cases member
  | cons entry entries ih =>
      rcases entry with ⟨first, stored⟩
      rw [List.map_cons, List.nodup_cons] at unique
      rcases List.mem_cons.mp member with same | later
      · cases same
        simp [List.lookup]
      · have different : seq ≠ first := by
          rintro rfl
          exact unique.1 (List.mem_map.mpr ⟨_, later, rfl⟩)
        have differs : (seq == first) = false := beq_eq_false_iff_ne.mpr different
        rw [List.lookup, differs]
        exact ih unique.2 later

/-- A window of one entry holds one number. -/
theorem eq_of_single {window : DedupWindow} (single : window.size = 1) {seq other : Int}
    {reply stored : Bytes} (hit : window.get seq = some reply)
    (also : window.get other = some stored) : seq = other := by
  have first := mem_of_get hit
  have second := mem_of_get also
  have short := window.bounded
  rw [single] at short
  cases entries : window.entries with
  | nil =>
      rw [entries] at first
      cases first
  | cons entry rest =>
      rw [entries, List.length_cons] at short
      have empty : rest = [] := List.length_eq_zero_iff.mp (by omega)
      rw [entries, empty, List.mem_singleton] at first second
      rw [← second] at first
      exact congrArg Prod.fst first

theorem mem_put {window : DedupWindow} {seq : Int} {reply : Bytes} {entry : Int × Bytes}
    (member : entry ∈ (window.put seq reply).entries) :
    entry ∈ window.entries ∨ entry = (seq, reply) := by
  rw [entries_put_eq] at member
  rcases List.mem_append.mp (List.mem_of_mem_drop member) with kept | new
  · exact .inl (List.mem_filter.mp kept).1
  · exact .inr (List.mem_singleton.mp new)

theorem get_put_empty (size : Nat) {seq other : Int} (different : other ≠ seq) (reply : Bytes) :
    ((empty size).put seq reply).get other = none := by
  cases hit : ((empty size).put seq reply).get other with
  | none => rfl
  | some stored =>
      rcases mem_put (mem_of_get hit) with old | new
      · cases old
      · cases new
        exact absurd rfl different

/-- A window that holds anything holds its newest entry. -/
theorem get_put_self (window : DedupWindow) (positive : 0 < window.size) (seq : Int)
    (reply : Bytes) : (window.put seq reply).get seq = some reply := by
  apply get_of_mem
  rcases Nat.exists_eq_add_one_of_ne_zero (Nat.ne_of_gt positive) with ⟨others, size⟩
  rw [entries_put_eq, size, List.rtake_concat_succ]
  exact List.mem_append_right _ (List.mem_singleton.mpr rfl)

end DedupWindow

section

variable (digests : Digests)

/-- One datagram may carry an ACK and a reply back to back. -/
def splitDatagram (data secret : Bytes) : Except ProtocolError (List Frame) :=
  let drained := (FrameBuffer.feed ⟨[], some secret⟩ data).drain digests
  match drained.stop with
  | some error => .error error
  | none =>
      if drained.buffer.buf.length ≠ 0 then
        .error ⟨.errLength, s!"{drained.buffer.buf.length} trailing bytes in datagram"⟩
      else .ok drained.frames

end

/-! ## The server -/

/-- The draws of one call: the identifier of a session built in it, and the
nonce of a HELLO_ACK. -/
structure Draw where
  sessionId : SessionId
  nonce : Nonce

structure Peer where
  session : ServerSession
  dedup : DedupWindow

structure UdpServer (Addr : Type) where
  secret : Bytes
  dedupSize : Nat
  peers : Addr -> Option Peer
  duplicates : Nat
  handled : Nat

/-- A call of `onDatagram`: the server after it, what it sent, the frame that
it handed to a session if it did, the handlers that ran, and the exception
that left it. -/
structure Delivery (Addr : Type) where
  server : UdpServer Addr
  sent : List (Bytes × Addr)
  handed : Option Frame
  calls : List Call
  raised : Option PyError

namespace UdpServer

variable {Addr : Type}

def start (secret : Bytes) (dedupSize : Nat) : UdpServer Addr :=
  ⟨secret, dedupSize, fun _ => none, 0, 0⟩

variable [DecidableEq Addr]

def setPeer (server : UdpServer Addr) (addr : Addr) (peer : Peer) : UdpServer Addr :=
  { server with peers := Function.update server.peers addr (some peer) }

def delPeer (server : UdpServer Addr) (addr : Addr) : UdpServer Addr :=
  { server with peers := Function.update server.peers addr none }

/-- The entry of an address, built on its first frame. -/
def peer (server : UdpServer Addr) (addr : Addr) (draw : Draw) : Peer :=
  (server.peers addr).getD ⟨{ sessionId := draw.sessionId }, .empty server.dedupSize⟩

omit [DecidableEq Addr] in
theorem peer_of_known {server : UdpServer Addr} {addr : Addr} {stored : Peer}
    (known : server.peers addr = some stored) (draw : Draw) : server.peer addr draw = stored := by
  rw [peer, known]
  rfl

omit [DecidableEq Addr] in
theorem peer_of_unknown {server : UdpServer Addr} {addr : Addr}
    (unknown : server.peers addr = none) (draw : Draw) :
    server.peer addr draw = ⟨{ sessionId := draw.sessionId }, .empty server.dedupSize⟩ := by
  rw [peer, unknown]
  rfl

/-- The ACK that the frame asks for, and the session after numbering it. -/
def acks (session : ServerSession) (frame : Frame) : List Frame × ServerSession :=
  if Int.land frame.flags flagRequireAck ≠ 0 then
    let (ack, session) := session.ack frame.seq
    ([ack], session)
  else ([], session)

variable (runtime : Runtime)

def onDatagram (server : UdpServer Addr) (data : Bytes) (addr : Addr) (draw : Draw) :
    Delivery Addr :=
  match decode runtime.toDigests data (some server.secret) with
  | .error _ => ⟨server, [], none, [], none⟩
  | .ok frame =>
      let peer := server.peer addr draw
      match peer.dedup.get frame.seq with
      | some cached =>
          -- a retransmission of something already executed
          let server := server.setPeer addr peer
          ⟨{ server with duplicates := server.duplicates + 1 },
            if cached ≠ [] then [(cached, addr)] else [], none, [], none⟩
      | none =>
          let (acks, session) := acks peer.session frame
          let turn := session.onFrame runtime draw.nonce frame
          let server := server.setPeer addr { peer with session := turn.session }
          match turn.result with
          | .error raised => ⟨server, [], some frame, turn.calls, some raised⟩
          | .ok reaction =>
              let server := { server with handled := server.handled + 1 }
              match join runtime.toDigests server.secret (acks ++ reaction.frames) with
              | .error raised =>
                  ⟨server, [], some frame, turn.calls, some (.protocolError raised)⟩
              | .ok reply =>
                  let sent := if reply ≠ [] then [(reply, addr)] else []
                  let server := server.setPeer addr
                    ⟨turn.session, peer.dedup.put frame.seq reply⟩
                  ⟨if reaction.close then server.delPeer addr else server, sent, some frame, turn.calls,
                    none⟩

/-! ## What one datagram can do -/

@[simp] theorem secret_setPeer (server : UdpServer Addr) (addr : Addr) (peer : Peer) :
    (server.setPeer addr peer).secret = server.secret := rfl

@[simp] theorem peers_setPeer_self (server : UdpServer Addr) (addr : Addr) (peer : Peer) :
    (server.setPeer addr peer).peers addr = some peer := Function.update_self ..

@[simp] theorem peers_delPeer_self (server : UdpServer Addr) (addr : Addr) :
    (server.delPeer addr).peers addr = none := Function.update_self ..

theorem setPeer_of_known {server : UdpServer Addr} {addr : Addr} {peer : Peer}
    (known : server.peers addr = some peer) : server.setPeer addr peer = server := by
  rw [setPeer, ← known, Function.update_eq_self]

/-- What the server keeps of an address whose frame was answered. -/
def settle (server : UdpServer Addr) (addr : Addr) (peer : Peer) (closes : Bool) :
    UdpServer Addr :=
  let kept := { server.setPeer addr peer with handled := server.handled + 1 }
  if closes then kept.delPeer addr else kept

@[simp] theorem secret_settle (server : UdpServer Addr) (addr : Addr) (peer : Peer)
    (closes : Bool) : (server.settle addr peer closes).secret = server.secret := by
  cases closes <;> rfl

@[simp] theorem dedupSize_settle (server : UdpServer Addr) (addr : Addr) (peer : Peer)
    (closes : Bool) : (server.settle addr peer closes).dedupSize = server.dedupSize := by
  cases closes <;> rfl

@[simp] theorem handled_settle (server : UdpServer Addr) (addr : Addr) (peer : Peer)
    (closes : Bool) : (server.settle addr peer closes).handled = server.handled + 1 := by
  cases closes <;> rfl

@[simp] theorem duplicates_settle (server : UdpServer Addr) (addr : Addr) (peer : Peer)
    (closes : Bool) : (server.settle addr peer closes).duplicates = server.duplicates := by
  cases closes <;> rfl

theorem peers_settle (server : UdpServer Addr) (addr : Addr) (peer : Peer) (closes : Bool) :
    (server.settle addr peer closes).peers =
      Function.update server.peers addr (if closes then none else some peer) := by
  cases closes with
  | false => rfl
  | true => exact Function.update_idem ..

theorem peers_settle_self (server : UdpServer Addr) (addr : Addr) (peer : Peer) :
    (server.settle addr peer false).peers addr = some peer := by
  rw [peers_settle, Function.update_self]
  rfl

theorem peers_settle_closed (server : UdpServer Addr) (addr : Addr) (peer : Peer) :
    (server.settle addr peer true).peers addr = none := by
  rw [peers_settle, Function.update_self, if_pos rfl]

/-- An entry is left only by a reaction that stays open. -/
theorem settle_known {server : UdpServer Addr} {addr : Addr} {peer stored : Peer} {closes : Bool}
    (known : (server.settle addr peer closes).peers addr = some stored) :
    closes = false ∧ stored = peer := by
  rw [peers_settle, Function.update_self] at known
  cases closes with
  | true => cases known
  | false =>
      cases known
      exact ⟨rfl, rfl⟩

/-- The entry that is stored while the reply is encoded is overwritten. -/
theorem settle_eq (server : UdpServer Addr) (addr : Addr) (early peer : Peer) (closes : Bool) :
    (let stored := { server.setPeer addr early with handled := server.handled + 1 }
      if closes then (stored.setPeer addr peer).delPeer addr else stored.setPeer addr peer) =
      server.settle addr peer closes := by
  cases closes <;> simp [settle, setPeer, delPeer]

/-- The outcomes of a call of `onDatagram`. -/
inductive Receipt (server : UdpServer Addr) (data : Bytes) (addr : Addr) (draw : Draw) :
    Delivery Addr -> Prop
  | dropped {error : ProtocolError}
      (undecodable : decode runtime.toDigests data (some server.secret) = .error error) :
      Receipt server data addr draw ⟨server, [], none, [], none⟩
  | replayed {frame : Frame} (decoded : decode runtime.toDigests data (some server.secret) = .ok frame)
      {peer : Peer} (known : server.peers addr = some peer) {cached : Bytes}
      (hit : peer.dedup.get frame.seq = some cached) :
      Receipt server data addr draw
        ⟨{ server with duplicates := server.duplicates + 1 },
          if cached ≠ [] then [(cached, addr)] else [], none, [], none⟩
  | raised {frame : Frame} (decoded : decode runtime.toDigests data (some server.secret) = .ok frame)
      (missed : (server.peer addr draw).dedup.get frame.seq = none) {turn : Turn}
      (handling : Handling runtime draw.nonce (acks (server.peer addr draw).session frame).2 frame turn)
      {raised : PyError} (result : turn.result = .error raised) :
      Receipt server data addr draw
        ⟨server.setPeer addr ⟨turn.session, (server.peer addr draw).dedup⟩, [], some frame,
          turn.calls, some raised⟩
  | answered {frame : Frame} (decoded : decode runtime.toDigests data (some server.secret) = .ok frame)
      (missed : (server.peer addr draw).dedup.get frame.seq = none) {turn : Turn}
      (handling : Handling runtime draw.nonce (acks (server.peer addr draw).session frame).2 frame turn)
      {reaction : Reaction} (result : turn.result = .ok reaction) {reply : Bytes}
      (joined : join runtime.toDigests server.secret
        ((acks (server.peer addr draw).session frame).1 ++ reaction.frames) = .ok reply) :
      Receipt server data addr draw
        ⟨server.settle addr ⟨turn.session, (server.peer addr draw).dedup.put frame.seq reply⟩
            reaction.close,
          if reply ≠ [] then [(reply, addr)] else [], some frame, turn.calls, none⟩

end UdpServer

/-! ## Sound peers -/

/-- The peers that the table may hold: their sessions are open, and their
counters are in range. -/
structure Peer.Sound (peer : Peer) : Prop where
  live : peer.session.Open
  range : peer.session.InRange

theorem Peer.sound_init (sessionId : SessionId) (dedup : DedupWindow) :
    Peer.Sound ⟨{ sessionId := sessionId }, dedup⟩ :=
  ⟨.inl rfl, ServerSession.inRange_init sessionId⟩

section

variable (digests : Digests)

/-- A datagram splits into the frames it was joined from. -/
theorem splitDatagram_join {secret data : Bytes} {frames : List Frame}
    (joined : join digests secret frames = .ok data) :
    splitDatagram digests data secret = .ok frames := by
  have scanned := scan_join digests joined
  have drained := FrameBuffer.drain_eq_scan digests ⟨data, some secret⟩
  have finished := drained.2.1.trans scanned.2.1
  have nothing := drained.2.2 finished
  rw [splitDatagram, FrameBuffer.feed, List.nil_append]
  dsimp only
  rw [finished, nothing, drained.1, scanned.1, scanned.2.2]
  rfl

/-- A datagram splits into frames exactly if it is made of them. -/
theorem splitDatagram_ok_iff {data secret : Bytes} {frames : List Frame} :
    splitDatagram digests data secret = .ok frames <-> join digests secret frames = .ok data := by
  constructor
  · intro split
    have drained := FrameBuffer.drain_eq_scan digests ⟨data, some secret⟩
    rw [splitDatagram, FrameBuffer.feed, List.nil_append] at split
    dsimp only at split
    cases stop : (FrameBuffer.drain digests ⟨data, some secret⟩).stop with
    | some error =>
        rw [stop] at split
        cases split
    | none =>
        rw [stop] at split
        dsimp only at split
        rw [drained.2.2 stop] at split
        by_cases trailing : ((frameScanner digests (some secret)).scan data).rest.length ≠ 0
        · rw [if_pos trailing] at split
          cases split
        · rw [if_neg trailing, drained.1] at split
          cases split
          exact join_of_scan digests data (drained.2.1.symm.trans stop)
            (List.length_eq_zero_iff.mp (not_not.mp trailing))
  · exact splitDatagram_join digests
end

namespace UdpServer

variable {Addr : Type} [DecidableEq Addr] (runtime : Runtime)

/-- Every entry is sound, with a window of the server's size. -/
structure Sound (server : UdpServer Addr) : Prop where
  peers : forall {addr peer}, server.peers addr = some peer -> peer.Sound
  windows : forall {addr peer}, server.peers addr = some peer -> peer.dedup.size = server.dedupSize

omit [DecidableEq Addr] in
theorem sound_start (secret : Bytes) (dedupSize : Nat) :
    (start secret dedupSize : UdpServer Addr).Sound := ⟨nofun, nofun⟩

omit [DecidableEq Addr] in
theorem sound_peer {server : UdpServer Addr} (sound : server.Sound) (addr : Addr) (draw : Draw) :
    (server.peer addr draw).Sound ∧ (server.peer addr draw).dedup.size = server.dedupSize := by
  cases known : server.peers addr with
  | none =>
      rw [peer_of_unknown known]
      exact ⟨Peer.sound_init draw.sessionId _, rfl⟩
  | some peer =>
      rw [peer_of_known known]
      exact ⟨sound.peers known, sound.windows known⟩

theorem acks_of_asks (session : ServerSession) {frame : Frame}
    (asks : Int.land frame.flags flagRequireAck ≠ 0) :
    acks session frame = ([⟨.ack, session.outSeq, encodeAck frame.seq, 0⟩],
      { session with outSeq := (session.outSeq + 1) &&& maxSeq }) := by
  rw [acks, if_pos asks]
  rfl

/-- An acknowledgement moves the session's own counter and nothing else. -/
theorem acks_eq (session : ServerSession) (frame : Frame) :
    ∃ outSeq, (acks session frame).2 = { session with outSeq := outSeq } := by
  rw [acks]
  by_cases asked : Int.land frame.flags flagRequireAck ≠ 0
  · rw [if_pos asked]
    exact ⟨_, rfl⟩
  · rw [if_neg asked]
    exact ⟨session.outSeq, rfl⟩

@[simp] theorem state_acks (session : ServerSession) (frame : Frame) :
    (acks session frame).2.state = session.state := by
  rcases acks_eq session frame with ⟨outSeq, same⟩
  rw [same]

@[simp] theorem lastPeerSeq_acks (session : ServerSession) (frame : Frame) :
    (acks session frame).2.lastPeerSeq = session.lastPeerSeq := by
  rcases acks_eq session frame with ⟨outSeq, same⟩
  rw [same]

@[simp] theorem sessionId_acks (session : ServerSession) (frame : Frame) :
    (acks session frame).2.sessionId = session.sessionId := by
  rcases acks_eq session frame with ⟨outSeq, same⟩
  rw [same]

theorem acks_sound {session : ServerSession} {frame : Frame} (live : session.Open)
    (range : session.InRange) (decoded : Encodable frame) :
    (acks session frame).2.Open ∧ (acks session frame).2.InRange ∧
      forall ack, ack ∈ (acks session frame).1 -> Encodable ack := by
  have acked := ServerSession.ack_encodable range decoded.seq
  rw [acks]
  by_cases asked : Int.land frame.flags flagRequireAck ≠ 0
  · rw [if_pos asked]
    refine ⟨live, acked.2, ?_⟩
    intro ack member
    rw [List.mem_singleton.mp member]
    exact acked.1
  · rw [if_neg asked]
    exact ⟨live, range, nofun⟩

variable {runtime} in
/-- A frame whose number is in the window is answered from it. -/
theorem onDatagram_cached {server : UdpServer Addr} {addr : Addr} {data : Bytes} {frame : Frame}
    (decoded : decode runtime.toDigests data (some server.secret) = .ok frame) {peer : Peer}
    (known : server.peers addr = some peer) {cached : Bytes}
    (hit : peer.dedup.get frame.seq = some cached) (draw : Draw) :
    server.onDatagram runtime data addr draw =
      ⟨{ server with duplicates := server.duplicates + 1 },
        if cached ≠ [] then [(cached, addr)] else [], none, [], none⟩ := by
  rw [onDatagram, decoded]
  dsimp only
  rw [peer_of_known known, hit]
  dsimp only
  rw [setPeer_of_known known]

/-- A number that is not in the window reaches the session.  Nothing that a
sound peer says fails to encode. -/
theorem onDatagram_answered {server : UdpServer Addr} (sound : server.Sound) {data : Bytes}
    {addr : Addr} {frame : Frame} {draw : Draw}
    (decoded : decode runtime.toDigests data (some server.secret) = .ok frame)
    (missed : (server.peer addr draw).dedup.get frame.seq = none) {turn : Turn}
    (turned : (acks (server.peer addr draw).session frame).2.onFrame runtime draw.nonce frame = turn)
    {reaction : Reaction} (result : turn.result = .ok reaction) :
    ∃ reply, join runtime.toDigests server.secret
          ((acks (server.peer addr draw).session frame).1 ++ reaction.frames) = .ok reply ∧
      server.onDatagram runtime data addr draw =
        ⟨server.settle addr ⟨turn.session, (server.peer addr draw).dedup.put frame.seq reply⟩
            reaction.close,
          if reply ≠ [] then [(reply, addr)] else [], some frame, turn.calls, none⟩ := by
  have peerSound := (sound_peer sound addr draw).1
  have checks := encodable_of_decode runtime.toDigests decoded
  rcases acks_sound peerSound.live peerSound.range checks with ⟨live, range, acked⟩
  have handling := onFrame_handling runtime draw.nonce live frame
  rw [turned] at handling
  have replies := (handling.encodable range checks).2 reaction result
  have encodable (reply : Frame) (member : reply ∈
      (acks (server.peer addr draw).session frame).1 ++ reaction.frames) : Encodable reply := by
    rcases List.mem_append.mp member with ack | answer
    · exact acked reply ack
    · exact replies reply answer
  rcases exists_join runtime.toDigests server.secret encodable with ⟨reply, joined⟩
  refine ⟨reply, joined, ?_⟩
  rw [onDatagram, decoded]
  dsimp only
  rw [missed]
  dsimp only
  rw [turned, result]
  dsimp only
  rw [secret_setPeer, joined, ← settle_eq server addr ⟨turn.session, (server.peer addr draw).dedup⟩]
  rfl

/-- A frame that asks for its acknowledgement, and gets one reply with it. -/
theorem onDatagram_replied {server : UdpServer Addr} (sound : server.Sound) {data : Bytes}
    {addr : Addr} {frame : Frame} {draw : Draw}
    (decoded : decode runtime.toDigests data (some server.secret) = .ok frame)
    (asks : Int.land frame.flags flagRequireAck ≠ 0) {peer : Peer}
    (here : server.peer addr draw = peer) (missed : peer.dedup.get frame.seq = none) {turn : Turn}
    (turned : { peer.session with outSeq := (peer.session.outSeq + 1) &&& maxSeq }.onFrame runtime
      draw.nonce frame = turn)
    {reaction : Reaction} (result : turn.result = .ok reaction) {reply : Frame}
    (single : reaction.frames = [reply]) :
    ∃ stored, join runtime.toDigests server.secret
          [⟨.ack, peer.session.outSeq, encodeAck frame.seq, 0⟩, reply] = .ok stored ∧
      server.onDatagram runtime data addr draw =
        ⟨server.settle addr ⟨turn.session, peer.dedup.put frame.seq stored⟩ reaction.close,
          [(stored, addr)], some frame, turn.calls, none⟩ := by
  subst here
  have acked := acks_of_asks (server.peer addr draw).session asks
  rcases onDatagram_answered runtime sound decoded missed (by rw [acked]; exact turned) result with
    ⟨stored, joined, delivered⟩
  rw [acked, single] at joined
  rw [if_pos (join_ne_nil _ joined)] at delivered
  exact ⟨stored, joined, delivered⟩

/-- The outcomes are complete for a server with sound peers. -/
theorem onDatagram_receipt {server : UdpServer Addr} (sound : server.Sound) (data : Bytes)
    (addr : Addr) (draw : Draw) :
    Receipt runtime server data addr draw (server.onDatagram runtime data addr draw) := by
  have peerSound := (sound_peer sound addr draw).1
  cases decoded : decode runtime.toDigests data (some server.secret) with
  | error error =>
      rw [onDatagram, decoded]
      exact .dropped decoded
  | ok frame =>
      cases missed : (server.peer addr draw).dedup.get frame.seq with
      | some cached =>
          cases known : server.peers addr with
          | none =>
              rw [peer_of_unknown known] at missed
              cases missed
          | some stored =>
              rw [peer_of_known known] at missed
              rw [onDatagram_cached decoded known missed]
              exact .replayed decoded known missed
      | none =>
          have checks := encodable_of_decode runtime.toDigests decoded
          have live := (acks_sound peerSound.live peerSound.range checks).1
          have handling := onFrame_handling runtime draw.nonce live frame
          generalize turned : (acks (server.peer addr draw).session frame).2.onFrame runtime
            draw.nonce frame = turn at handling
          cases result : turn.result with
          | error raised =>
              rw [onDatagram, decoded]
              dsimp only
              rw [missed]
              dsimp only
              rw [turned, result]
              exact .raised decoded missed handling result
          | ok reaction =>
              rcases onDatagram_answered runtime sound decoded missed turned result with
                ⟨reply, joined, same⟩
              rw [same]
              exact .answered decoded missed handling result joined

/-- The outcomes for a datagram that decodes. -/
inductive Treatment (server : UdpServer Addr) (frame : Frame) (addr : Addr) (draw : Draw) :
    Delivery Addr -> Prop
  | replayed {peer : Peer} (known : server.peers addr = some peer) {cached : Bytes}
      (hit : peer.dedup.get frame.seq = some cached) :
      Treatment server frame addr draw
        ⟨{ server with duplicates := server.duplicates + 1 },
          if cached ≠ [] then [(cached, addr)] else [], none, [], none⟩
  | raised (missed : (server.peer addr draw).dedup.get frame.seq = none) {turn : Turn}
      (handling : Handling runtime draw.nonce (acks (server.peer addr draw).session frame).2 frame turn)
      {raised : PyError} (result : turn.result = .error raised) :
      Treatment server frame addr draw
        ⟨server.setPeer addr ⟨turn.session, (server.peer addr draw).dedup⟩, [], some frame,
          turn.calls, some raised⟩
  | answered (missed : (server.peer addr draw).dedup.get frame.seq = none) {turn : Turn}
      (handling : Handling runtime draw.nonce (acks (server.peer addr draw).session frame).2 frame turn)
      {reaction : Reaction} (result : turn.result = .ok reaction) {reply : Bytes}
      (joined : join runtime.toDigests server.secret
        ((acks (server.peer addr draw).session frame).1 ++ reaction.frames) = .ok reply) :
      Treatment server frame addr draw
        ⟨server.settle addr ⟨turn.session, (server.peer addr draw).dedup.put frame.seq reply⟩
            reaction.close,
          if reply ≠ [] then [(reply, addr)] else [], some frame, turn.calls, none⟩

theorem Receipt.treatment {server : UdpServer Addr} {data : Bytes} {addr : Addr} {draw : Draw}
    {delivery : Delivery Addr} (receipt : Receipt runtime server data addr draw delivery)
    {frame : Frame} (decoded : decode runtime.toDigests data (some server.secret) = .ok frame) :
    Treatment runtime server frame addr draw delivery := by
  cases receipt with
  | dropped undecodable =>
      rw [decoded] at undecodable
      cases undecodable
  | replayed same known hit =>
      rw [decoded] at same
      cases same
      exact .replayed known hit
  | raised same missed handling result =>
      rw [decoded] at same
      cases same
      exact .raised missed handling result
  | answered same missed handling result joined =>
      rw [decoded] at same
      cases same
      exact .answered missed handling result joined

namespace Receipt

variable {runtime} {server : UdpServer Addr} {data : Bytes} {addr : Addr} {draw : Draw}
  {delivery : Delivery Addr}

theorem secret (receipt : Receipt runtime server data addr draw delivery) :
    delivery.server.secret = server.secret := by
  cases receipt with
  | dropped undecodable => rfl
  | replayed decoded known hit => rfl
  | raised decoded missed handling result => rfl
  | answered decoded missed handling result joined => exact secret_settle ..

theorem dedupSize (receipt : Receipt runtime server data addr draw delivery) :
    delivery.server.dedupSize = server.dedupSize := by
  cases receipt with
  | dropped undecodable => rfl
  | replayed decoded known hit => rfl
  | raised decoded missed handling result => rfl
  | answered decoded missed handling result joined => exact dedupSize_settle ..

/-- A datagram from one address leaves the entries of all others alone. -/
theorem peers_other (receipt : Receipt runtime server data addr draw delivery) {other : Addr}
    (different : other ≠ addr) : delivery.server.peers other = server.peers other := by
  cases receipt with
  | dropped undecodable => rfl
  | replayed decoded known hit => rfl
  | raised decoded missed handling result => exact Function.update_of_ne different ..
  | answered decoded missed handling result joined =>
      rw [peers_settle]
      exact Function.update_of_ne different ..

/-- What a datagram leaves under its own address. -/
theorem sound_here (receipt : Receipt runtime server data addr draw delivery)
    (sound : server.Sound) {stored : Peer} (known : delivery.server.peers addr = some stored) :
    stored.Sound ∧ stored.dedup.size = server.dedupSize := by
  rcases sound_peer sound addr draw with ⟨peerSound, sized⟩
  cases receipt with
  | dropped undecodable => exact ⟨sound.peers known, sound.windows known⟩
  | replayed decoded _ hit => exact ⟨sound.peers known, sound.windows known⟩
  | raised decoded missed handling result =>
      have checks := encodable_of_decode runtime.toDigests decoded
      rcases acks_sound peerSound.live peerSound.range checks with ⟨live, range, _⟩
      have state := handling.live live
      rw [result] at state
      rw [peers_setPeer_self] at known
      cases known
      exact ⟨⟨by rw [ServerSession.Open, state]; exact live, (handling.encodable range checks).1⟩,
        sized⟩
  | answered decoded missed handling result joined =>
      rename_i frame turn reaction reply
      have checks := encodable_of_decode runtime.toDigests decoded
      rcases acks_sound peerSound.live peerSound.range checks with ⟨live, range, _⟩
      have state := handling.live live
      rw [result] at state
      rcases settle_known known with ⟨closes, rfl⟩
      dsimp only at state
      rw [closes] at state
      exact ⟨⟨state, (handling.encodable range checks).1⟩, sized⟩

theorem sound (receipt : Receipt runtime server data addr draw delivery) (sound : server.Sound) :
    delivery.server.Sound := by
  constructor
  · intro other stored known
    by_cases here : other = addr
    · rw [here] at known
      exact (receipt.sound_here sound known).1
    · rw [receipt.peers_other here] at known
      exact sound.peers known
  · intro other stored known
    rw [receipt.dedupSize]
    by_cases here : other = addr
    · rw [here] at known
      exact (receipt.sound_here sound known).2
    · rw [receipt.peers_other here] at known
      exact sound.windows known

end Receipt

/-- The first HELLO of an address opens a session, which has handled nothing
else. -/
theorem onDatagram_hello {server : UdpServer Addr} (sound : server.Sound) {addr : Addr}
    (unknown : server.peers addr = none) {data : Bytes} {frame : Frame}
    (decoded : decode runtime.toDigests data (some server.secret) = .ok frame)
    (asks : Int.land frame.flags flagRequireAck ≠ 0) (hello : frame.msgType = .hello)
    {clientId peerNonce : String}
    (wellFormed : decodeHello runtime frame.payload = .ok (clientId, peerNonce)) (draw : Draw) :
    ∃ peer stored,
      (server.onDatagram runtime data addr draw).server.peers addr = some peer ∧
        peer.session.state = .ready ∧ peer.session.lastPeerSeq = frame.seq ∧
        peer.dedup = (DedupWindow.empty server.dedupSize).put frame.seq stored ∧
        (server.onDatagram runtime data addr draw).calls = [.dispatch frame, .onHello frame] := by
  have accepted : (-1 : Int) < frame.seq := by
    have positive := (encodable_of_decode runtime.toDigests decoded).seq.1
    omega
  rcases onDatagram_replied runtime sound decoded asks (peer_of_unknown unknown draw) rfl
    (onFrame_welcomed runtime draw.nonce rfl accepted hello wellFormed) rfl rfl with
    ⟨stored, joined, delivered⟩
  rw [delivered]
  exact ⟨_, stored, peers_settle_self .., rfl, rfl, rfl, rfl⟩

/-- A number that the window has forgotten closes the session. -/
theorem onDatagram_late {server : UdpServer Addr} (sound : server.Sound) {addr : Addr}
    {peer : Peer} (known : server.peers addr = some peer) {data : Bytes} {frame : Frame}
    (decoded : decode runtime.toDigests data (some server.secret) = .ok frame)
    (asks : Int.land frame.flags flagRequireAck ≠ 0)
    (missed : peer.dedup.get frame.seq = none) (late : frame.seq ≤ peer.session.lastPeerSeq)
    (draw : Draw) : (server.onDatagram runtime data addr draw).server.peers addr = none := by
  have live : ServerSession.Open
      { peer.session with outSeq := (peer.session.outSeq + 1) &&& maxSeq } :=
    (sound.peers known).live
  rcases onDatagram_replied runtime sound decoded asks (peer_of_known known draw) missed
    (onFrame_stale runtime draw.nonce live late) rfl rfl with ⟨stored, joined, delivered⟩
  rw [delivered]
  exact peers_settle_closed ..

/-- A DATA with a new number is executed. -/
theorem onDatagram_data {server : UdpServer Addr} (sound : server.Sound) {addr : Addr}
    {peer : Peer} (known : server.peers addr = some peer) (ready : peer.session.state = .ready)
    {data : Bytes} {frame : Frame}
    (decoded : decode runtime.toDigests data (some server.secret) = .ok frame)
    (asks : Int.land frame.flags flagRequireAck ≠ 0) (kind : frame.msgType = .data)
    (missed : peer.dedup.get frame.seq = none) (accepted : peer.session.lastPeerSeq < frame.seq)
    (draw : Draw) :
    (server.onDatagram runtime data addr draw).calls = [.dispatch frame, .onData frame] := by
  have stillReady : ServerSession.state
      { peer.session with outSeq := (peer.session.outSeq + 1) &&& maxSeq } = .ready := ready
  have echoes : echoType frame.msgType = some .data := congrArg echoType kind
  rcases onDatagram_replied runtime sound decoded asks (peer_of_known known draw) missed
    (onFrame_echoed runtime draw.nonce stillReady accepted echoes) rfl rfl with
    ⟨stored, joined, delivered⟩
  rw [delivered]
  dsimp only
  rw [if_pos kind]

/-! ## Runs of a server -/

/-- One datagram from anyone. -/
structure Arrival (Addr : Type) where
  data : Bytes
  addr : Addr
  draw : Draw

def step (server : UdpServer Addr) (arrival : Arrival Addr) : Option (UdpServer Addr) :=
  some (server.onDatagram runtime arrival.data arrival.addr arrival.draw).server

theorem sound_of_run {secret : Bytes} {dedupSize : Nat} {arrivals : List (Arrival Addr)}
    {server : UdpServer Addr}
    (reached : Execution.run (step runtime) (start secret dedupSize) arrivals = some server) :
    server.Sound ∧ server.secret = secret ∧ server.dedupSize = dedupSize := by
  have kept {before : UdpServer Addr} {arrival : Arrival Addr} {after : UdpServer Addr}
      (holds : before.Sound ∧ before.secret = secret ∧ before.dedupSize = dedupSize)
      (stepped : step runtime before arrival = some after) :
      after.Sound ∧ after.secret = secret ∧ after.dedupSize = dedupSize := by
    cases stepped
    have receipt := onDatagram_receipt runtime holds.1 arrival.data arrival.addr arrival.draw
    exact ⟨receipt.sound holds.1, receipt.secret.trans holds.2.1, receipt.dedupSize.trans holds.2.2⟩
  exact Execution.run_invariant _ kept ⟨sound_start secret dedupSize, rfl, rfl⟩ reached

end UdpServer
end Wireline
