import Mathlib
import Wireline.Udp.Server

namespace Wireline

/-!
# The grammar of datagrams

A datagram is a concatenation of encoded frames and nothing else.  It is read
in one way, so what the server puts into a datagram is what a client finds in
it, also when the datagram comes out of the window a second time.
-/

section

variable (digests : Digests) (secret : Bytes)

/-- The octets are the encodings of the frames, in order. -/
def Spells (frames : List Frame) (data : Bytes) : Prop :=
  ∃ raws, List.Forall₂ (fun frame raw => encode digests frame secret = .ok raw) frames raws ∧
    data = raws.flatten

theorem join_ok_iff {frames : List Frame} {data : Bytes} :
    join digests secret frames = .ok data <-> Spells digests secret frames data := by
  constructor
  · intro joined
    induction frames generalizing data with
    | nil =>
        cases joined
        exact ⟨[], .nil, rfl⟩
    | cons frame frames ih =>
        rcases join_cons digests joined with ⟨first, rest, encoded, others, rfl⟩
        rcases ih others with ⟨raws, each, rfl⟩
        exact ⟨first :: raws, .cons encoded each, rfl⟩
  · rintro ⟨raws, each, rfl⟩
    induction each with
    | nil => rfl
    | cons encoded _ ih =>
        rw [join, encoded, ih]
        rfl

theorem splitDatagram_ok_iff_spells (data : Bytes) (frames : List Frame) :
    splitDatagram digests data secret = .ok frames <-> Spells digests secret frames data := by
  rw [splitDatagram_ok_iff, join_ok_iff]

/-- Whatever is not spelt by frames is refused. -/
theorem splitDatagram_error_iff (data : Bytes) :
    (∃ error, splitDatagram digests data secret = .error error) <->
      ¬ ∃ frames, Spells digests secret frames data := by
  constructor
  · rintro ⟨error, refused⟩ ⟨frames, spelt⟩
    rw [(splitDatagram_ok_iff_spells digests secret data frames).mpr spelt] at refused
    cases refused
  · intro unspelt
    cases split : splitDatagram digests data secret with
    | error error => exact ⟨error, rfl⟩
    | ok frames =>
        exact absurd ⟨frames, (splitDatagram_ok_iff_spells digests secret data frames).mp split⟩
          unspelt

/-- No octets are spelt by two lists of frames. -/
theorem spells_unique {first second : List Frame} {data : Bytes}
    (spelt : Spells digests secret first data) (other : Spells digests secret second data) :
    first = second := by
  have split := (splitDatagram_ok_iff_spells digests secret data first).mpr spelt
  rw [(splitDatagram_ok_iff_spells digests secret data second).mpr other] at split
  exact (Except.ok.inj split).symm

theorem spells_single {frame : Frame} {data : Bytes} :
    Spells digests secret [frame] data <-> encode digests frame secret = .ok data := by
  constructor
  · rintro ⟨raws, each, rfl⟩
    cases each with
    | cons encoded none =>
        cases none
        rw [encoded]
        simp
  · intro encoded
    exact ⟨[data], .cons encoded .nil, by simp⟩

/-- The two decoders of a datagram agree about single frames. -/
theorem decode_iff_split_single (data : Bytes) (frame : Frame) :
    decode digests data (some secret) = .ok frame <->
      splitDatagram digests data secret = .ok [frame] := by
  rw [decode_ok_iff_encode_ok, splitDatagram_ok_iff_spells, spells_single]

end

/-! ## What the server builds -/

namespace UdpServer

variable {Addr : Type} [DecidableEq Addr] (runtime : Runtime)

/-- A call builds a datagram out of frames: the ones that acknowledge and
those of the reaction. -/
def Builds (server : UdpServer Addr) (arrival : Arrival Addr) (frames : List Frame)
    (reply : Bytes) : Prop :=
  ∃ frame reaction,
    decode runtime.toDigests arrival.data (some server.secret) = .ok frame ∧
    (server.peer arrival.addr arrival.draw).dedup.get frame.seq = none ∧
    ((acks (server.peer arrival.addr arrival.draw).session frame).2.onFrame runtime
      arrival.draw.nonce frame).result = .ok reaction ∧
    frames = (acks (server.peer arrival.addr arrival.draw).session frame).1 ++ reaction.frames ∧
    join runtime.toDigests server.secret frames = .ok reply

/-- A datagram was built in one of the calls of a run. -/
def Built (secret : Bytes) (dedupSize : Nat) (arrivals : List (Arrival Addr))
    (frames : List Frame) (reply : Bytes) : Prop :=
  ∃ before arrival behind server, arrivals = before ++ arrival :: behind ∧
    Execution.run (step runtime) (start secret dedupSize) before = some server ∧
    server.Builds runtime arrival frames reply

/-- The window of an address holds the octets. -/
def Caches (server : UdpServer Addr) (addr : Addr) (reply : Bytes) : Prop :=
  ∃ peer seq, server.peers addr = some peer ∧ (seq, reply) ∈ peer.dedup.entries

omit [DecidableEq Addr] in
theorem caches_of_peer {server : UdpServer Addr} {addr : Addr} {draw : Draw} {seq : Int}
    {reply : Bytes} (member : (seq, reply) ∈ (server.peer addr draw).dedup.entries) :
    server.Caches addr reply := by
  cases known : server.peers addr with
  | none =>
      rw [peer_of_unknown known] at member
      cases member
  | some peer =>
      rw [peer_of_known known] at member
      exact ⟨peer, seq, known, member⟩

/-- What one call sends or keeps was kept before, or is built in the call. -/
theorem onDatagram_origin {server : UdpServer Addr} (sound : server.Sound) (arrival : Arrival Addr) :
    (forall addr reply,
      (server.onDatagram runtime arrival.data arrival.addr arrival.draw).server.Caches addr reply ->
        server.Caches addr reply ∨ ∃ frames, server.Builds runtime arrival frames reply) ∧
      forall sent,
        sent ∈ (server.onDatagram runtime arrival.data arrival.addr arrival.draw).sent ->
          server.Caches arrival.addr sent.1 ∨
            ∃ frames, server.Builds runtime arrival frames sent.1 := by
  rcases arrival with ⟨data, addr, draw⟩
  dsimp only
  cases decoded : decode runtime.toDigests data (some server.secret) with
  | error error =>
      rw [onDatagram, decoded]
      exact ⟨fun _ _ caches => .inl caches, fun _ member => by cases member⟩
  | ok frame =>
      cases missed : (server.peer addr draw).dedup.get frame.seq with
      | some cached =>
          have here := caches_of_peer (DedupWindow.mem_of_get missed)
          cases known : server.peers addr with
          | none =>
              rw [peer_of_unknown known] at missed
              cases missed
          | some peer =>
              rw [peer_of_known known] at missed
              rw [onDatagram_cached decoded known missed]
              refine ⟨fun _ _ caches => .inl caches, ?_⟩
              intro sent member
              dsimp only at member
              split at member
              · rw [List.mem_singleton.mp member]
                exact .inl here
              · cases member
      | none =>
          generalize turned : (acks (server.peer addr draw).session frame).2.onFrame runtime
            draw.nonce frame = turn
          cases result : turn.result with
          | error raised =>
              have delivered : server.onDatagram runtime data addr draw =
                  ⟨server.setPeer addr ⟨turn.session, (server.peer addr draw).dedup⟩, [], some frame,
                    turn.calls, some raised⟩ := by
                rw [onDatagram, decoded]
                dsimp only
                rw [missed]
                dsimp only
                rw [turned, result]
              rw [delivered]
              refine ⟨?_, fun _ member => by cases member⟩
              rintro other reply ⟨peer, seq, known, member⟩
              by_cases same : other = addr
              · subst same
                rw [peers_setPeer_self] at known
                cases known
                exact .inl (caches_of_peer member)
              · have elsewhere : server.peers other = some peer :=
                  (Function.update_of_ne same _ _).symm.trans known
                exact .inl ⟨peer, seq, elsewhere, member⟩
          | ok reaction =>
              rcases onDatagram_answered runtime sound decoded missed turned result with
                ⟨built, joined, delivered⟩
              have builds : server.Builds runtime ⟨data, addr, draw⟩
                  ((acks (server.peer addr draw).session frame).1 ++ reaction.frames) built :=
                ⟨frame, reaction, decoded, missed, by rw [turned, result], rfl, joined⟩
              rw [delivered]
              constructor
              · rintro other reply ⟨peer, seq, known, member⟩
                by_cases same : other = addr
                · subst same
                  rcases settle_known known with ⟨_, rfl⟩
                  rcases DedupWindow.mem_put member with old | new
                  · exact .inl (caches_of_peer old)
                  · cases new
                    exact .inr ⟨_, builds⟩
                · rw [peers_settle, Function.update_of_ne same] at known
                  exact .inl ⟨peer, seq, known, member⟩
              · intro sent member
                dsimp only at member
                split at member
                · rw [List.mem_singleton.mp member]
                  exact .inr ⟨_, builds⟩
                · cases member

omit [DecidableEq Addr] in
variable {runtime} in
theorem Built.append [DecidableEq Addr] {secret : Bytes} {dedupSize : Nat}
    {arrivals : List (Arrival Addr)} {frames : List Frame} {reply : Bytes}
    (built : Built runtime secret dedupSize arrivals frames reply) (later : List (Arrival Addr)) :
    Built runtime secret dedupSize (arrivals ++ later) frames reply := by
  rcases built with ⟨before, arrival, behind, server, rfl, reached, builds⟩
  exact ⟨before, arrival, behind ++ later, server, by simp, reached, builds⟩

/-- What the server keeps was built in the run. -/
theorem caches_built {secret : Bytes} {dedupSize : Nat} (arrivals : List (Arrival Addr))
    {server : UdpServer Addr}
    (reached : Execution.run (step runtime) (start secret dedupSize) arrivals = some server)
    {addr : Addr} {reply : Bytes} (caches : server.Caches addr reply) :
    ∃ frames, Built runtime secret dedupSize arrivals frames reply := by
  induction arrivals using List.reverseRecOn generalizing server addr reply with
  | nil =>
      cases reached
      rcases caches with ⟨peer, seq, known, member⟩
      cases known
  | append_singleton arrivals arrival ih =>
      rw [Execution.run_append] at reached
      rcases Option.bind_eq_some_iff.mp reached with ⟨before, front, last⟩
      have sound := (sound_of_run runtime front).1
      cases last
      rcases (onDatagram_origin runtime sound arrival).1 addr reply caches with old | new
      · rcases ih front old with ⟨frames, built⟩
        exact ⟨frames, built.append [arrival]⟩
      · rcases new with ⟨frames, builds⟩
        exact ⟨frames, arrivals, arrival, [], before, rfl, front, builds⟩

/-- Every datagram of a run was built in it, and is read as the frames it was
built from. -/
theorem sent_reads_back {secret : Bytes} {dedupSize : Nat} (arrivals : List (Arrival Addr))
    {server : UdpServer Addr}
    (reached : Execution.run (step runtime) (start secret dedupSize) arrivals = some server)
    (arrival : Arrival Addr) {sent : Bytes × Addr}
    (member : sent ∈ (server.onDatagram runtime arrival.data arrival.addr arrival.draw).sent) :
    ∃ frames, Built runtime secret dedupSize (arrivals ++ [arrival]) frames sent.1 ∧
      splitDatagram runtime.toDigests sent.1 secret = .ok frames := by
  have origin : ∃ frames, Built runtime secret dedupSize (arrivals ++ [arrival]) frames sent.1 := by
    have sound := (sound_of_run runtime reached).1
    rcases (onDatagram_origin runtime sound arrival).2 sent member with old | new
    · rcases caches_built runtime arrivals reached old with ⟨frames, built⟩
      exact ⟨frames, built.append [arrival]⟩
    · rcases new with ⟨frames, builds⟩
      exact ⟨frames, arrivals, arrival, [], server, rfl, reached, builds⟩
  rcases origin with ⟨frames, built⟩
  refine ⟨frames, built, ?_⟩
  rcases built with ⟨before, earlier, behind, builder, _, front, builds⟩
  rcases builds with ⟨frame, reaction, _, _, _, _, joined⟩
  rw [(sound_of_run runtime front).2.1] at joined
  exact splitDatagram_join runtime.toDigests joined

end UdpServer

/-- `split_datagram` accepts frames of the key back to back and nothing else,
reads them in one way, reads the server's datagrams as they were built, and
agrees with `decode`. -/
theorem splitDatagram_grammar {Addr : Type} [DecidableEq Addr] (runtime : Runtime)
    (secret : Bytes) :
    (forall data frames, splitDatagram runtime.toDigests data secret = .ok frames <->
        Spells runtime.toDigests secret frames data) ∧
      (forall data, (∃ error, splitDatagram runtime.toDigests data secret = .error error) <->
        ¬ ∃ frames, Spells runtime.toDigests secret frames data) ∧
      (forall data first second, Spells runtime.toDigests secret first data ->
        Spells runtime.toDigests secret second data -> first = second) ∧
      (forall dedupSize (arrivals : List (UdpServer.Arrival Addr)) server arrival sent,
        Execution.run (UdpServer.step runtime) (UdpServer.start secret dedupSize) arrivals =
            some server ->
          sent ∈ (server.onDatagram runtime arrival.data arrival.addr arrival.draw).sent ->
            ∃ frames, UdpServer.Built runtime secret dedupSize (arrivals ++ [arrival]) frames
                sent.1 ∧
              splitDatagram runtime.toDigests sent.1 secret = .ok frames) ∧
      forall data frame, decode runtime.toDigests data (some secret) = .ok frame <->
        splitDatagram runtime.toDigests data secret = .ok [frame] :=
  ⟨splitDatagram_ok_iff_spells runtime.toDigests secret,
    splitDatagram_error_iff runtime.toDigests secret,
    fun _ _ _ spelt other => spells_unique runtime.toDigests secret spelt other,
    fun _ arrivals _ arrival _ reached member =>
      UdpServer.sent_reads_back runtime arrivals reached arrival member,
    decode_iff_split_single runtime.toDigests secret⟩

end Wireline
