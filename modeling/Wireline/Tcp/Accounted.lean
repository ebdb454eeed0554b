import Wireline.Tcp.Reconnect

namespace Wireline

open ExactReader

/-!
# What a client says to whatever it hears

Nothing is assumed about the octets that arrive.  A client still says its HELLO,
then a frame for each call, and then its BYE, with numbers that count up.  Every
result of a call stands for one frame of the stream, in the order of the stream,
and every frame but the last one that was said has been answered.
-/

/-- What was said for the first `asked` calls, what they returned and what
stopped them, and the frames that were taken for their answers. -/
structure Accounted (digests : Digests) (secret : Bytes) (last : Int) (seq : Nat)
    (methods : List Method) (stream : Bytes) (written : List Frame) (results : List CallResult)
    (stop : Option Interruption) (replies : List Frame) (asked : Nat) : Prop where
  read : ∃ data, join digests secret replies = .ok data ∧ data <+: stream
  increasing : (last :: replies.map Frame.seq).Pairwise (· < ·)
  returned : results = List.zipWith Method.result replies methods
  said : written = ((methods.take asked).zipIdx seq).map fun entry => entry.1.frame entry.2
  fits : forall method, method ∈ methods.take asked -> method.Fits
  within : asked ≤ methods.length
  answered : replies.length ≤ asked ∧ asked ≤ replies.length + 1
  complete : stop = none <-> replies.length = methods.length

section

variable (runtime : Runtime) {secret : Bytes}

/-- A read that returns has taken one frame from the front. -/
theorem recv_cases (client : WirelineClient) (cut : Cut) (stream : Bytes) :
    (∃ stop rest, client.recv runtime cut stream = (client, .error stop, rest)) ∨
      ∃ reply raw rest, encode runtime.toDigests reply client.secret = .ok raw ∧
        stream = raw ++ rest ∧ client.lastPeerSeq < reply.seq ∧
        client.recv runtime cut stream = ({ client with lastPeerSeq := reply.seq }, .ok reply, rest) := by
  rw [WirelineClient.recv]
  rcases read : (readFrame runtime.toDigests client.secret).run stream with ⟨ended, rest⟩
  cases ended with
  | incomplete => exact .inl ⟨_, _, rfl⟩
  | raised error => exact .inl ⟨_, _, rfl⟩
  | returned reply =>
      rcases (readFrame_implements runtime.toDigests client.secret).of_returned read with
        ⟨size, shown, rfl⟩
      have encoded := encode_of_nextFrame runtime.toDigests shown
      dsimp only
      rw [WirelineClient.receive]
      by_cases late : reply.seq ≤ client.lastPeerSeq
      · rw [if_pos late]
        exact .inl ⟨_, _, rfl⟩
      · rw [if_neg late]
        exact .inr ⟨reply, _, _, encoded, (List.take_append_drop size stream).symm,
          Int.lt_of_not_ge late, rfl⟩

/-- The calls, one after the other. -/
theorem perform_accounted {client : WirelineClient} {seq : Nat} (calling : Calling secret seq client)
    (cut : Cut) (stream : Bytes) {methods : List Method} (few : seq + methods.length ≤ maxSeq) :
    let talk := client.perform runtime cut stream methods
    ∃ replies asked,
      Accounted runtime.toDigests secret client.lastPeerSeq seq methods stream talk.written
        talk.results talk.stop replies asked ∧
      Calling secret (seq + min (replies.length + 1) methods.length) talk.client := by
  induction methods generalizing client seq stream with
  | nil =>
      refine ⟨[], 0, ⟨⟨[], rfl, List.nil_prefix⟩, List.pairwise_singleton _ _, rfl, rfl, List.forall_mem_nil _,
        Nat.le_refl 0, ⟨Nat.le_refl 0, Nat.zero_le 1⟩, iff_of_true rfl rfl⟩, ?_⟩
      exact calling
  | cons method methods ih =>
      rw [List.length_cons] at few
      have number : (seq + 1) &&& maxSeq = seq + 1 := masked_succ (by omega)
      by_cases fits : method.Fits
      · rcases Method.exists_encode_frame runtime.toDigests secret fits
          (show seq ≤ maxSeq by omega) with ⟨raw, encoded⟩
        have asking : Calling secret (seq + 1) { client with outSeq := (seq + 1) &&& maxSeq } :=
          ⟨calling.secret, calling.connected, calling.ready, number⟩
        rw [WirelineClient.perform, request_fit calling encoded]
        dsimp only
        rcases recv_cases runtime { client with outSeq := (seq + 1) &&& maxSeq } cut stream
          with ⟨stop, rest, failed⟩ | ⟨reply, own, rest, answers, rfl, fresh, received⟩
        · rw [failed]
          refine ⟨[], 1, ⟨⟨[], rfl, List.nil_prefix⟩, List.pairwise_singleton _ _, rfl, rfl, ?_,
            Nat.succ_le_succ (Nat.zero_le _), ⟨Nat.zero_le 1, Nat.le_refl 1⟩,
            iff_of_false (Option.some_ne_none _) (Nat.zero_ne_add_one _)⟩, ?_⟩
          · exact List.forall_mem_singleton.mpr fits
          · have counted : min (([] : List Frame).length + 1) (method :: methods).length = 1 := by
              rw [List.length_cons, List.length_nil]
              omega
            rw [counted]
            exact asking
        · rw [received]
          dsimp only
          have hearing : Calling secret (seq + 1)
              { client with outSeq := (seq + 1) &&& maxSeq, lastPeerSeq := reply.seq } :=
            ⟨calling.secret, calling.connected, calling.ready, number⟩
          rcases ih hearing rest (by omega) with ⟨replies, asked, accounted, counted⟩
          rcases accounted.read with ⟨data, joined, behind⟩
          dsimp only at answers fresh
          rw [calling.secret] at answers
          refine ⟨reply :: replies, asked + 1, ⟨⟨own ++ data, ?_, ?_⟩, ?_, ?_, ?_, ?_, ?_, ?_, ?_⟩, ?_⟩
          · rw [join, answers, joined]
            rfl
          · exact (List.prefix_append_right_inj own).mpr behind
          · have later := accounted.increasing
            rw [List.map_cons]
            refine List.pairwise_cons.mpr ⟨?_, later⟩
            intro seq member
            rcases List.mem_cons.mp member with rfl | inside
            · exact fresh
            · exact Int.lt_trans fresh ((List.pairwise_cons.mp later).1 seq inside)
          · exact congrArg _ accounted.returned
          · exact congrArg _ accounted.said
          · rw [List.take_succ_cons]
            exact List.forall_mem_cons.mpr ⟨fits, accounted.fits⟩
          · exact Nat.succ_le_succ accounted.within
          · have answered := accounted.answered
            rw [List.length_cons]
            omega
          · rw [accounted.complete, List.length_cons, List.length_cons, Nat.succ_inj]
          · have same : seq + min ((reply :: replies).length + 1) (method :: methods).length =
                seq + 1 + min (replies.length + 1) methods.length := by
              rw [List.length_cons, List.length_cons]
              omega
            rw [same]
            exact counted
      · rw [WirelineClient.perform, request_unfit calling fits (by omega)]
        refine ⟨[], 0, ⟨⟨[], rfl, List.nil_prefix⟩, List.pairwise_singleton _ _, rfl, rfl, List.forall_mem_nil _,
          Nat.zero_le _, ⟨Nat.le_refl 0, Nat.zero_le 1⟩,
          iff_of_false (Option.some_ne_none _) (Nat.zero_ne_add_one _)⟩, ?_⟩
        have counted : min (([] : List Frame).length + 1) (method :: methods).length = 1 := by
          rw [List.length_cons, List.length_nil]
          omega
        rw [counted]
        exact ⟨calling.secret, calling.connected, calling.ready, number⟩

theorem greeted_ok {client ready : WirelineClient} {reply : Frame}
    (welcome : client.greeted runtime reply = .ok ready) :
    reply.msgType = .helloAck ∧ ∃ sessionId nonce,
      decodeHelloAck runtime reply.payload = .ok (sessionId, nonce) ∧
        ready = { client with sessionId := some sessionId, state := .ready } := by
  rw [WirelineClient.greeted] at welcome
  split at welcome
  · cases decoded : decodeError runtime reply.payload <;> rw [decoded] at welcome <;> cases welcome
  · split at welcome
    · cases welcome
    · rename_i kind
      cases decoded : decodeHelloAck runtime reply.payload <;> rw [decoded] at welcome <;> cases welcome
      exact ⟨not_not.mp kind, _, _, rfl, rfl⟩

/-- A handshake fails, and the connection is left as it is; or it takes a
HELLO_ACK from the front of the stream. -/
theorem connect_cases {client : WirelineClient} (nonce : Nonce) (cut : Cut) (stream : Bytes)
    (short : (encodeHello client.clientId nonce.text).length ≤ maxPayload)
    (low : client.outSeq < maxSeq) :
    (∃ talk stop, client.connect runtime nonce cut stream = talk ∧ talk.stop = some stop ∧
        talk.written = [client.helloFrame nonce] ∧ talk.results = [] ∧
        talk.client.state = .handshake ∧ talk.client.connected = true) ∨
      ∃ ack raw rest sessionId peerNonce,
        encode runtime.toDigests ack client.secret = .ok raw ∧ stream = raw ++ rest ∧
        client.lastPeerSeq < ack.seq ∧ ack.msgType = .helloAck ∧
        decodeHelloAck runtime ack.payload = .ok (sessionId, peerNonce) ∧
        client.connect runtime nonce cut stream =
          { client := { client with
              connected := true, outSeq := client.outSeq + 1, lastPeerSeq := ack.seq,
              state := .ready, sessionId := some sessionId },
            written := [client.helloFrame nonce], rest := rest } := by
  have greets : Encodable (client.helloFrame nonce) := encodable_plain short (by omega)
  have number : (client.outSeq + 1) &&& maxSeq = client.outSeq + 1 := masked_succ low
  rcases exists_encode runtime.toDigests greets client.secret with ⟨data, encoded⟩
  rw [WirelineClient.connect, hello_encoded nonce encoded, number]
  dsimp only
  rcases recv_cases runtime { client with
      connected := true, outSeq := client.outSeq + 1, state := .handshake } cut stream with
    ⟨stop, rest, failed⟩ | ⟨ack, raw, rest, answers, rfl, fresh, received⟩
  · rw [failed]
    exact .inl ⟨_, _, rfl, rfl, rfl, rfl, rfl, rfl⟩
  · rw [received]
    dsimp only
    cases welcome : ({ client with
        connected := true, outSeq := client.outSeq + 1, lastPeerSeq := ack.seq,
        state := .handshake } : WirelineClient).greeted runtime ack with
    | error raised => exact .inl ⟨_, _, rfl, rfl, rfl, rfl, rfl, rfl⟩
    | ok ready =>
        rcases greeted_ok runtime welcome with ⟨kind, sessionId, peerNonce, decoded, rfl⟩
        exact .inr ⟨ack, raw, rest, sessionId, peerNonce, answers, rfl, fresh, kind, decoded, rfl⟩

/-- Whatever a client hears, its handshake fails and it says no more than its
HELLO; or a HELLO_ACK stands first in the stream, the results of its calls are
those of the frames that follow, its own frames are numbered without a gap up
to the last call, and it ends with a BYE. -/
theorem converse_accounted (client : WirelineClient) (nonce : Nonce) (cut : Cut) (stream : Bytes)
    (methods : List Method)
    (short : (encodeHello client.clientId nonce.text).length ≤ maxPayload)
    (few : client.outSeq + methods.length < maxSeq) :
    let talk := client.converse runtime nonce cut stream methods
    (talk.written = [client.helloFrame nonce] ∧ talk.results = [] ∧ talk.stop ≠ none ∧
        talk.client.state = .handshake ∧ talk.client.connected = true) ∨
      ∃ ack raw rest called replies asked,
        encode runtime.toDigests ack client.secret = .ok raw ∧ stream = raw ++ rest ∧
        client.lastPeerSeq < ack.seq ∧ ack.msgType = .helloAck ∧
        Accounted runtime.toDigests client.secret ack.seq (client.outSeq + 1) methods rest called
          talk.results talk.stop replies asked ∧
        talk.written = client.helloFrame nonce :: called ++
          [⟨.bye, (client.outSeq + 1 + min (replies.length + 1) methods.length : Nat), [], 0⟩] ∧
        talk.client.state = .closed ∧ talk.client.connected = false := by
  intro talk
  rcases connect_cases runtime nonce cut stream short (show client.outSeq < maxSeq by omega) with
    ⟨greeted, stop, connects, stopped, written, results, state, connected⟩ |
      ⟨ack, raw, rest, sessionId, peerNonce, encoded, rfl, fresh, kind, _, connects⟩
  · left
    have whole : talk = greeted := by
      change client.converse runtime nonce cut stream methods = greeted
      rw [WirelineClient.converse, connects]
      dsimp only
      rw [stopped]
    rw [whole]
    exact ⟨written, results, by rw [stopped]; exact Option.some_ne_none _, state, connected⟩
  · right
    let ready : WirelineClient := { client with
      connected := true, outSeq := client.outSeq + 1, lastPeerSeq := ack.seq, state := .ready,
      sessionId := some sessionId }
    have calling : Calling client.secret (client.outSeq + 1) ready := ⟨rfl, rfl, rfl, rfl⟩
    rcases perform_accounted runtime calling cut rest
      (show client.outSeq + 1 + methods.length ≤ maxSeq by omega) with
      ⟨replies, asked, accounted, counted⟩
    have low : (ready.perform runtime cut rest methods).client.outSeq ≤ maxSeq := by
      rw [counted.sending]
      omega
    have left := Talk.leave_ready runtime counted.ready counted.connected low
    rw [counted.sending] at left
    have whole : talk = { (ready.perform runtime cut rest methods).leave runtime with
        written := client.helloFrame nonce ::
          ((ready.perform runtime cut rest methods).leave runtime).written } := by
      change client.converse runtime nonce cut (raw ++ rest) methods = _
      rw [WirelineClient.converse, connects]
      rfl
    rw [whole, left]
    exact ⟨ack, raw, rest, _, replies, asked, encoded, rfl, fresh, kind, accounted, rfl, rfl, rfl⟩

end

/-- A peer that answers a PING and a DATA under numbers of its own. -/
theorem converse_accounted_answered : ∃ stream,
    let talk := (WirelineClient.init Reference.secret "client").converse Reference.runtime
      Reference.nonce .timeout stream [.ping [1], .sendData [2, 3]]
    talk.results = [.frame ⟨.pong, 5, [1], 0⟩, .payload [2, 3]] ∧
      talk.written = [(WirelineClient.init Reference.secret "client").helloFrame Reference.nonce,
        ⟨.ping, (1 : Nat), [1], 0⟩, ⟨.data, (2 : Nat), [2, 3], 0⟩, ⟨.bye, (3 : Nat), [], 0⟩] ∧
      talk.client.state = .closed := by
  set client := WirelineClient.init Reference.secret "client"
  let digests := Reference.runtime.toDigests
  have greets : Encodable (client.helloFrame Reference.nonce) :=
    encodable_plain Reference.hello_fits (by decide)
  have welcomes : Encodable (helloAckFrame Reference.sessionId Reference.nonce) := by decide
  have pongs : Encodable ⟨.pong, 5, [1], 0⟩ := by decide
  have echoes : Encodable ⟨.data, 7, [2, 3], 0⟩ := by decide
  rcases exists_encode digests greets Reference.secret with ⟨hello, greeted⟩
  rcases exists_encode digests welcomes Reference.secret with ⟨welcome, welcomed⟩
  rcases exists_encode digests pongs Reference.secret with ⟨pong, ponged⟩
  rcases exists_encode digests echoes Reference.secret with ⟨echo, echoed⟩
  have first : Encodable ((Method.ping [1]).frame 1) := by decide
  have second : Encodable ((Method.sendData [2, 3]).frame 2) := by decide
  rcases exists_encode digests first Reference.secret with ⟨ping, pinged⟩
  rcases exists_encode digests second Reference.secret with ⟨data, sent⟩
  have unheard : client.lastPeerSeq < 0 := by decide
  have counted : (1 + 1) &&& maxSeq = 2 := by decide
  have calling : Calling Reference.secret 1 (client.welcomed Reference.sessionId) :=
    ⟨rfl, rfl, rfl, by decide⟩
  have going : Calling Reference.secret 2 { client.welcomed Reference.sessionId with
      outSeq := (1 + 1) &&& maxSeq, lastPeerSeq := 5 } := ⟨rfl, rfl, rfl, counted⟩
  have news : (client.welcomed Reference.sessionId).lastPeerSeq < 5 ∧ (5 : Int) < 7 := by decide
  have heard := perform_heard .timeout calling pinged ponged news.1 [.sendData [2, 3]] (echo ++ [])
  have again := perform_heard .timeout going sent echoed news.2 [] []
  dsimp only at heard again
  rw [again] at heard
  have talk := converse_welcomed Reference.nonce Reference.nonce .timeout greeted welcomed unheard
    (pong ++ (echo ++ [])) [.ping [1], .sendData [2, 3]]
  dsimp only at talk
  rw [heard, Talk.leave_ready Reference.runtime rfl rfl (by decide)] at talk
  refine ⟨welcome ++ (pong ++ (echo ++ [])), ?_⟩
  have few : client.outSeq + [Method.ping [1], .sendData [2, 3]].length < maxSeq := by decide
  have accounted := converse_accounted Reference.runtime client Reference.nonce .timeout
    (welcome ++ (pong ++ (echo ++ []))) [.ping [1], .sendData [2, 3]] Reference.hello_fits few
  have results : (client.converse Reference.runtime Reference.nonce .timeout
      (welcome ++ (pong ++ (echo ++ []))) [.ping [1], .sendData [2, 3]]).results =
        [.frame ⟨.pong, 5, [1], 0⟩, .payload [2, 3]] := by
    rw [talk]
    rfl
  have stop : (client.converse Reference.runtime Reference.nonce .timeout
      (welcome ++ (pong ++ (echo ++ []))) [.ping [1], .sendData [2, 3]]).stop = none := by
    rw [talk]
    rfl
  dsimp only at accounted ⊢
  rcases accounted with ⟨_, _, raised, _⟩ |
    ⟨ack, raw, rest, called, replies, asked, _, _, _, _, accounted, written, closed, _⟩
  · exact absurd stop raised
  · have all := accounted.complete.mp stop
    have whole : asked = 2 := by
      have answered := accounted.answered
      have within := accounted.within
      change replies.length = 2 at all
      change asked ≤ 2 at within
      omega
    have said := accounted.said
    rw [whole] at said
    refine ⟨results, ?_, closed⟩
    rw [written, said, all]
    rfl

end Wireline
