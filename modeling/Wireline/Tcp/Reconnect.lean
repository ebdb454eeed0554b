import Wireline.Tcp.Dialogue

namespace Wireline

/-!
# A client that is connected again

`close` gives the connection up and keeps the rest of the client: its own
number, and the last number of the server.  The numbers of a new session start
at 0, which is not new for such a client.
-/

/-- What a client keeps of a connection. -/
structure Retained (before after : WirelineClient) : Prop where
  secret : after.secret = before.secret
  clientId : after.clientId = before.clientId
  outSeq : before.outSeq ≤ maxSeq -> after.outSeq ≤ maxSeq
  heard : 0 ≤ before.lastPeerSeq -> 0 ≤ after.lastPeerSeq

namespace Retained

theorem refl (client : WirelineClient) : Retained client client := ⟨rfl, rfl, id, id⟩

theorem trans {first second third : WirelineClient} (one : Retained first second)
    (other : Retained second third) : Retained first third :=
  ⟨other.secret.trans one.secret, other.clientId.trans one.clientId,
    fun range => other.outSeq (one.outSeq range), fun heard => other.heard (one.heard heard)⟩

variable (runtime : Runtime) (client : WirelineClient) (cut : Cut) (stream : Bytes)

theorem send (msgType : MsgType) (payload : Bytes) (flags : Int) :
    Retained client (client.send runtime msgType payload flags).1 := by
  rw [WirelineClient.send]
  split
  · exact refl client
  · exact ⟨rfl, rfl, fun _ => masked_le _, id⟩

theorem request (method : Method) :
    Retained client (client.request runtime method.msgType method.payload method.flags).1 := by
  rw [WirelineClient.request]
  split
  · exact refl client
  · exact send runtime client _ _ _

theorem hello (nonce : Nonce) : Retained client (client.hello runtime nonce).1 := by
  have sent := send runtime client .hello (encodeHello client.clientId nonce.text) 0
  rw [WirelineClient.hello]
  generalize client.send runtime .hello (encodeHello client.clientId nonce.text) 0 = asked at sent ⊢
  rcases asked with ⟨asking, raised | data⟩
  · exact sent
  · exact ⟨sent.secret, sent.clientId, sent.outSeq, sent.heard⟩

/-- A frame that has been received leaves its number. -/
theorem recv : Retained client (client.recv runtime cut stream).1 ∧
    forall frame, (client.recv runtime cut stream).2.1 = .ok frame ->
      0 ≤ (client.recv runtime cut stream).1.lastPeerSeq := by
  have failed (stop : Interruption) (frame : Frame)
      (impossible : (.error stop : Except Interruption Frame) = .ok frame) :
      0 ≤ client.lastPeerSeq := by
    cases impossible
  rw [WirelineClient.recv]
  rcases read : (readFrame runtime.toDigests client.secret).run stream with ⟨ended, rest⟩
  cases ended with
  | incomplete => exact ⟨refl client, failed _⟩
  | raised error => exact ⟨refl client, failed _⟩
  | returned frame =>
      have range := (WirelineServer.encodable_of_read runtime client.secret read).seq
      dsimp only
      rw [WirelineClient.receive]
      by_cases late : frame.seq ≤ client.lastPeerSeq
      · rw [if_pos late]
        exact ⟨refl client, failed _⟩
      · rw [if_neg late]
        exact ⟨⟨rfl, rfl, id, fun _ => range.1⟩, fun _ _ => range.1⟩

theorem perform (methods : List Method) :
    Retained client (client.perform runtime cut stream methods).client := by
  induction methods generalizing client stream with
  | nil => exact refl client
  | cons method methods ih =>
      have asked := request runtime client method
      rw [WirelineClient.perform]
      generalize client.request runtime method.msgType method.payload method.flags = sent at asked ⊢
      rcases sent with ⟨asking, raised | frame⟩
      · exact asked
      · have answered := (recv runtime asking cut stream).1
        dsimp only
        generalize asking.recv runtime cut stream = reply at answered ⊢
        rcases reply with ⟨hearing, stop | reply, rest⟩
        · exact asked.trans answered
        · exact (asked.trans answered).trans (ih hearing rest)

theorem leave (talk : Talk) : Retained talk.client (talk.leave runtime).client := by
  have closed : Retained talk.client (talk.client.close runtime).1 := by
    rw [WirelineClient.close]
    split
    · exact refl talk.client
    · split
      · have sent := send runtime talk.client .bye [] 0
        generalize talk.client.send runtime .bye [] 0 = asked at sent ⊢
        rcases asked with ⟨asking, raised | data⟩
        · exact sent
        · exact ⟨sent.secret, sent.clientId, sent.outSeq, sent.heard⟩
      · exact ⟨rfl, rfl, id, id⟩
  rw [Talk.leave]
  generalize talk.client.close runtime = result at closed ⊢
  rcases result with ⟨after, raised | (_ | bye)⟩ <;> exact closed

theorem greeted {reply : Frame} {ready : WirelineClient}
    (welcome : client.greeted runtime reply = .ok ready) : Retained client ready := by
  rw [WirelineClient.greeted] at welcome
  split at welcome
  · cases decoded : decodeError runtime reply.payload <;> rw [decoded] at welcome <;> cases welcome
  · split at welcome
    · cases welcome
    · cases decoded : decodeHelloAck runtime reply.payload <;> rw [decoded] at welcome <;> cases welcome
      exact ⟨rfl, rfl, id, id⟩

/-- A handshake that succeeds has received a frame. -/
theorem connect (nonce : Nonce) : Retained client (client.connect runtime nonce cut stream).client ∧
    ((client.connect runtime nonce cut stream).stop = none ->
      0 ≤ (client.connect runtime nonce cut stream).client.lastPeerSeq) := by
  have asked := hello runtime { client with connected := true } nonce
  rw [WirelineClient.connect]
  generalize ({ client with connected := true } : WirelineClient).hello runtime nonce = sent at asked ⊢
  have opened : Retained client sent.1 := ⟨asked.secret, asked.clientId, asked.outSeq, asked.heard⟩
  rcases sent with ⟨asking, raised | hello⟩
  · exact ⟨opened, fun impossible => absurd impossible (Option.some_ne_none _)⟩
  · have answered := recv runtime asking cut stream
    dsimp only
    generalize asking.recv runtime cut stream = reply at answered ⊢
    rcases reply with ⟨hearing, stop | reply, rest⟩
    · exact ⟨opened.trans answered.1, fun impossible => absurd impossible (Option.some_ne_none _)⟩
    · have heard := opened.trans answered.1
      have fresh := answered.2 reply rfl
      dsimp only
      cases welcome : hearing.greeted runtime reply with
      | error raised => exact ⟨heard, fun impossible => absurd impossible (Option.some_ne_none _)⟩
      | ok ready =>
          have last := greeted runtime hearing welcome
          exact ⟨heard.trans last, fun _ => last.heard fresh⟩

theorem converse (nonce : Nonce) (methods : List Method) :
    Retained client (client.converse runtime nonce cut stream methods).client ∧
      ((client.connect runtime nonce cut stream).stop = none ->
        0 ≤ (client.converse runtime nonce cut stream methods).client.lastPeerSeq) := by
  have greeted := connect runtime client cut stream nonce
  rw [WirelineClient.converse]
  dsimp only
  split
  · exact greeted
  · rename_i done
    have later := (perform runtime (client.connect runtime nonce cut stream).client cut
      (client.connect runtime nonce cut stream).rest methods).trans (leave runtime _)
    exact ⟨greeted.1.trans later, fun _ => later.heard (greeted.2 done)⟩

end Retained

/-- A client whose handshake has succeeded cannot be connected again, whatever
it did before it was closed.  A new server accepts its HELLO and answers it;
the client takes the answer for a replay and leaves the new session without a
word. -/
theorem reconnect_refused (runtime : Runtime) {client : WirelineClient} {nonce : Nonce} {cut : Cut}
    {stream : Bytes} (methods : List Method) (low : client.outSeq ≤ maxSeq)
    (passed : (client.connect runtime nonce cut stream).stop = none)
    (sessionId : SessionId) (again ackNonce : Nonce) (before later : Cut)
    (short : (encodeHello client.clientId again.text).length ≤ maxPayload) (calls : List Method) :
    let used := (client.converse runtime nonce cut stream methods).client
    ∃ up down,
      (forall other answer,
        Joined runtime client.secret used sessionId again ackNonce before later calls other answer <->
          other = up ∧ answer = down) ∧
      (used.converse runtime again before down calls).written = [used.helloFrame again] ∧
      (used.converse runtime again before down calls).results = [] ∧
      (used.converse runtime again before down calls).stop =
        some (.raised (.protocolError ⟨.errSeq, "replayed seq 0 from server"⟩)) ∧
      WirelineServer.handle runtime client.secret ackNonce { sessionId := sessionId } later up =
        ⟨[used.helloFrame again],
          [.dispatch (used.helloFrame again), .onHello (used.helloFrame again)],
          [helloAckFrame sessionId ackNonce]⟩ := by
  intro used
  have kept := Retained.converse runtime client cut stream nonce methods
  change Retained client used ∧ (_ -> 0 ≤ used.lastPeerSeq) at kept
  have heard := kept.2 passed
  have range := kept.1.outSeq low
  have sized : (encodeHello used.clientId again.text).length ≤ maxPayload := by
    rw [kept.1.clientId]
    exact short
  rw [← kept.1.secret]
  generalize used = used at heard range sized ⊢
  have greets : Encodable (used.helloFrame again) := by
    refine encodable_plain sized ?_
    omega
  have welcomes : Encodable (helloAckFrame sessionId ackNonce) :=
    encodable_plain (length_encodeHelloAck_le sessionId ackNonce) (by omega)
  rcases exists_encode runtime.toDigests greets used.secret with ⟨raw, encoded⟩
  rcases exists_encode runtime.toDigests welcomes used.secret with ⟨back, answered⟩
  have refused := converse_replayed again ackNonce before encoded answered heard
  have silent : WirelineServer.handle runtime used.secret ackNonce (used.welcomedBy sessionId again)
      later [] = {} :=
    WirelineServer.handle_incomplete runtime used.secret ackNonce (.inr rfl) later rfl
  refine ⟨raw ++ [], back ++ [], ?_, ?_⟩
  · apply joined_of_meets again ackNonce before later encoded answered fun rest =>
      { client := used, rest := rest }
    · intro rest
      rw [refused rest calls]
    · intro other answer
      constructor
      · rintro ⟨one, two⟩
        cases one
        rw [silent] at two
        cases two
        exact ⟨rfl, rfl⟩
      · rintro ⟨rfl, rfl⟩
        rw [silent]
        exact ⟨rfl, rfl⟩
  · rw [refused [] calls, handle_hello sessionId again ackNonce later used.secret encoded [], silent]
    exact ⟨rfl, rfl, rfl, rfl⟩

theorem reconnect_refused_init : ∃ stream down,
    (((WirelineClient.init Reference.secret "client").converse Reference.runtime Reference.nonce
      .timeout stream []).client.converse Reference.runtime Reference.nonce .timeout down []).stop =
        some (.raised (.protocolError ⟨.errSeq, "replayed seq 0 from server"⟩)) := by
  let client := WirelineClient.init Reference.secret "client"
  have greets : Encodable (client.helloFrame Reference.nonce) :=
    encodable_plain Reference.hello_fits (by decide)
  have welcomes : Encodable (helloAckFrame Reference.sessionId Reference.nonce) :=
    encodable_plain (length_encodeHelloAck_le Reference.sessionId Reference.nonce) (by decide)
  rcases exists_encode Reference.runtime.toDigests greets client.secret with ⟨raw, encoded⟩
  rcases exists_encode Reference.runtime.toDigests welcomes client.secret with ⟨back, answered⟩
  have low : client.outSeq ≤ maxSeq := Nat.zero_le maxSeq
  have unheard : client.lastPeerSeq < 0 := show (-1 : Int) < 0 by decide
  have passed : (client.connect Reference.runtime Reference.nonce .timeout (back ++ [])).stop = none := by
    rw [connect_welcomed Reference.nonce Reference.nonce .timeout encoded answered unheard]
  rcases reconnect_refused Reference.runtime [] low passed Reference.sessionId Reference.nonce
    Reference.nonce .timeout .timeout Reference.hello_fits [] with ⟨_, down, _, _, _, stop, _⟩
  exact ⟨back ++ [], down, stop⟩

end Wireline
