import Wireline.Tcp.Dialogue
import Wireline.Transport.Corruption

namespace Wireline

/-!
# Ends with different keys

The server refuses the HELLO and signs its refusal with its own key.  The client
can check that no better than the server could check the HELLO.
-/

/-- Two MACs that differ are seen by the reader. -/
theorem run_readFrame_otherKey {digests : Digests} {frame : Frame} {secret raw key : Bytes}
    (encoded : encode digests frame secret = .ok raw)
    (distinct : sign digests (frameHeader digests frame).pack frame.payload key ≠
      sign digests (frameHeader digests frame).pack frame.payload secret) (later : Bytes) :
    ∃ rest, (readFrame digests key).run (raw ++ later) = (.raised macMismatch, rest) := by
  have shown := nextFrame_otherKey encoded key later
  rw [if_pos distinct] at shown
  exact ⟨_, Prod.ext ((readFrame_implements digests key).fail shown) rfl⟩

/-- The texts of a client that is refused for its key. -/
def KeyRefused (text : String) : Prop :=
  text = "hmac mismatch" ∨ text = "server rejected handshake: hmac mismatch"

/-- The client does not learn more from the refusal than that its key is
wrong, whether it believes it or not. -/
theorem converse_refused {runtime : Runtime} {client : WirelineClient} (nonce : Nonce) (cut : Cut)
    {raw back secret : Bytes}
    (encoded : encode runtime.toDigests (client.helloFrame nonce) client.secret = .ok raw)
    (answered : encode runtime.toDigests ⟨.error, 0, encodeError .errAuth "hmac mismatch", 0⟩ secret =
      .ok back) (unheard : client.lastPeerSeq < 0) (methods : List Method) :
    ∃ talk text, client.converse runtime nonce cut back methods = talk ∧ KeyRefused text ∧
      talk.written = [client.helloFrame nonce] ∧ talk.results = [] ∧
      talk.client.sessionId = client.sessionId ∧
      talk.stop = some (.raised (.protocolError ⟨.errAuth, text⟩)) := by
  let reply : Frame := ⟨.error, 0, encodeError .errAuth "hmac mismatch", 0⟩
  rw [WirelineClient.converse, WirelineClient.connect, hello_encoded nonce encoded]
  dsimp only
  rw [WirelineClient.recv]
  dsimp only
  by_cases same : sign runtime.toDigests (frameHeader runtime.toDigests reply).pack reply.payload
      client.secret = sign runtime.toDigests (frameHeader runtime.toDigests reply).pack reply.payload
        secret
  · have shown := nextFrame_otherKey answered client.secret []
    rw [if_neg (not_not.mpr same), List.append_nil] at shown
    have believed := (readFrame_implements runtime.toDigests client.secret).item shown
    rw [believed]
    dsimp only
    rw [WirelineClient.receive, if_neg (Int.not_le_of_gt unheard)]
    dsimp only
    rw [WirelineClient.greeted, if_pos rfl, decodeError_encodeError]
    exact ⟨_, _, rfl, .inr rfl, rfl, rfl, rfl, rfl⟩
  · rcases run_readFrame_otherKey answered same [] with ⟨rest, disbelieved⟩
    rw [List.append_nil] at disbelieved
    rw [disbelieved]
    exact ⟨_, _, rfl, .inl rfl, rfl, rfl, rfl, rfl⟩

/-- A server with another key accepts nothing of what the client says, and the
client says nothing but its HELLO. -/
theorem dialogue_otherKey (runtime : Runtime) {client : WirelineClient} {secret : Bytes}
    (sessionId : SessionId) (nonce ackNonce : Nonce) (cut later : Cut) (methods : List Method)
    (unheard : client.lastPeerSeq < 0) (low : client.outSeq ≤ maxSeq)
    (short : (encodeHello client.clientId nonce.text).length ≤ maxPayload)
    (distinct : sign runtime.toDigests
        (frameHeader runtime.toDigests (client.helloFrame nonce)).pack
        (client.helloFrame nonce).payload secret ≠
      sign runtime.toDigests (frameHeader runtime.toDigests (client.helloFrame nonce)).pack
        (client.helloFrame nonce).payload client.secret) :
    ∃ up down text,
      (forall other answer,
        Joined runtime secret client sessionId nonce ackNonce cut later methods other answer <->
          other = up ∧ answer = down) ∧ KeyRefused text ∧
      (client.converse runtime nonce cut down methods).written = [client.helloFrame nonce] ∧
      (client.converse runtime nonce cut down methods).results = [] ∧
      (client.converse runtime nonce cut down methods).client.sessionId = client.sessionId ∧
      (client.converse runtime nonce cut down methods).stop =
        some (.raised (.protocolError ⟨.errAuth, text⟩)) ∧
      WirelineServer.handle runtime secret ackNonce { sessionId := sessionId } later up =
        { written := [⟨.error, 0, encodeError .errAuth "hmac mismatch", 0⟩] } := by
  have greets : Encodable (client.helloFrame nonce) := encodable_plain short (by omega)
  have shortMessage : ShortText "hmac mismatch" := by decide
  have refuses : Encodable ⟨.error, 0, encodeError .errAuth "hmac mismatch", 0⟩ :=
    encodable_plain (length_encodeError_le .errAuth shortMessage) (by omega)
  rcases exists_encode runtime.toDigests greets client.secret with ⟨up, encoded⟩
  rcases exists_encode runtime.toDigests refuses secret with ⟨down, answered⟩
  have handled (rest : Bytes) :
      WirelineServer.handle runtime secret ackNonce { sessionId := sessionId } later (up ++ rest) =
        { written := [⟨.error, 0, encodeError .errAuth "hmac mismatch", 0⟩] } := by
    have live : ({ sessionId := sessionId } : ServerSession).Open := .inl rfl
    rcases run_readFrame_otherKey encoded distinct rest with ⟨left, read⟩
    rw [WirelineServer.handle_broken runtime secret ackNonce live later
      (ServerSession.inRange_init sessionId) read]
    rfl
  have handledAlone := handled []
  rw [List.append_nil] at handledAlone
  rcases converse_refused nonce cut encoded answered unheard methods with
    ⟨talk, text, same, refused, written, results, unnamed, stop⟩
  refine ⟨up, down, text, ?_, refused, ?_, ?_, ?_, ?_, handledAlone⟩
  · intro other answer
    constructor
    · rintro ⟨one, two⟩
      rcases converse_opens nonce cut encoded answer methods with ⟨words, opens⟩
      have first := one
      rw [opens] at first
      rcases join_cons runtime.toDigests first with ⟨own, rest, again, _, rfl⟩
      rw [encoded] at again
      cases again
      rw [handled rest, join_single runtime.toDigests answered] at two
      cases two
      rw [same, written, join_single runtime.toDigests encoded] at one
      exact ⟨(Except.ok.inj one).symm, rfl⟩
    · rintro ⟨rfl, rfl⟩
      refine ⟨?_, ?_⟩
      · rw [same, written, join_single runtime.toDigests encoded]
      · rw [handledAlone, join_single runtime.toDigests answered]
  · rw [same, written]
  · rw [same, results]
  · rw [same, unnamed]
  · rw [same, stop]

end Wireline
