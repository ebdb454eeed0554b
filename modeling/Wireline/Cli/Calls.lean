import Wireline.Cli.Failures
import Wireline.Library.Utf8Replace
import Wireline.Sniff.Report
import Wireline.Tcp.OtherKey

namespace Wireline

open Json

/-!
# `wireline ping` and `wireline send`

A command is one connection.  What it prints follows from what its calls
returned, and its exit code from what stopped it.  Without a secret of its own
it warns first.
-/

inductive Command
  | ping (count : Int)
  | send (text : String)
deriving DecidableEq, Repr

/-- What `main` expects of the exceptions of a call.  `none` is a traceback. -/
def Interruption.failure : Interruption -> Option Failure
  | raised (.protocolError error) => some (.protocolError error)
  | raised .timeoutError => some (.timeoutError "")
  | raised .incompleteReadError => some (.eofError "IncompleteReadError" "")
  | incompleteRead got expected =>
      some (.eofError "IncompleteReadError"
        s!"{got} bytes read on a total of {expected} expected bytes")
  | connectionReset => some (.osError "ConnectionResetError" "[Errno 104] Connection reset by peer")
  | raised (.valueError _) => none
  | raised .recursionError => none
  | raised .indexError => none

/-- `f"pong {i + 1}/{count}  rtt={elapsed:.2f} ms"`. -/
def pongLine (count : Int) (elapsed : Nat -> ℚ) (i : Nat) : String :=
  s!"pong {i + 1}/{count}  rtt={fixedPoint 2 (elapsed i)} ms"

/-- `echo.decode("utf-8", errors="replace")`. -/
def echoText : CallResult -> Option String
  | .payload payload => some (String.ofList (decodeReplace payload.length payload))
  | .frame _ => none

namespace Command

def calls : Command -> List Method
  | ping count => List.replicate count.toNat (.ping (utf8 "probe".toList))
  | send text => [.sendData (utf8 text.toList)]

/-- What is printed on the way, given the times of the calls in
milliseconds. -/
def lines (elapsed : Nat -> ℚ) (talk : Talk) : Command -> List String
  | ping count =>
      (talk.client.sessionId.toList.map fun sessionId => s!"session {sessionId}") ++
        (List.range talk.results.length).map (pongLine count elapsed)
  | send _ => talk.results.filterMap echoText

/-- `main` for a command whose connection went like this. -/
def exit (args : CommonArgs) (elapsed : Nat -> ℚ) (talk : Talk) (command : Command) : Option Exit :=
  match talk.stop with
  | none => some { code := 0, stdout := command.lines elapsed talk }
  | some stop => stop.failure.map fun failure =>
      { failed failure args with stdout := command.lines elapsed talk }

/-- The client of a command. -/
def client (args : CommonArgs) (environment : Option String) : WirelineClient :=
  .init (loadSecret args.secret environment).1 "wireline-cli"

/-- The lines that are logged before the client connects. -/
def warnings (args : CommonArgs) (environment : Option String) (asctime : String) : List String :=
  (loadSecret args.secret environment).2.map (warningLine asctime)

/-- The whole command, on the octets that come from the server. -/
def run (runtime : Runtime) (args : CommonArgs) (environment : Option String) (asctime : String)
    (nonce : Nonce) (cut : Cut) (elapsed : Nat -> ℚ) (stream : Bytes) (command : Command) :
    Option Exit :=
  (command.exit args elapsed
    ((client args environment).converse runtime nonce cut stream command.calls)).map
      (Exit.warned (warnings args environment asctime))

/-- What a user is to see. -/
def expected (sessionId : SessionId) (elapsed : Nat -> ℚ) : Command -> Exit
  | ping count =>
      { code := 0,
        stdout := s!"session {sessionId.text}" ::
          (List.range count.toNat).map (pongLine count elapsed) }
  | send text =>
      let size := (utf8 text.toList).length
      if size ≤ maxPayload then { code := 0, stdout := [text] }
      else
        { code := 1, stderr := [s!"wireline: ProtocolError: ERR_LENGTH: payload too large: {size}"] }

/-! ## A command and its server -/

theorem asks (command : Command) : forall method, method ∈ command.calls -> method.Asks := by
  intro method member
  cases command with
  | ping count =>
      rw [List.eq_of_mem_replicate member]
      exact ⟨.pong, rfl⟩
  | send text =>
      rw [List.mem_singleton.mp member]
      exact ⟨.data, rfl⟩

theorem hello_fits (nonce : Nonce) : (encodeHello "wireline-cli" nonce.text).length ≤ maxPayload := by
  have clientKey := length_quote_le "client_id"
  have nonceKey := length_quote_le "nonce"
  have clientText := length_quote_le "wireline-cli"
  have nonceText := length_quote_le nonce.text
  have clientKeyLength : "client_id".length = 9 := rfl
  have nonceKeyLength : "nonce".length = 5 := rfl
  have clientLength : "wireline-cli".length = 12 := rfl
  have nonceLength := nonce.length_text
  have chars : (dumps [("client_id", .str "wireline-cli"),
      ("nonce", .str nonce.text)]).length ≤ 1000 := by
    simp only [dumps, members, Scalar.text, List.length_cons, List.length_append,
      List.length_nil]
    omega
  have octets := length_utf8_le (dumps [("client_id", .str "wireline-cli"), ("nonce", .str nonce.text)])
  have large : maxPayload = 1048576 := by decide
  rw [large, encodeHello, dump]
  omega

/-- An echo is printed as the text that was sent. -/
theorem echoText_utf8 (text : String) : echoText (.payload (utf8 text.toList)) = some text := by
  have fewer : text.toList.length ≤ (utf8 text.toList).length := Reference.length_le_utf8 text.toList
  rw [echoText, decodeReplace_of_decodeUtf8 (decodeUtf8_utf8 fewer), String.ofList_toList]

theorem fits_plain {payload : Bytes} (small : payload.length ≤ maxPayload) :
    payload.length ≤ maxPayload ∧ unknownFlags 0 = 0 :=
  ⟨small, (unknownFlags_eq_zero_iff 0).mpr (by decide)⟩

/-- All the pings fit. -/
theorem madeCalls_ping (count : Nat) :
    madeCalls (List.replicate count (.ping (utf8 "probe".toList))) =
      List.replicate count (.ping (utf8 "probe".toList)) := by
  have fits : (Method.ping (utf8 "probe".toList)).Fits := fits_plain (by decide)
  rw [madeCalls, List.takeWhile_replicate, if_pos (decide_eq_true fits)]

/-- A connection that has gone as it should is shown as expected. -/
theorem exit_carried {args : CommonArgs} {elapsed : Nat -> ℚ} {command : Command}
    {client : WirelineClient} {sessionId : SessionId} {nonce ackNonce : Nonce} {talk : Talk}
    {conversation : Conversation}
    (carried : Carried client sessionId nonce ackNonce command.calls talk conversation) :
    command.exit args elapsed talk = some (command.expected sessionId elapsed) := by
  have results := carried.results
  rw [exit, carried.stop]
  cases command with
  | ping count =>
      have made := madeCalls_ping count.toNat
      rw [callResults, calls, made] at results
      have answered : talk.results.length = count.toNat := by
        rw [results, List.length_map, List.length_zipIdx, List.length_replicate]
      have satisfied : callRefusal (ping count).calls = none := by
        rw [callRefusal, Option.map_eq_none_iff, List.find?_eq_none]
        intro method member
        rw [List.eq_of_mem_replicate member]
        have fits : (Method.ping (utf8 "probe".toList)).Fits := fits_plain (by decide)
        simpa using fits
      rw [satisfied]
      dsimp only
      rw [lines, carried.named, answered]
      rfl
  | send text =>
      by_cases small : (utf8 text.toList).length ≤ maxPayload
      · have fits : (Method.sendData (utf8 text.toList)).Fits := fits_plain small
        rw [calls, callResults_fit 1 [] fits] at results
        rw [calls, callRefusal_fit [] fits, expected]
        dsimp only
        rw [if_pos small, lines, results]
        have echoed : echoText ((Method.sendData (utf8 text.toList)).result
          ((Method.sendData (utf8 text.toList)).reply 1)) = some text := echoText_utf8 text
        rw [List.filterMap_cons, echoed]
        rfl
      · have unfit : ¬ (Method.sendData (utf8 text.toList)).Fits := fun fits => small fits.1
        have refusal : (Method.sendData (utf8 text.toList)).refusal =
            ⟨.errLength, s!"payload too large: {(utf8 text.toList).length}"⟩ :=
          if_pos (Nat.lt_of_not_ge small)
        rw [callResults, calls, madeCalls_unfit [] unfit] at results
        rw [calls, callRefusal, List.find?_cons_of_pos (by simpa using unfit), expected]
        dsimp only [Option.map_some]
        rw [if_neg small, lines, results, refusal]
        rfl

/-- With the same key on both ends, `ping` prints one line for each ping and
`send` prints its text again; a text that is too long is reported and not sent.
The server has heard exactly this, and has answered the BYE at the end. -/
theorem run_served (runtime : Runtime) (args : CommonArgs) (environment : Option String)
    (asctime : String) (elapsed : Nat -> ℚ) (command : Command) (few : command.calls.length < maxSeq)
    (sessionId : SessionId) (nonce ackNonce : Nonce) (cut later : Cut) :
    let secret := (loadSecret args.secret environment).1
    ∃ up down,
      (forall other answer,
        Joined runtime secret (client args environment) sessionId nonce ackNonce cut later
          command.calls other answer <-> other = up ∧ answer = down) ∧
      command.run runtime args environment asctime nonce cut elapsed down =
        some ((command.expected sessionId elapsed).warned (warnings args environment asctime)) ∧
      (WirelineServer.handle runtime secret ackNonce { sessionId := sessionId } later up).inbound =
        (client args environment).helloFrame nonce :: requestFrames 1 command.calls ∧
      (WirelineServer.handle runtime secret ackNonce { sessionId := sessionId } later up).written =
        helloAckFrame sessionId ackNonce :: replyFrames 1 command.calls := by
  intro secret
  have unheard : (client args environment).lastPeerSeq < 0 := show (-1 : Int) < 0 by decide
  have counted : (client args environment).outSeq + command.calls.length < maxSeq := by
    rw [show (client args environment).outSeq = 0 from rfl, Nat.zero_add]
    exact few
  rcases dialogue runtime sessionId nonce ackNonce cut later unheard (hello_fits nonce) command.asks
    counted with ⟨up, down, only, carried⟩
  refine ⟨up, down, only, ?_, carried.inbound.trans carried.written, carried.answered⟩
  rw [run, exit_carried carried, Option.map_some]

/-- `wireline send --text hello`, with the development secret on both ends. -/
theorem run_served_hello : ∃ down,
    (send "hello").run Reference.runtime {} none "2024-03-01 12:00:00,000" Reference.nonce .timeout
        (fun _ => 0) down =
      some ⟨0, ["hello"], ["2024-03-01 12:00:00,000 WARNING wireline WIRELINE_SECRET is not set, falling back to the development secret"]⟩ := by
  have few : (send "hello").calls.length < maxSeq := by decide
  have small : (utf8 "hello".toList).length ≤ maxPayload := by decide
  rcases run_served Reference.runtime {} none "2024-03-01 12:00:00,000" (fun _ => 0) (send "hello") few
    Reference.sessionId Reference.nonce Reference.nonce .timeout .timeout with
    ⟨_, down, _, shown, _⟩
  refine ⟨down, ?_⟩
  rw [shown, expected, if_pos small]
  rfl

/-- With another key at the server, a command prints nothing but the hint at
the key, behind its own warning, and the server has accepted no frame. -/
theorem run_otherKey (runtime : Runtime) (args : CommonArgs) (environment : Option String)
    (asctime : String) (elapsed : Nat -> ℚ) (command : Command) (secret : Bytes) (sessionId : SessionId)
    (nonce ackNonce : Nonce) (cut later : Cut)
    (distinct : let hello := (client args environment).helloFrame nonce
      let header := (frameHeader runtime.toDigests hello).pack
      sign runtime.toDigests header hello.payload secret ≠
        sign runtime.toDigests header hello.payload (loadSecret args.secret environment).1) :
    ∃ up down text,
      (forall other answer,
        Joined runtime secret (client args environment) sessionId nonce ackNonce cut later
          command.calls other answer <-> other = up ∧ answer = down) ∧ KeyRefused text ∧
      command.run runtime args environment asctime nonce cut elapsed down = some ⟨1, [],
        warnings args environment asctime ++
          [s!"wireline: ProtocolError: ERR_AUTH: {text} - do client and server use the same WIRELINE_SECRET?"]⟩ ∧
      (WirelineServer.handle runtime secret ackNonce { sessionId := sessionId } later up).inbound = [] := by
  have unheard : (client args environment).lastPeerSeq < 0 := show (-1 : Int) < 0 by decide
  rcases dialogue_otherKey runtime sessionId nonce ackNonce cut later command.calls unheard
    (Nat.zero_le maxSeq) (hello_fits nonce) distinct with
    ⟨up, down, text, only, refused, _, results, unnamed, stop, handled⟩
  have nothing : (client args environment).sessionId = none := rfl
  rw [nothing] at unnamed
  refine ⟨up, down, text, only, refused, ?_, by rw [handled]⟩
  rw [run, exit, stop]
  have printed : command.lines elapsed
      ((client args environment).converse runtime nonce cut down command.calls) = [] := by
    cases command with
    | ping count =>
        rw [lines, unnamed, results]
        rfl
    | send text =>
        rw [lines, results]
        rfl
  rw [printed]
  rfl

set_option maxRecDepth 100000 in
/-- A server with the key `010203`, and a client with the development secret. -/
theorem run_otherKey_hello : ∃ down text, KeyRefused text ∧
    (send "hello").run Reference.runtime {} none "2024-03-01 12:00:00,000" Reference.nonce .timeout
        (fun _ => 0) down =
      some ⟨1, [],
        ["2024-03-01 12:00:00,000 WARNING wireline WIRELINE_SECRET is not set, falling back to the development secret",
          s!"wireline: ProtocolError: ERR_AUTH: {text} - do client and server use the same WIRELINE_SECRET?"]⟩ := by
  have distinct : sign Reference.runtime.toDigests
      (frameHeader Reference.runtime.toDigests ((client {} none).helloFrame Reference.nonce)).pack
      ((client {} none).helloFrame Reference.nonce).payload [1, 2, 3] ≠
    sign Reference.runtime.toDigests
      (frameHeader Reference.runtime.toDigests ((client {} none).helloFrame Reference.nonce)).pack
      ((client {} none).helloFrame Reference.nonce).payload (loadSecret none none).1 := by
    decide +kernel
  rcases run_otherKey Reference.runtime {} none "2024-03-01 12:00:00,000" (fun _ => 0) (send "hello")
    [1, 2, 3] Reference.sessionId Reference.nonce Reference.nonce .timeout .timeout distinct with
    ⟨_, down, text, _, refused, shown, _⟩
  exact ⟨down, text, refused, shown⟩

end Command
end Wireline
