import Wireline.Library.Json
import Wireline.Protocol.Codec

namespace Wireline

open Json

/-!
# Payloads of control messages

Control payloads are flat JSON objects.  Writing them is modelled in full.
Reading them rests on `json.loads`, whose grammar, limits and error texts are
the library's and not this protocol's, so it enters as a function with the
few laws that the protocol relies on: what was dumped loads back, and the
texts of its two handled errors are short, as they quote positions and not
the payload.
-/

/-- The ways `json.loads(payload.decode("utf-8"))` can fail.  The last two
are an integer literal beyond the digit limit and nesting beyond the
interpreter's limit; neither is a `JSONDecodeError`. -/
inductive LoadsError
  | unicodeDecodeError (text : String)
  | jsonDecodeError (text : String)
  | valueError (text : String)
  | recursionError
deriving DecidableEq, Repr

/-- An integer that the protocol puts on the wire fits 32 bits. -/
def WireScalar : Scalar -> Prop
  | .int value => 0 ≤ value ∧ value ≤ maxSeq
  | .str _ => True

/-- The library functions that a peer of the protocol calls.  `str` is
partial, because a nested object can exhaust the interpreter's stack. -/
structure Runtime extends Digests where
  loads : Bytes -> Except LoadsError Value
  str : Value -> Option String
  loads_dump : forall fields : List (String × Scalar), (fields.map Prod.fst).Nodup ->
    (forall field, field ∈ fields -> WireScalar field.2) ->
    loads (dump fields) = .ok (.dict (fields.map fun field => (field.1, field.2.toValue)))
  str_str : forall text, str (.str text) = some text
  unicodeDecodeError_short : forall payload text, payload.length ≤ maxPayload ->
    loads payload = .error (.unicodeDecodeError text) -> text.length < 1000
  jsonDecodeError_short : forall payload text, payload.length ≤ maxPayload ->
    loads payload = .error (.jsonDecodeError text) -> text.length < 1000

/-- `json.loads` fails with an exception that is neither a
`JSONDecodeError` nor a `UnicodeDecodeError`. -/
def Runtime.Unloadable (runtime : Runtime) (payload : Bytes) : Prop :=
  (∃ text, runtime.loads payload = .error (.valueError text)) ∨
    runtime.loads payload = .error .recursionError

/-- The text of an object's `message` exhausts the interpreter's stack. -/
def Runtime.Unprintable (runtime : Runtime) (payload : Bytes) : Prop :=
  ∃ fields, runtime.loads payload = .ok (.dict fields) ∧
    runtime.str ((fields.lookup "message").getD (.str "")) = none

/-- A runtime for which neither happens: `json.loads` returns a value or
raises one of the two expected errors, and `str` of what it has loaded
returns. -/
structure Runtime.Benign (runtime : Runtime) : Prop where
  loadable : forall payload, ¬ runtime.Unloadable payload
  printable : forall payload, ¬ runtime.Unprintable payload

/-- Raise a `ProtocolError`. -/
def raiseError {α : Type} (code : ErrorCode) (message : String) : Except PyError α :=
  .error (.protocolError ⟨code, message⟩)

/-- `isinstance(value, int)`, which a boolean satisfies as 0 or 1. -/
def asInt : Option Value -> Option Int
  | some (.int value) => some value
  | some (.bool value) => some (if value then 1 else 0)
  | _ => none

section

variable (runtime : Runtime)

def load (payload : Bytes) : Except PyError (List (String × Value)) :=
  match runtime.loads payload with
  | .error (.unicodeDecodeError text) => raiseError .errLength s!"malformed json payload: {text}"
  | .error (.jsonDecodeError text) => raiseError .errLength s!"malformed json payload: {text}"
  | .error (.valueError text) => .error (.valueError text)
  | .error .recursionError => .error .recursionError
  | .ok (.dict fields) => .ok fields
  | .ok _ => raiseError .errLength "control payload must be an object"

def encodeHello (clientId nonce : String) : Bytes :=
  dump [("client_id", .str clientId), ("nonce", .str nonce)]

def decodeHello (payload : Bytes) : Except PyError (String × String) := do
  let obj <- load runtime payload
  match obj.lookup "client_id", obj.lookup "nonce" with
  | some (.str clientId), some (.str nonce) => .ok (clientId, nonce)
  | _, _ => raiseError .errState "hello requires client_id and nonce"

def encodeHelloAck (sessionId nonce : String) : Bytes :=
  dump [("session_id", .str sessionId), ("nonce", .str nonce)]

def decodeHelloAck (payload : Bytes) : Except PyError (String × String) := do
  let obj <- load runtime payload
  match obj.lookup "session_id", obj.lookup "nonce" with
  | some (.str sessionId), some (.str nonce) => .ok (sessionId, nonce)
  | _, _ => raiseError .errState "hello_ack requires session_id and nonce"

def encodeError (code : ErrorCode) (message : String) : Bytes :=
  dump [("code", .int code.value), ("message", .str message)]

/-- `f"{raw}"` of the integer or boolean that was found under `code`. -/
def rawText : Option Value -> String
  | some (.int value) => toString value
  | some (.bool value) => if value then "True" else "False"
  | _ => ""

/-- The payload comes from the peer: a code outside the enumeration becomes
`errInternal`. -/
def decodeError (payload : Bytes) : Except PyError (ErrorCode × String) := do
  let obj <- load runtime payload
  match runtime.str ((obj.lookup "message").getD (.str "")) with
  | none => .error .recursionError
  | some message =>
      match asInt (obj.lookup "code") with
      | none => raiseError .errState "error requires an integer code"
      | some raw =>
          match ErrorCode.ofValue raw with
          | some code => .ok (code, message)
          | none =>
              let text := rawText (obj.lookup "code")
              .ok (.errInternal, s!"unknown error code {text}: {message}")

def encodeAck (ackSeq : Int) : Bytes := dump [("ack_seq", .int ackSeq)]

def decodeAck (payload : Bytes) : Except PyError Int := do
  let obj <- load runtime payload
  match asInt (obj.lookup "ack_seq") with
  | none => raiseError .errState "ack requires an integer ack_seq"
  | some ackSeq => .ok ackSeq

/-! ## Reading back what was written -/

theorem load_dump {fields : List (String × Scalar)} (unique : (fields.map Prod.fst).Nodup)
    (onWire : forall field, field ∈ fields -> WireScalar field.2) :
    load runtime (dump fields) = .ok (fields.map fun field => (field.1, field.2.toValue)) := by
  rw [load, runtime.loads_dump fields unique onWire]

theorem decodeHello_encodeHello (clientId nonce : String) :
    decodeHello runtime (encodeHello clientId nonce) = .ok (clientId, nonce) := by
  rw [decodeHello, encodeHello, load_dump runtime (by simp) (by simp [WireScalar])]
  rfl

theorem decodeHelloAck_encodeHelloAck (sessionId nonce : String) :
    decodeHelloAck runtime (encodeHelloAck sessionId nonce) = .ok (sessionId, nonce) := by
  rw [decodeHelloAck, encodeHelloAck, load_dump runtime (by simp) (by simp [WireScalar])]
  rfl

theorem decodeAck_encodeAck {ackSeq : Int} (range : 0 ≤ ackSeq ∧ ackSeq ≤ maxSeq) :
    decodeAck runtime (encodeAck ackSeq) = .ok ackSeq := by
  rw [decodeAck, encodeAck, load_dump runtime (by simp) (by simpa [WireScalar] using range)]
  rfl

theorem value_le_maxSeq (code : ErrorCode) : (0 : Int) ≤ code.value ∧ (code.value : Int) ≤ maxSeq := by
  cases code <;> decide

theorem decodeError_encodeError (code : ErrorCode) (message : String) :
    decodeError runtime (encodeError code message) = .ok (code, message) := by
  rw [decodeError, encodeError, load_dump runtime (by simp)
    (by simpa [WireScalar] using value_le_maxSeq code)]
  have found := ErrorCode.ofValue_value code
  simp only [bind, Except.bind, List.map_cons, List.map_nil, Scalar.toValue, List.lookup,
    String.reduceBEq, Option.getD_some, asInt, found, runtime.str_str]

/-! ## What a decoder objects to -/

theorem load_malformed {payload : Bytes} {error : ProtocolError}
    (malformed : load runtime payload = .error (.protocolError error)) :
    error.code = .errLength := by
  rw [load] at malformed
  cases loaded : runtime.loads payload with
  | error raised =>
      rw [loaded] at malformed
      cases raised <;> cases malformed <;> rfl
  | ok value =>
      rw [loaded] at malformed
      cases value <;> cases malformed <;> rfl

theorem decodeHello_malformed {payload : Bytes} {error : ProtocolError}
    (malformed : decodeHello runtime payload = .error (.protocolError error)) :
    load runtime payload = .error (.protocolError error) ∨
      error = ⟨.errState, "hello requires client_id and nonce"⟩ := by
  rw [decodeHello] at malformed
  cases loaded : load runtime payload with
  | error raised =>
      rw [loaded] at malformed
      cases malformed
      exact .inl rfl
  | ok fields =>
      rw [loaded] at malformed
      simp only [bind, Except.bind] at malformed
      split at malformed <;> cases malformed
      exact .inr rfl

theorem decodeError_malformed {payload : Bytes} {error : ProtocolError}
    (malformed : decodeError runtime payload = .error (.protocolError error)) :
    load runtime payload = .error (.protocolError error) ∨
      error = ⟨.errState, "error requires an integer code"⟩ := by
  rw [decodeError] at malformed
  cases loaded : load runtime payload with
  | error raised =>
      rw [loaded] at malformed
      cases malformed
      exact .inl rfl
  | ok fields =>
      rw [loaded] at malformed
      simp only [bind, Except.bind] at malformed
      cases printed : runtime.str ((fields.lookup "message").getD (.str "")) with
      | none =>
          rw [printed] at malformed
          cases malformed
      | some message =>
          rw [printed] at malformed
          cases read : asInt (fields.lookup "code") with
          | none =>
              rw [read] at malformed
              cases malformed
              exact .inr rfl
          | some raw =>
              rw [read] at malformed
              dsimp only at malformed
              split at malformed <;> cases malformed

/-! ## What a decoder lets through -/

/-- An exception that the session does not handle. -/
def PyError.Unhandled (raised : PyError) : Prop := forall error, raised ≠ .protocolError error

theorem load_unhandled_iff (payload : Bytes) :
    (∃ raised, load runtime payload = .error raised ∧ raised.Unhandled) <->
      runtime.Unloadable payload := by
  rw [load, Runtime.Unloadable]
  cases loaded : runtime.loads payload with
  | error failure => cases failure <;> simp [raiseError, PyError.Unhandled]
  | ok value => cases value <;> simp [raiseError, PyError.Unhandled]

/-- What a decoder does not handle comes from `json.loads` or from `str`. -/
theorem load_raises {payload : Bytes} {raised : PyError}
    (failed : load runtime payload = .error raised) :
    (∃ error, raised = .protocolError error) ∨ (∃ text, raised = .valueError text) ∨
      raised = .recursionError := by
  rw [load] at failed
  split at failed <;> cases failed
  · exact .inl ⟨_, rfl⟩
  · exact .inl ⟨_, rfl⟩
  · exact .inr (.inl ⟨_, rfl⟩)
  · exact .inr (.inr rfl)
  · exact .inl ⟨_, rfl⟩

theorem decodeAck_raises {payload : Bytes} {raised : PyError}
    (failed : decodeAck runtime payload = .error raised) :
    (∃ error, raised = .protocolError error) ∨ (∃ text, raised = .valueError text) ∨
      raised = .recursionError := by
  rw [decodeAck] at failed
  cases loaded : load runtime payload with
  | error other =>
      rw [loaded] at failed
      cases failed
      exact load_raises runtime loaded
  | ok fields =>
      rw [loaded] at failed
      simp only [bind, Except.bind] at failed
      split at failed <;> cases failed
      exact .inl ⟨_, rfl⟩

theorem decodeError_raises {payload : Bytes} {raised : PyError}
    (failed : decodeError runtime payload = .error raised) :
    (∃ error, raised = .protocolError error) ∨ (∃ text, raised = .valueError text) ∨
      raised = .recursionError := by
  rw [decodeError] at failed
  cases loaded : load runtime payload with
  | error other =>
      rw [loaded] at failed
      cases failed
      exact load_raises runtime loaded
  | ok fields =>
      rw [loaded] at failed
      simp only [bind, Except.bind] at failed
      split at failed
      · cases failed
        exact .inr (.inr rfl)
      · split at failed
        · cases failed
          exact .inl ⟨_, rfl⟩
        · split at failed <;> cases failed

theorem decodeHello_unhandled_iff (payload : Bytes) :
    (∃ raised, decodeHello runtime payload = .error raised ∧ raised.Unhandled) <->
      runtime.Unloadable payload := by
  rw [← load_unhandled_iff, decodeHello]
  cases loaded : load runtime payload with
  | error raised => simp [bind, Except.bind]
  | ok fields =>
      simp only [bind, Except.bind, reduceCtorEq, false_and, exists_false, iff_false]
      split <;> simp [raiseError, PyError.Unhandled]

/-- Only an object is loaded. -/
theorem load_ok_iff (payload : Bytes) (fields : List (String × Value)) :
    load runtime payload = .ok fields <-> runtime.loads payload = .ok (.dict fields) := by
  rw [load]
  cases loaded : runtime.loads payload with
  | error failure => cases failure <;> simp [raiseError]
  | ok value => cases value <;> simp [raiseError]

theorem decodeError_unhandled_iff (payload : Bytes) :
    (∃ raised, decodeError runtime payload = .error raised ∧ raised.Unhandled) <->
      runtime.Unloadable payload ∨ runtime.Unprintable payload := by
  have printed : runtime.Unprintable payload <-> ∃ fields, load runtime payload = .ok fields ∧
      runtime.str ((fields.lookup "message").getD (.str "")) = none := by
    simp only [Runtime.Unprintable, load_ok_iff]
  rw [← load_unhandled_iff, printed, decodeError]
  cases loaded : load runtime payload with
  | error raised => simp [bind, Except.bind]
  | ok fields =>
      cases text : runtime.str ((fields.lookup "message").getD (.str "")) with
      | none => simp [bind, Except.bind, text, PyError.Unhandled]
      | some message =>
          simp only [bind, Except.bind, text]
          cases raw : asInt (fields.lookup "code") with
          | none => simp [raiseError, PyError.Unhandled, text]
          | some code =>
              cases member : ErrorCode.ofValue code <;> simp [member, text]

end

/-- Different errors have different payloads, since both can be read back. -/
theorem encodeError_injective (runtime : Runtime) {code other : ErrorCode} {message text : String}
    (same : encodeError code message = encodeError other text) : code = other ∧ message = text := by
  have decoded := congrArg (decodeError runtime) same
  rw [decodeError_encodeError, decodeError_encodeError] at decoded
  exact Prod.mk.inj (Except.ok.inj decoded)

end Wireline
