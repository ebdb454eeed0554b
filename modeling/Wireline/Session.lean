import Wireline.Protocol.CodecBijection
import Wireline.Protocol.Messages

namespace Wireline

/-!
# Connection state machine, with no I/O in it

The session decides what to answer; the transport decides how to send it.
An event on a session is a function from the session before to a `Turn`: the
session after, what the call returned or raised, and which of the session's
own handlers ran.  A handler that raises part-way leaves the assignments it
has already made, so the session after is given in every case.

Fresh randomness is an argument: the identifier of a session is drawn when
the session is built, and the nonce of a HELLO_ACK when it is answered.
-/

/-- `uuid.uuid4().hex[:12]`. -/
structure SessionId where
  text : String
  length_text : text.length = 12
deriving DecidableEq, Repr

/-- `secrets.token_hex(16)`. -/
structure Nonce where
  text : String
  length_text : text.length = 32
deriving DecidableEq, Repr

inductive State
  | new
  | handshake
  | ready
  | closing
  | closed
deriving DecidableEq, Repr

def State.value : State -> String
  | new => "NEW"
  | handshake => "HANDSHAKE"
  | ready => "READY"
  | closing => "CLOSING"
  | closed => "CLOSED"

/-- What the transport must do after an event. -/
structure Reaction where
  frames : List Frame := []
  close : Bool := false
  reason : Option String := none
deriving DecidableEq, Repr

/-- One client connection as seen by the server. -/
structure ServerSession where
  sessionId : SessionId
  state : State := .new
  clientId : Option String := none
  peerNonce : Option String := none
  outSeq : Nat := 0
  lastPeerSeq : Int := -1
deriving DecidableEq, Repr

/-- A call of one of the session's handlers, with the frame it was given. -/
inductive Call
  | dispatch (frame : Frame)
  | onHello (frame : Frame)
  | onData (frame : Frame)
deriving DecidableEq, Repr

structure Turn where
  session : ServerSession
  result : Except PyError Reaction
  calls : List Call := []

namespace ServerSession

/-! ## Outbound helpers -/

def nextSeq (session : ServerSession) : Nat × ServerSession :=
  (session.outSeq, { session with outSeq := (session.outSeq + 1) &&& maxSeq })

def frame (session : ServerSession) (msgType : MsgType) (payload : Bytes := [])
    (flags : Int := 0) : Frame × ServerSession :=
  let (seq, session) := session.nextSeq
  (⟨msgType, seq, payload, flags⟩, session)

def error (session : ServerSession) (code : ErrorCode) (message : String) :
    Reaction × ServerSession :=
  let session := { session with state := .closed }
  let (reply, session) := session.frame .error (encodeError code message)
  (⟨[reply], true, some s!"{code.name}: {message}"⟩, session)

/-- An ACK for the peer's `peerSeq`, numbered in this side's own sequence. -/
def ack (session : ServerSession) (peerSeq : Int) : Frame × ServerSession :=
  session.frame .ack (encodeAck peerSeq)

/-! ## Events -/

section

variable (runtime : Runtime) (nonce : Nonce)

def onHello (session : ServerSession) (frame : Frame) : Turn :=
  match decodeHello runtime frame.payload with
  | .error raised => ⟨session, .error raised, [.onHello frame]⟩
  | .ok (clientId, peerNonce) =>
      let session := { session with clientId := clientId, peerNonce := peerNonce, state := .ready }
      let payload := encodeHelloAck session.sessionId.text nonce.text
      let (reply, session) := session.frame .helloAck payload
      ⟨session, .ok { frames := [reply] }, [.onHello frame]⟩

/-- The reference application: an echo service. -/
def onData (session : ServerSession) (frame : Frame) : Turn :=
  let (reply, session) := session.frame .data frame.payload
  ⟨session, .ok { frames := [reply] }, [.onData frame]⟩

/-- The reaction to a frame whose `seq` has been accepted. -/
def react (session : ServerSession) (frame : Frame) : Turn :=
  if session.state = .new then
    if frame.msgType ≠ .hello then
      ⟨session, raiseError .errState s!"{frame.msgType.name} is not allowed before the handshake",
        []⟩
    else session.onHello runtime nonce frame
  else
    match frame.msgType with
    | .hello => ⟨session, raiseError .errState "handshake already completed", []⟩
    | .helloAck => ⟨session, raiseError .errState "hello_ack is server to client", []⟩
    | .ping =>
        let (reply, session) := session.frame .pong frame.payload
        ⟨session, .ok { frames := [reply] }, []⟩
    | .pong => ⟨session, .ok {}, []⟩
    | .data => session.onData frame
    | .ack => ⟨session, .ok {}, []⟩
    | .bye =>
        let session := { session with state := .closed }
        let (reply, session) := session.frame .bye
        ⟨session, .ok ⟨[reply], true, some "peer said bye"⟩, []⟩
    | .error =>
        match decodeError runtime frame.payload with
        | .error raised => ⟨session, .error raised, []⟩
        | .ok (code, message) =>
            ⟨{ session with state := .closed },
              .ok ⟨[], true, some s!"peer reported {code.name}: {message}"⟩, []⟩

/-- `_dispatch`, recorded as a call. -/
def dispatch (session : ServerSession) (frame : Frame) : Turn :=
  let turn := session.react runtime nonce frame
  { turn with calls := .dispatch frame :: turn.calls }

/-- `except ProtocolError as exc: return self._error(exc.code, exc.message)`
around a handler.  Any other exception passes through. -/
def catchProtocolError (turn : Turn) : Turn :=
  match turn.result with
  | .error (.protocolError raised) =>
      let (reaction, session) := turn.session.error raised.code raised.message
      ⟨session, .ok reaction, turn.calls⟩
  | _ => turn

/-- Handle one decoded frame. -/
def onFrame (session : ServerSession) (frame : Frame) : Turn :=
  if session.state = .closing ∨ session.state = .closed then
    ⟨session, .ok ⟨[], true, some "frame after close"⟩, []⟩
  else if frame.seq ≤ session.lastPeerSeq then
    let (reaction, session) := session.error .errSeq
      s!"seq {frame.seq} not greater than last accepted {session.lastPeerSeq}"
    ⟨session, .ok reaction, []⟩
  else
    catchProtocolError ({ session with lastPeerSeq := frame.seq }.dispatch runtime nonce frame)

end

/-- The transport failed to decode.  The stream position is no longer
trusted. -/
def onProtocolError (session : ServerSession) (raised : ProtocolError) : Reaction × ServerSession :=
  session.error raised.code raised.message

/-- No frame within the idle window.  Close quietly, without an ERROR. -/
def onIdleTimeout (session : ServerSession) : Reaction × ServerSession :=
  (⟨[], true, some "idle timeout"⟩, { session with state := .closed })

end ServerSession
end Wireline
