import Wireline.Tcp.Server

namespace Wireline

open ExactReader

/-!
# The stream client

One call sends one frame and then reads one frame, under a timeout.  The
client compares the number of a reply with the numbers of earlier replies,
and with nothing of its own request.  A timeout cancels the read: what the
cancelled read had taken from the stream is gone, and what it was waiting for
is left to the next call.
-/

structure WirelineClient where
  secret : Bytes
  clientId : String
  connected : Bool
  outSeq : Nat
  lastPeerSeq : Int
  state : State
  sessionId : Option String

namespace WirelineClient

/-- A client whose connection has just been opened. -/
def opened (secret : Bytes) (clientId : String) : WirelineClient :=
  ⟨secret, clientId, true, 0, -1, .new, none⟩

variable (runtime : Runtime)

/-- `_send`: the frame that takes the next number, and its octets. -/
def send (client : WirelineClient) (msgType : MsgType) (payload : Bytes) (flags : Int) :
    WirelineClient × Except PyError (Frame × Bytes) :=
  if client.connected = false then (client, raiseError .errState "client is not connected")
  else
    let frame : Frame := ⟨msgType, client.outSeq, payload, flags⟩
    ({ client with outSeq := (client.outSeq + 1) &&& maxSeq },
      match encode runtime.toDigests frame client.secret with
      | .error raised => .error (.protocolError raised)
      | .ok data => .ok (frame, data))

/-- `_recv`, once the reader has returned a frame. -/
def receive (client : WirelineClient) (frame : Frame) : WirelineClient × Except PyError Frame :=
  if frame.seq ≤ client.lastPeerSeq then
    (client, raiseError .errSeq s!"replayed seq {frame.seq} from server")
  else ({ client with lastPeerSeq := frame.seq }, .ok frame)

/-- `request` up to the read. -/
def request (client : WirelineClient) (msgType : MsgType) (payload : Bytes) (flags : Int) :
    WirelineClient × Except PyError (Frame × Bytes) :=
  if client.state ≠ .ready then
    (client, raiseError .errState s!"cannot send {msgType.name} in state {client.state.value}")
  else client.send runtime msgType payload flags

/-- `_handshake` up to the read. -/
def hello (client : WirelineClient) (nonce : Nonce) :
    WirelineClient × Except PyError (Frame × Bytes) :=
  match client.send runtime .hello (encodeHello client.clientId nonce.text) 0 with
  | (client, .error raised) => (client, .error raised)
  | (client, .ok sent) => ({ client with state := .handshake }, .ok sent)

/-- `_handshake` from the reply on. -/
def greeted (client : WirelineClient) (reply : Frame) : Except PyError WirelineClient :=
  if reply.msgType = .error then do
    let (code, message) <- decodeError runtime reply.payload
    raiseError code s!"server rejected handshake: {message}"
  else if reply.msgType ≠ .helloAck then
    raiseError .errState s!"expected HELLO_ACK, got {reply.msgType.name}"
  else do
    let (sessionId, _) <- decodeHelloAck runtime reply.payload
    .ok { client with sessionId := some sessionId, state := .ready }

/-- `close`: a ready client says BYE, and the connection is given up. -/
def close (client : WirelineClient) : WirelineClient × Except PyError (Option (Frame × Bytes)) :=
  if client.connected = false then (client, .ok none)
  else if client.state = .ready then
    match client.send runtime .bye [] 0 with
    | (client, .error raised) => (client, .error raised)
    | (client, .ok sent) => ({ client with connected := false, state := .closed }, .ok (some sent))
  else ({ client with connected := false, state := .closed }, .ok none)

end WirelineClient
end Wireline
