namespace Wireline

/-- Codes defined in section 6 of the protocol document. -/
inductive ErrorCode
  | errVersion
  | errMagic
  | errLength
  | errCrc
  | errAuth
  | errType
  | errState
  | errSeq
  | errFlags
  | errTimeout
  | errInternal
deriving DecidableEq, Repr

namespace ErrorCode

/-- The integer that goes on the wire. -/
def value : ErrorCode -> Nat
  | errVersion => 1
  | errMagic => 2
  | errLength => 3
  | errCrc => 4
  | errAuth => 5
  | errType => 6
  | errState => 7
  | errSeq => 8
  | errFlags => 9
  | errTimeout => 10
  | errInternal => 99

def name : ErrorCode -> String
  | errVersion => "ERR_VERSION"
  | errMagic => "ERR_MAGIC"
  | errLength => "ERR_LENGTH"
  | errCrc => "ERR_CRC"
  | errAuth => "ERR_AUTH"
  | errType => "ERR_TYPE"
  | errState => "ERR_STATE"
  | errSeq => "ERR_SEQ"
  | errFlags => "ERR_FLAGS"
  | errTimeout => "ERR_TIMEOUT"
  | errInternal => "ERR_INTERNAL"

def all : List ErrorCode :=
  [errVersion, errMagic, errLength, errCrc, errAuth, errType, errState, errSeq, errFlags,
    errTimeout, errInternal]

/-- `ErrorCode(raw)`: the member with this value, or `none` for the
`ValueError` the enumeration raises. -/
def ofValue (raw : Int) : Option ErrorCode :=
  all.find? (fun code => (code.value : Int) == raw)

@[simp] theorem ofValue_value (code : ErrorCode) : ofValue code.value = some code := by
  cases code <;> rfl

end ErrorCode

/-- A frame or a transition violates the specification. -/
structure ProtocolError where
  code : ErrorCode
  message : String
deriving DecidableEq, Repr

/-- Everything a modelled call can raise.  `ProtocolError` is the only one
that the session and the datagram layer handle; the others pass through. -/
inductive PyError
  | protocolError (error : ProtocolError)
  | valueError (text : String)
  | recursionError
  | indexError
  | incompleteReadError
  | timeoutError
deriving DecidableEq, Repr

end Wireline
