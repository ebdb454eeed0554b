import Wireline.Protocol.Text
import Wireline.Protocol.Errors
import Wireline.Library.Json
import Wireline.Sniff.Pcap

namespace Wireline

/-!
# What the command line makes of a failure

`main` turns an expected failure into one line on standard error and exit code
1; anything else keeps its traceback.  In front of it stand the lines of the
log, which at the default level are the warnings.
-/

/-- The options that every command has, as far as the commands and
`describe_failure` read them. -/
structure CommonArgs where
  host : String := "127.0.0.1"
  port : Int := 9000
  secret : Option String := none

/-- The development secret. -/
def devSecret : Bytes := Json.utf8 "dev-secret-not-for-real-use".toList

/-- The value of an option or a variable.  An empty one counts as missing. -/
def present : Option String -> Option String
  | some "" => none
  | other => other

/-- `load_secret`, with the variable of the environment: the secret, and the
warnings that it logs. -/
def loadSecret (explicit environment : Option String) : Bytes × List String :=
  match present explicit, present environment with
  | some value, _ => (Json.utf8 value.toList, [])
  | none, some value => (Json.utf8 value.toList, [])
  | none, none =>
      (devSecret, ["WIRELINE_SECRET is not set, falling back to the development secret"])

/-- A warning of the `wireline` logger, in the format of `setup_logging`. -/
def warningLine (asctime message : String) : String := s!"{asctime} WARNING wireline {message}"

/-- The failures that `main` expects.  Of an `OSError` and an `EOFError` the
name of the class is kept. -/
inductive Failure
  | protocolError (error : ProtocolError)
  | pcapError (error : PcapError)
  | timeoutError (detail : String)
  | connectionRefusedError (detail : String)
  | osError (type detail : String)
  | eofError (type detail : String)
deriving DecidableEq, Repr

namespace Failure

/-- `type(exc).__name__`. -/
def typeName : Failure -> String
  | protocolError _ => "ProtocolError"
  | pcapError _ => "PcapError"
  | timeoutError _ => "TimeoutError"
  | connectionRefusedError _ => "ConnectionRefusedError"
  | osError type _ => type
  | eofError type _ => type

/-- `str(exc)`. -/
def detail : Failure -> String
  | protocolError error => s!"{error.code.name}: {error.message}"
  | pcapError error => error.message
  | timeoutError detail => detail
  | connectionRefusedError detail => detail
  | osError _ detail => detail
  | eofError _ detail => detail

end Failure

/-- One line for an expected failure: what happened and what to check first. -/
def describeFailure (failure : Failure) (args : CommonArgs) : String :=
  let detail := failure.detail
  let text := s!"wireline: {failure.typeName}" ++ if detail ≠ "" then s!": {detail}" else ""
  let address := s!"{args.host}:{args.port}"
  match failure with
  | .connectionRefusedError _ => s!"{text} - is a server listening on {address}?"
  | .timeoutError _ => s!"{text} - no reply from {address} in time"
  | .protocolError error =>
      if error.code = .errAuth then
        s!"{text} - do client and server use the same WIRELINE_SECRET?"
      else text
  | _ => text

/-- What a command leaves. -/
structure Exit where
  code : Nat
  stdout : List String := []
  stderr : List String := []
deriving DecidableEq, Repr

/-- The same behind some lines of the log. -/
def Exit.warned (warnings : List String) (exit : Exit) : Exit :=
  { exit with stderr := warnings ++ exit.stderr }

/-- `main` on an expected failure. -/
def failed (failure : Failure) (args : CommonArgs) : Exit :=
  { code := 1, stderr := [describeFailure failure args] }

end Wireline
