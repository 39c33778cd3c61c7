import SpeedTest.Wire.Kind
import SpeedTest.Json.Error
import SpeedTest.WebSocket.Error
import SpeedTest.Number.Reader
import SpeedTest.Text.Quoted

/-!
The failures of a control connection and of a session, and chains of causes for failures that only
a person reads.
-/

namespace SpeedTest

/-- Why an operation on a control connection fails. -/
inductive ProtocolError where
  | io (cause : IoError)
  | webSocket (cause : WebSocket.Error)
  | json (cause : Json.Error)
  | unexpectedKind (expected actual : Kind)
  | unknownKind (byte : UInt8)
  | frameTooLarge (size : Nat)
  | lengthMismatch (declared actual : Nat)
  | notBinary
  | closed
deriving Repr, DecidableEq

namespace ProtocolError

def message : ProtocolError → String
  | io cause => "transport error: " ++ cause.message
  | webSocket cause => "websocket error: " ++ cause.message
  | json cause => "malformed JSON message: " ++ cause.message
  | unexpectedKind expected actual =>
    "expected " ++ expected.name ++ " message, got " ++ actual.name
  | unknownKind byte => "unknown message kind " ++ toString byte.toNat
  | frameTooLarge size =>
    "message body of " ++ toString size ++ " bytes exceeds the frame limit"
  | lengthMismatch declared actual =>
    "frame declares " ++ toString declared ++ " body bytes but carries " ++ toString actual
  | notBinary => "websocket peer sent a non-binary message"
  | closed => "connection closed"

/-- The error's own message and, outermost first, those of the errors that caused it. -/
def chain (e : ProtocolError) : List String :=
  e.message :: match e with
    | io cause => [cause.message]
    | webSocket cause => cause.chain
    | json cause => [cause.message]
    | _ => []

end ProtocolError

/-- Why a session ends before it has reported results. -/
inductive SessionError where
  | protocol (cause : ProtocolError)
  /-- The `tests` field is no number. -/
  | parse (field : String) (fault : IntegerFault)
  /-- The client did not offer the status capability. -/
  | rejected (tests : Int)
deriving Repr, DecidableEq

def SessionError.message : SessionError → String
  | protocol cause => cause.message
  | parse field fault =>
    "failed to parse tests field " ++ Text.quoted field ++ ": " ++ fault.message
  | rejected tests => "client does not support TestStatus (tests=" ++ toString tests ++ ")"

/-- A failure told to a person: what went wrong and, outermost first, what caused it. -/
structure Failure where
  causes : List String
deriving Repr, DecidableEq

namespace Failure

def ofMessage (text : String) : Failure := ⟨[text]⟩

def ofIo (e : IoError) : Failure := ⟨[e.message]⟩

def ofProtocol (e : ProtocolError) : Failure := ⟨e.chain⟩

/-- The same failure with what was being attempted put in front. -/
def during (context : String) (f : Failure) : Failure := ⟨context :: f.causes⟩

/-- What went wrong, without its causes. -/
def headline (f : Failure) : String := f.causes.headD ""

/-- The whole chain on one line. -/
def message (f : Failure) : String := ": ".intercalate f.causes

end Failure

end SpeedTest
