import SpeedTest.IoError
import SpeedTest.Http.Head
import SpeedTest.Http.Target

/-! Why a WebSocket handshake or a WebSocket connection fails. -/

namespace SpeedTest.WebSocket

/-- A breach of the WebSocket protocol. -/
inductive Breach where
  | wrongMethod
  | wrongHttpVersion
  | missingConnectionUpgrade
  | missingUpgrade
  | missingVersion
  | missingKey
  | junkAfterRequest
  | handshakeIncomplete
  | head (fault : Http.HeadFault)
  | sendAfterClosing
  | receivedAfterClosing
  | reservedBits
  | unmaskedFrame
  | fragmentedControl
  | controlTooBig
  | invalidOpcode (code : Nat)
  | unexpectedContinuation
  | expectedFragment (kind : String)
  | resetWithoutClosing
  | invalidCloseSequence
deriving Repr, DecidableEq

def Breach.message : Breach → String
  | wrongMethod => "Unsupported HTTP method used - only GET is allowed"
  | wrongHttpVersion => "HTTP version must be 1.1 or higher"
  | missingConnectionUpgrade => "No \"Connection: upgrade\" header"
  | missingUpgrade => "No \"Upgrade: websocket\" header"
  | missingVersion => "No \"Sec-WebSocket-Version: 13\" header"
  | missingKey => "No \"Sec-WebSocket-Key\" header"
  | junkAfterRequest => "Junk after client request"
  | handshakeIncomplete => "Handshake not finished"
  | head fault => "httparse error: " ++ fault.message
  | sendAfterClosing => "Sending after closing is not allowed"
  | receivedAfterClosing => "Remote sent after having closed"
  | reservedBits => "Reserved bits are non-zero"
  | unmaskedFrame => "Received an unmasked frame from client"
  | fragmentedControl => "Fragmented control frame"
  | controlTooBig => "Control frame too big (payload must be 125 bytes or less)"
  | invalidOpcode code => "Encountered invalid opcode: " ++ toString code
  | unexpectedContinuation => "Continue frame but nothing to continue"
  | expectedFragment kind => "While waiting for more fragments received: " ++ kind
  | resetWithoutClosing => "Connection reset without closing handshake"
  | invalidCloseSequence => "Invalid close sequence"

/-- A limit of the WebSocket layer that was exceeded. -/
inductive Excess where
  | headers
  | longMessage (size limit : Nat)
deriving Repr, DecidableEq

def Excess.message : Excess → String
  | headers => "Too many headers"
  | longMessage size limit => "Message too long: " ++ toString size ++ " > " ++ toString limit

/-- Why a WebSocket operation fails. -/
inductive Error where
  | connectionClosed
  | alreadyClosed
  | io (cause : IoError)
  | invalidText
  | attack
  | excess (what : Excess)
  /-- The request was answered with this status. -/
  | refused (status : String)
  | target (fault : Http.TargetFault)
  | breach (what : Breach)
deriving Repr, DecidableEq

def Error.message : Error → String
  | connectionClosed => "Connection closed normally"
  | alreadyClosed => "Trying to work with closed connection"
  | io cause => "IO error: " ++ cause.message
  | invalidText => "UTF-8 encoding error"
  | attack => "Attack attempt detected"
  | excess what => "Space limit exceeded: " ++ what.message
  | refused status => "HTTP error: " ++ status
  | target fault => "HTTP format error: " ++ fault.message
  | breach what => "WebSocket protocol error: " ++ what.message

/-- The error's own message and, outermost first, those of the errors that caused it. -/
def Error.chain (e : Error) : List String :=
  e.message :: match e with
    | io cause => [cause.message]
    | excess what => [what.message]
    | target fault => [fault.message]
    | breach (.head fault) => [(Breach.head fault).message, fault.message]
    | breach what => [what.message]
    | _ => []

end SpeedTest.WebSocket
