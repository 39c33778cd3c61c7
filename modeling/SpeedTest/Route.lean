import SpeedTest.Session.Stage
import SpeedTest.Splice

/-!
One port for two kinds of clients. The first three bytes decide: a client that opens with `GET` is
joined to the server for WebSockets, any other gets the kickoff and a session on the raw stream.
Either way nothing that was looked at is lost.
-/

namespace SpeedTest

/-- Where a connection goes. -/
inductive Route where
  | http
  | legacy
deriving Repr, DecidableEq

namespace Route

/-- What an HTTP client sends first. -/
def httpLead : Bytes := Bytes.ofAscii "GET"

/-- How many bytes decide. -/
def leadLength : Nat := 3

/-- The route of a connection that opens with the given bytes, and no others if they are fewer than
three. -/
def ofLead (lead : Bytes) : Route := if lead = httpLead then .http else .legacy

/-- What a client on the raw stream is greeted with. -/
def kickoff : Bytes := Bytes.ofAscii "123456 654321"

/-- Look at the first bytes of a stream and decide. -/
def sniff : Action PeekStream IoError Route := do
  let lead ← PeekStream.peek leadLength
  return ofLead lead

/-- Greet a client. -/
def greet : Action PeekStream IoError Unit := do
  PeekStream.writeAll kickoff
  PeekStream.flush

/-- What has become of a connection. -/
inductive Disposal where
  /-- It was joined to the server for WebSockets. -/
  | proxied (splice : Splice.State)
  /-- It had a session. There is no result where the session waits for ever. -/
  | session (result : Option (Except SessionError SessionResult))
  /-- It was dropped before it went anywhere. -/
  | abandoned
  /-- Its first bytes never arrive. -/
  | waiting

/-- A connection that has been dealt with. -/
structure Handled (ξ : Type) where
  disposal : Disposal
  /-- The client's stream afterwards. -/
  client : Stream
  /-- The log, in order. -/
  log : List Log.Entry
  /-- The metrics, in order. -/
  observed : List (String × Binary64)
  outside : ξ

/-- How the server for WebSockets is reached. -/
structure Uplink where
  address : String
  dial : Except IoError Stream

/-- The entry for a connection whose first bytes could not be read. -/
def sniffEntry (peer : SocketAddress) (e : IoError) : Log.Entry :=
  Log.Source.routing.warn ("Could not handle connection from " ++ peer.render ++ ": " ++ e.message)

/-- The entry for a connection on its way to the server for WebSockets. -/
def forwardEntry (peer : SocketAddress) (target : String) : Log.Entry :=
  Log.Source.routing.debug ("Forwarding " ++ peer.render ++ " to " ++ target)

/-- Why a connection was not forwarded. -/
def dialFailure (target : String) (e : IoError) : Failure :=
  (Failure.ofIo e).during ("could not dial " ++ target)

def dialEntry (peer : SocketAddress) (target : String) (e : IoError) : Log.Entry :=
  Log.Source.routing.warn ("Could not forward connection from " ++ peer.render ++ ": "
    ++ (dialFailure target e).message)

/-- The entry for a client that could not be greeted. -/
def greetEntry (peer : SocketAddress) (e : IoError) : Log.Entry :=
  Log.Source.routing.warn
    ("Could not write " ++ toString kickoff.length ++ " byte kickoff string to "
    ++ peer.render ++ ": " ++ e.message)

/-- The log in front of a session: the only trace of a greeting that failed. -/
def greetingLog (peer : SocketAddress) : Outcome IoError Unit → List Log.Entry
  | .failed e => [greetEntry peer e]
  | _ => []

variable {X : Type} {R : X → Type} {ξ : Type}

/-- Join a client to the server for WebSockets. -/
def forward (uplink : Uplink) (peer : SocketAddress) (p : PeekStream) (outside : ξ) : Handled ξ :=
  let entry := forwardEntry peer uplink.address
  match uplink.dial with
  | .error e => ⟨.abandoned, p.inner, [entry, dialEntry peer uplink.address e], [], outside⟩
  | .ok target =>
    let s := Splice.run (Splice.start p target)
    ⟨.proxied s, s.client.inner, entry :: s.log.reverse, [], outside⟩

/-- Greet a client and run a session with it. A client that could not be greeted gets its session
all the same. -/
def converse (tests : Session.Tests R) (world : Program.Answering X R ξ) (peer : SocketAddress)
    (p : PeekStream) (outside : ξ) : Handled ξ :=
  let (greeting, p') := greet p
  let (result, s) := Session.serveOn tests world
    ⟨Connection.ofPeekStream p' (some peer), greetingLog peer greeting, [], outside⟩
  ⟨.session result, s.connection.stream, s.entries, s.observations, s.outside⟩

/-- Deal with a connection. -/
def handle (tests : Session.Tests R) (world : Program.Answering X R ξ) (uplink : Uplink)
    (peer : SocketAddress) (s : Stream) (outside : ξ) : Handled ξ :=
  match sniff (PeekStream.ofStream s) with
  | (.pending, p) => ⟨.waiting, p.inner, [], [], outside⟩
  | (.failed e, p) => ⟨.abandoned, p.inner, [sniffEntry peer e], [], outside⟩
  | (.done .http, p) => forward uplink peer p outside
  | (.done .legacy, p) => converse tests world peer p outside

end Route

end SpeedTest
