import SpeedTest.Program
import SpeedTest.Log
import SpeedTest.Connection
import SpeedTest.Session.Result

/-!
The course of a session, as a program over what it asks of its surroundings.

A session reads the login. If the client is welcome it announces the tests, has each of them run,
reports the rates and says goodbye. A test that fails leaves its rate at zero; a message that cannot
be sent ends the session.
-/

namespace SpeedTest.Session

/-- What a session asks of its surroundings. -/
inductive Request where
  /-- Read a frame. -/
  | read
  /-- Send a message. -/
  | send (kind : Kind) (text : String)
  /-- Run a test. -/
  | measure (t : Test)
  /-- Enter a rate, in megabits per second, into the metrics. -/
  | observe (label : String) (rate : Binary64)
  | note (entry : Log.Entry)
  /-- Close the connection. -/
  | close
deriving Repr, DecidableEq

/-- The answers to a request. -/
abbrev Answer : Request → Type
  | .read => Except ProtocolError Frame
  | .send _ _ => Except ProtocolError Unit
  | .measure _ => Except Failure Binary64
  | .observe _ _ => Unit
  | .note _ => Unit
  | .close => Except ProtocolError Channel.Closing

/-- A part of a session. -/
abbrev Script (α : Type) := Program Request Answer α

/-- The version that the server names. -/
def serverVersion : String := "v5.0-NDTinGO"

/-- The queue position of a client that is served at once. -/
def servedAtOnce : String := "0"

/-- The selection that a login frame makes, if the client supports what the session needs. -/
def screenLogin (f : Frame) : Except SessionError (String × Selection) := do
  let login ← (f.toMessage .extendedLogin).mapError SessionError.protocol
  let selection ← Selection.parse (login.tests.getD "")
  if selection.hasStatus then return (login.msg, selection)
  else throw (.rejected selection.bits)

/-- The messages in front of the tests. -/
def opening (plan : List Test) : List (Kind × String) :=
  [(.serverQueue, servedAtOnce), (.login, serverVersion), (.login, announcement plan)]

/-- The messages behind the tests. -/
def ending (r : SessionResult) : List (Kind × String) :=
  [(.results, r.summary), (.logout, "")]

/-- Send messages in order. The first failure is the result of the session. -/
def sendAll {α : Type} (messages : List (Kind × String))
    (next : Script (Except SessionError α)) : Script (Except SessionError α) :=
  match messages with
  | [] => next
  | (kind, text) :: rest =>
    .perform (.send kind text) fun
      | .ok () => sendAll rest next
      | .error e => .done (.error (.protocol e))

/-- A rate in megabits per second, from one in kilobits. -/
def toMegabits (rate : Binary64) : Binary64 := rate.div (.ofNat 1000)

/-- The entry for a test that failed. -/
def failureEntry (name : Test → String) (t : Test) (e : Failure) : Log.Entry :=
  Log.Source.session.warn (t.name ++ " test (" ++ name t ++ ") failed: " ++ e.message)

/-- Run tests in order. Those that succeed enter their rates. -/
def measureAll {α : Type} (name : Test → String) (r : SessionResult) (plan : List Test)
    (next : SessionResult → Script α) : Script α :=
  match plan with
  | [] => next r
  | t :: rest =>
    .perform (.measure t) fun
      | .ok rate =>
        .perform (.observe t.label (toMegabits rate)) fun _ =>
          measureAll name (r.record t rate) rest next
      | .error e =>
        .perform (.note (failureEntry name t e)) fun _ => measureAll name r rest next

/-- The entry for a client that has been admitted. -/
def admissionEntry (client : String) (s : Selection) : Log.Entry :=
  Log.Source.session.debug
    ("Client " ++ client ++ " requested tests=" ++ toString s.bits ++ " plan=["
    ++ announcement s.plan ++ "]")

/-- The entry for the rates of a session. -/
def resultEntry (r : SessionResult) : Log.Entry := Log.Source.session.info ("NDT: " ++ r.phrase)

/-- The course of a session with a client that has been admitted. -/
def runAdmitted (name : Test → String) (client : String) (s : Selection) :
    Script (Except SessionError SessionResult) :=
  .perform (.note (admissionEntry client s)) fun _ =>
    sendAll (opening s.plan)
      (measureAll name .empty s.plan fun r =>
        .perform (.note (resultEntry r)) fun _ => sendAll (ending r) (.done (.ok r)))

/-- The course of a session. Whoever runs it closes the connection. -/
def run (name : Test → String) : Script (Except SessionError SessionResult) :=
  .perform .read fun
    | .error e => .done (.error (.protocol e))
    | .ok f =>
      match screenLogin f with
      | .error e => .done (.error e)
      | .ok (client, s) => runAdmitted name client s

/-- How a peer is called in the log. -/
def peerName (peer : Option SocketAddress) : String :=
  (peer.map SocketAddress.render).getD "unknown"

/-- The entry for the outcome of a session. -/
def outcomeEntry (peer : Option SocketAddress) (transport : Transport) :
    Except SessionError SessionResult → Log.Entry
  | .ok _ =>
    Log.Source.session.debug
      ("Session with " ++ peerName peer ++ " (" ++ transport.name ++ ") complete")
  | .error (.rejected tests) =>
    Log.Source.session.info ("Rejected " ++ peerName peer ++ " (" ++ transport.name
      ++ "): no TestStatus support (tests=" ++ toString tests ++ ")")
  | .error e =>
    Log.Source.session.warn
      ("Session with " ++ peerName peer ++ " (" ++ transport.name ++ ") aborted: " ++ e.message)

/-- The entry for a connection that could not be closed. -/
def closingEntry (peer : Option SocketAddress) (e : ProtocolError) : Log.Entry :=
  Log.Source.session.debug ("Closing connection to " ++ peerName peer ++ ": " ++ e.message)

/-- Close the connection behind a session. What becomes of that does not change the outcome. -/
def finish (peer : Option SocketAddress) (transport : Transport)
    (outcome : Except SessionError SessionResult) : Script (Except SessionError SessionResult) :=
  .perform (.note (outcomeEntry peer transport outcome)) fun _ =>
    .perform .close fun
      | .ok _ => .done outcome
      | .error e => .perform (.note (closingEntry peer e)) fun _ => .done outcome

/-- Run a session, tell the log how it ended, and close the connection. -/
def serve (name : Test → String) (peer : Option SocketAddress) (transport : Transport) :
    Script (Except SessionError SessionResult) :=
  (run name).bind (finish peer transport)

end SpeedTest.Session
