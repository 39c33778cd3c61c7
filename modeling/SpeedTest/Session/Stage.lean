import SpeedTest.Session.Script
import SpeedTest.SubTest.Basic

/-!
Sessions with their tests on a control connection.

A session script leaves open what a test does. On a stage every test has a course of its own, and
the whole becomes one program over calls to the connection, the log, the metrics and the world
outside. It runs against a connection and a world.
-/

namespace SpeedTest.Session

/-- What a staged session asks: the calls of tests, and entries into the metrics. -/
inductive Effect (X : Type) where
  | call (c : SubTest.Call X)
  | observe (label : String) (rate : Binary64)

/-- The answers to an effect. -/
abbrev Response {X : Type} (R : X → Type) : Effect X → Type
  | .call c => SubTest.Reply R c
  | .observe _ _ => Unit

variable {X : Type} {R : X → Type} {ξ α : Type}

/-- The two tests of a session. -/
structure Tests {X : Type} (R : X → Type) where
  upload : SubTest R
  download : SubTest R

def Tests.get (tests : Tests R) : Test → SubTest R
  | .upload => tests.upload
  | .download => tests.download

/-- The course of a test within a session. -/
def embed (course : SubTest.Course R α) : Program (Effect X) (Response R) α :=
  course.interpret fun c => .perform (.call c) .done

/-- What a session asks, in terms of the connection and the courses of the tests. -/
def perform (tests : Tests R) : (r : Request) → Program (Effect X) (Response R) (Answer r)
  | .read => .perform (.call .read) .done
  | .send kind text => .perform (.call (.write (.ofMessage kind (.ofText text)))) .done
  | .measure t => embed (tests.get t).course
  | .observe label rate => .perform (.observe label rate) .done
  | .note entry => .perform (.call (.note entry)) .done
  | .close => .perform (.call .close) .done

/-- A session with the given tests. -/
def staged (tests : Tests R) (script : Script α) : Program (Effect X) (Response R) α :=
  script.interpret (perform tests)

/-- A control connection and everything else that a session touches. -/
structure Surroundings (ξ : Type) where
  connection : Connection
  /-- The log, last entry first. -/
  log : List Log.Entry
  /-- The metrics, last entry first. -/
  observed : List (String × Binary64)
  outside : ξ

namespace Surroundings

def entries (s : Surroundings ξ) : List Log.Entry := s.log.reverse

def observations (s : Surroundings ξ) : List (String × Binary64) := s.observed.reverse

/-- Enter something into the log. -/
def note (e : Log.Entry) (s : Surroundings ξ) : Surroundings ξ := { s with log := e :: s.log }

/-- Run an operation on the connection. -/
def onConnection (x : Action Connection ProtocolError α) (s : Surroundings ξ) :
    Option (Except ProtocolError α) × Surroundings ξ :=
  match x s.connection with
  | (r, c) => (r.toExcept?, { s with connection := c })

/-- The entry for a link that its peer had closed. -/
def closedByPeerEntry : Log.Entry := Log.Source.connection.debug "websocket already closed by peer"

/-- Close the connection, and tell the log if the peer was faster. -/
def close (s : Surroundings ξ) :
    Option (Except ProtocolError Channel.Closing) × Surroundings ξ :=
  match s.onConnection Connection.close with
  | (some (.ok .closedByPeer), s') => (some (.ok .closedByPeer), s'.note closedByPeerEntry)
  | r => r

def status (s : Surroundings ξ) : SubTest.Status :=
  ⟨s.connection.isClosed, s.connection.transport, s.connection.peer⟩

end Surroundings

/-- Answer the calls of a test. `world` answers what is asked of the world outside. -/
def answerCall (world : Program.Answering X R ξ) :
    Program.Answering (SubTest.Call X) (SubTest.Reply R) (Surroundings ξ)
  | .read, s => s.onConnection Connection.read
  | .readInTime, s =>
    match s.onConnection Connection.read with
    | (r, s') => (some r, s')
  | .write f, s => s.onConnection (Connection.write f)
  | .close, s => s.close
  | .status, s => (some s.status, s)
  | .note e, s => (some (), s.note e)
  | .outside x, s =>
    match world x s.outside with
    | (r, o) => (r, { s with outside := o })

/-- Answer the effects of a staged session. -/
def answer (world : Program.Answering X R ξ) :
    Program.Answering (Effect X) (Response R) (Surroundings ξ)
  | .call c, s => answerCall world c s
  | .observe label rate, s => (some (), { s with observed := (label, rate) :: s.observed })

/-- Run a session on a connection. -/
def play (tests : Tests R) (world : Program.Answering X R ξ) (script : Script α)
    (s : Surroundings ξ) : Option α × Surroundings ξ :=
  (staged tests script).run (answer world) s

/-- Run a session that closes its connection in the end. -/
def serveOn (tests : Tests R) (world : Program.Answering X R ξ) (s : Surroundings ξ) :
    Option (Except SessionError SessionResult) × Surroundings ξ :=
  play tests world
    (serve (fun t => (tests.get t).name) s.connection.peer s.connection.transport) s

/-- Run a session and leave its connection open. -/
def runOn (tests : Tests R) (world : Program.Answering X R ξ) (s : Surroundings ξ) :
    Option (Except SessionError SessionResult) × Surroundings ξ :=
  play tests world (run fun t => (tests.get t).name) s

end SpeedTest.Session
