import SpeedTest.Server.Host

/-!
Visits in memory: what a client receives that connects to a port of a running server and sends
what is given beforehand.

A client that is forwarded talks to the service for WebSocket clients through a splice. What reaches
that service does not depend on what it answers, so that one passage finds out what it receives, and
a second one takes its answer back.
-/

namespace SpeedTest.Server

/-- The world of a session whose client opens no data channel. -/
def loneWorld (s : Service) : SubTest.Loopback := .ofClient s.config (.ok 0) none

/-- Deal with a client on a stream that is given beforehand. -/
def Service.meet (s : Service) (dial : Except IoError Stream) (peer : SocketAddress)
    (client : Stream) : Route.Handled SubTest.Loopback :=
  s.attend s.tests SubTest.Loopback.answer dial peer client (loneWorld s)

/-- Whether a client has been let go. -/
def isLetGo {ξ : Type} (h : Route.Handled ξ) : Bool :=
  match h.disposal with
  | .waiting => false
  | .session none => false
  | _ => true

/-- What comes back from a service on a stream that is given beforehand. -/
def reply {ξ : Type} (h : Route.Handled ξ) : Stream :=
  .ofArrivals [.chunk h.client.written] (if isLetGo h then .finished else .silent)

/-- A stream on which nothing ever comes. -/
def silence : Stream := .ofArrivals [] .silent

/-- What has passed through a splice to its target: the pieces in which it was written, and no end,
since neither side of a splice is shut down before both have ended. -/
def passage (s : Splice.State) : Stream :=
  .ofArrivals (s.target.sent.reverse.map .chunk) .silent

/-- Deal with a client whom the service may forward to the service `behind`. -/
def Service.meetThrough (s behind : Service) (peer : SocketAddress) (client : Stream) :
    Route.Handled SubTest.Loopback :=
  let first := s.meet (.ok silence) peer client
  match first.disposal with
  | .proxied splice =>
    let answer := reply (behind.meet (.ok silence) peer (passage splice))
    s.meet (.ok answer) peer client
  | _ => first

namespace Host

/-- The service that meets those who connect to an address. -/
def serviceAt? (a : SocketAddress) (h : Host) : Option Service :=
  (h.residents.find? fun r => r.doorway.isOpen && r.doorway.loop.address == a).map (·.service)

/-- Connect to an address. -/
def visit (a peer : SocketAddress) (client : Stream) (h : Host) :
    Except IoError (Route.Handled SubTest.Loopback) :=
  match h.serviceAt? a with
  | none => .error (.system .connectionRefused)
  | some (.sniffing c uplink) =>
    let s : Service := .sniffing c uplink
    match h.serviceAt? uplink with
    | none => .ok (s.meet (.error (.system .connectionRefused)) peer client)
    | some behind => .ok (s.meetThrough behind peer client)
  | some s => .ok (s.meet (.ok silence) peer client)

end Host

end SpeedTest.Server
