import SpeedTest.Program
import SpeedTest.Server.Service

/-!
The start of a server and its whole life, as programs over what they ask of the machine.

A server loads its credentials, if it is to serve over TLS, and then opens its ports one after the
other: first the one for WebSocket clients, so that the last one knows where to forward them. A
server that cannot open all of its ports closes those that it has opened.
-/

namespace SpeedTest.Server

/-- A loop that accepts clients, by the number that the machine gives it. -/
abbrev LoopId := Nat

/-- What a server asks of the machine. -/
inductive Request where
  /-- Load a certificate chain and a key. -/
  | load (certPath keyPath : String)
  /-- Find the address that a text stands for. -/
  | resolve (text : String)
  /-- Listen on an address. -/
  | bind (address : SocketAddress)
  /-- Start the accept loop of an address. -/
  | spawn (address : SocketAddress) (service : Service)
  /-- Abort an accept loop. -/
  | abort (loop : LoopId)
  /-- Start to offer metrics. -/
  | offerMetrics (port : Nat)
  /-- Wait until the shutdown signal stands at a request to stop, or nobody is left to set it. -/
  | awaitShutdown
  /-- Wait for the end of an accept loop. -/
  | awaitEnd (loop : LoopId)
  | note (entry : Log.Entry)

/-- The answers to a request. -/
abbrev Answer : Request → Type
  | .load _ _ => Except Failure Tls.Credentials
  | .resolve _ => Except IoError SocketAddress
  | .bind _ => Except IoError SocketAddress
  | .spawn _ _ => LoopId
  | .abort _ => Unit
  | .offerMetrics _ => Unit
  | .awaitShutdown => Unit
  | .awaitEnd _ => Unit
  | .note _ => Unit

/-- A part of a server's life. -/
abbrev Script (α : Type) := Program Request Answer α

/-- A port that has been opened: the address that it got, and its loop. -/
structure Port where
  address : SocketAddress
  loop : LoopId
deriving Repr, DecidableEq

/-- A server whose ports are all open. -/
structure Running where
  legacy : Port
  http : Port
  tls : Option Port
deriving Repr, DecidableEq

/-- The loops of a server, in the order in which they were started. -/
def Running.loops (r : Running) : List LoopId :=
  r.http.loop :: ((r.tls.map Port.loop).toList ++ [r.legacy.loop])

/-- Why there is no address to listen on. -/
def resolveFailure (text : String) (e : IoError) : Failure :=
  (Failure.ofIo e).during ("invalid listen address " ++ text)

/-- Why an address cannot be listened on. -/
def bindFailure (a : SocketAddress) (e : IoError) : Failure :=
  (Failure.ofIo e).during ("failed to listen on " ++ a.render)

def listeningEntry (a : SocketAddress) : Log.Entry :=
  Log.Source.listener.info ("Listening on " ++ a.render)

/-- Listen on the address that a text stands for. -/
def listen (text : String) : Script (Except Failure SocketAddress) :=
  .perform (.resolve text) fun
    | .error e => .done (.error (resolveFailure text e))
    | .ok a =>
      .perform (.bind a) fun
        | .error e => .done (.error (bindFailure a e))
        | .ok bound => .perform (.note (listeningEntry bound)) fun _ => .done (.ok bound)

/-- Open a port. -/
def openPort (text : String) (service : Service) : Script (Except Failure Port) :=
  (listen text).bind fun
    | .error e => .done (.error e)
    | .ok bound => .perform (.spawn bound service) fun loop => .done (.ok ⟨bound, loop⟩)

/-- Why there are no credentials. -/
def loadFailure (certPath : String) (e : Failure) : Failure :=
  e.during ("failed to load TLS material from " ++ certPath)

/-- Load the credentials of a server, if it needs any. -/
def loadFor (l : ListenConfig) (c : ServerConfig) :
    Script (Except Failure (Option (String × Tls.Credentials))) :=
  match l.tlsAddr with
  | none => .done (.ok none)
  | some text =>
    match c.tlsPaths with
    | .error e => .done (.error e)
    | .ok (cert, key) =>
      .perform (.load cert key) fun
        | .error e => .done (.error (loadFailure cert e))
        | .ok k => .done (.ok (some (text, k)))

/-- Open the port for WebSocket clients over TLS, if there is to be one. -/
def openTlsPort (c : ServerConfig) :
    Option (String × Tls.Credentials) → Script (Except Failure (Option Port))
  | none => .done (.ok none)
  | some (text, k) => (openPort text (.ofTls c k)).bind fun r => .done (r.map some)

/-- Abort loops, in order. -/
def abortAll {α : Type} (loops : List LoopId) (next : Script α) : Script α :=
  match loops with
  | [] => next
  | l :: rest => .perform (.abort l) fun _ => abortAll rest next

/-- Give a start up. -/
def giveUp (loops : List LoopId) (e : Failure) : Script (Except Failure Running) :=
  abortAll loops (.done (.error e))

/-- The entry for a server whose ports are all open. -/
def readyEntry (r : Running) : Log.Entry :=
  Log.Source.server.info ("NDT legacy server on " ++ r.legacy.address.render ++ " (websocket "
    ++ r.http.address.render
    ++ (match r.tls with
      | none => ""
      | some p => ", tls " ++ p.address.render)
    ++ ")")

/-- Open all ports of a server that has its credentials. -/
def openPorts (l : ListenConfig) (c : ServerConfig) (k : Option (String × Tls.Credentials)) :
    Script (Except Failure Running) :=
  (openPort l.httpAddr (.ofHttp c)).bind fun
    | .error e => giveUp [] e
    | .ok http =>
      (openTlsPort c k).bind fun
        | .error e => giveUp [http.loop] e
        | .ok tls =>
          (openPort l.legacyAddr (.ofLegacy c http.address)).bind fun
            | .error e => giveUp (http.loop :: (tls.map Port.loop).toList) e
            | .ok legacy =>
              let r : Running := ⟨legacy, http, tls⟩
              .perform (.note (readyEntry r)) fun _ => .done (.ok r)

/-- Start a server. -/
def start (l : ListenConfig) (c : ServerConfig) : Script (Except Failure Running) :=
  (loadFor l c).bind fun
    | .error e => .done (.error e)
    | .ok k => openPorts l c k

/-- Wait for the ends of loops, in order. -/
def awaitAll {α : Type} (loops : List LoopId) (next : Script α) : Script α :=
  match loops with
  | [] => next
  | l :: rest => .perform (.awaitEnd l) fun _ => awaitAll rest next

def shutdownEntry : Log.Entry := Log.Source.server.info "Shutting down"

/-- Start to offer metrics, if there is a port for them. -/
def offerMetrics {α : Type} (port : Option Nat) (next : Script α) : Script α :=
  match port with
  | none => next
  | some n => .perform (.offerMetrics n) fun _ => next

/-- Serve until the shutdown signal is given, and then wait for the accept loops. -/
def run (l : ListenConfig) (c : ServerConfig) : Script (Except Failure Unit) :=
  offerMetrics l.prometheusPort <|
    (start l c).bind fun
      | .error e => .done (.error e)
      | .ok r =>
        .perform .awaitShutdown fun _ =>
          .perform (.note shutdownEntry) fun _ => awaitAll r.loops (.done (.ok ()))

end SpeedTest.Server
