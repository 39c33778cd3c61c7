import SpeedTest.Listener.Doorway
import SpeedTest.Metrics.Endpoint
import SpeedTest.Server.Script

/-!
A machine in memory, on which servers run: its files, the addresses that are taken, the accept
loops, and what is going to happen to the shutdown signal.
-/

namespace SpeedTest

/-- Whether an IPv4 or IPv6 address stands for all interfaces. -/
def IpAddress.isAny : IpAddress → Bool
  | .v4 parts => parts.all (· == 0)
  | .v6 groups _ => groups.all (· == 0)

/-- Whether listening on one address keeps others from listening on the other one. All IPv6
interfaces take in all IPv4 interfaces. -/
def SocketAddress.clashes (a b : SocketAddress) : Bool :=
  a.port == b.port &&
    (a.ip == b.ip ||
      match a.ip, b.ip with
      | .v4 _, .v4 _ => a.ip.isAny || b.ip.isAny
      | .v6 _ _, .v6 _ _ => a.ip.isAny || b.ip.isAny
      | .v6 _ _, .v4 _ => a.ip.isAny
      | .v4 _, .v6 _ _ => b.ip.isAny)

namespace Server

/-- What happens around a server. -/
inductive Happening where
  /-- The shutdown signal is set. -/
  | set (stop : Bool)
  /-- Nobody is left to set the shutdown signal. -/
  | release
  /-- The operator interrupts the program, which sets the shutdown signal. -/
  | interrupt
deriving Repr, DecidableEq

def interruptEntry : Log.Entry := Log.Source.program.info "Received ctrl-c"

/-- What a loop comes to know of a happening. -/
def Happening.event : Happening → AcceptLoop.Event
  | .set stop => .set stop
  | .release => .release
  | .interrupt => .set true

/-- An accept loop on a machine. -/
structure Resident where
  loop : LoopId
  service : Service
  doorway : Doorway

/-- Let a resident move: what its loop tells the log meanwhile, and the resident behind it. -/
def Resident.advance (f : Doorway → Doorway) (r : Resident) : List Log.Entry × Resident :=
  let d := f { r.doorway with deeds := [] }
  (AcceptLoop.entries d.deeds, { r with doorway := { d with deeds := r.doorway.deeds ++ d.deeds } })

/-- A machine. -/
structure Host where
  files : Tls.Files
  /-- The addresses that somebody listens on. -/
  taken : List SocketAddress
  /-- The next port to give to those who do not care. -/
  freePort : Nat
  residents : List Resident
  /-- How many loops have been started. -/
  spawned : Nat
  /-- The shutdown signal. -/
  shutdown : Shutdown
  /-- What is going to happen, in order. -/
  future : List Happening
  /-- The log, last entry first. -/
  log : List Log.Entry

namespace Host

/-- A machine on which nothing runs yet. -/
def idle (files : Tls.Files) (requested : Bool) : Host :=
  ⟨files, [], 48517, [], 0, .watching requested, [], []⟩

/-- The log, in order. -/
def entries (h : Host) : List Log.Entry := h.log.reverse

def note (e : Log.Entry) (h : Host) : Host := { h with log := e :: h.log }

/-- Let all residents move, in order. -/
def advanceAll (f : Doorway → Doorway) (h : Host) : Host :=
  let moved := h.residents.map (Resident.advance f)
  { h with
    residents := moved.map Prod.snd
    log := (moved.flatMap Prod.fst).reverse ++ h.log }

/-- Give all loops their turns. -/
def settle (h : Host) : Host := h.advanceAll Doorway.settle

/-- Something happens. -/
def happen (x : Happening) (h : Host) : Host :=
  let shutdown := match x with
    | .set stop => h.shutdown.set stop
    | .release => h.shutdown.release
    | .interrupt => h.shutdown.set true
  let h := if x = .interrupt then h.note interruptEntry else h
  { h with shutdown := shutdown }.advanceAll (Doorway.after x.event)

/-- Whether the shutdown signal lets a server go on that waits for it. -/
def isReleased (h : Host) : Bool := h.shutdown.requested || !h.shutdown.held

/-- Let things happen until the shutdown signal is given. -/
def await (future : List Happening) (h : Host) : Option Unit × Host :=
  if h.isReleased then (some (), { h with future := future })
  else
    match future with
    | [] => (none, { h with future := [] })
    | x :: rest => await rest (h.happen x)

/-- Find the address that a text stands for. Where the text is no plain address, others get their
turns meanwhile. -/
def resolve (text : String) (h : Host) : Except IoError SocketAddress × Host :=
  let isPlain := (SocketAddress.parse? (SocketAddress.completed text)).isSome
  (SocketAddress.resolve text, if isPlain then h else h.settle)

/-- Listen on an address. Port zero stands for any port that is free. -/
def bind (a : SocketAddress) (h : Host) : Except IoError SocketAddress × Host :=
  let a' := if a.port = 0 then { a with port := h.freePort } else a
  if h.taken.any a'.clashes then (.error (.system .addressInUse), h)
  else
    (.ok a', { h with
      taken := a' :: h.taken
      freePort := if a.port = 0 then h.freePort + 1 else h.freePort })

/-- Start an accept loop. -/
def spawn (a : SocketAddress) (service : Service) (h : Host) : LoopId × Host :=
  (h.spawned, { h with
    residents := h.residents ++ [⟨h.spawned, service, .ofLoop (.start a h.shutdown)⟩]
    spawned := h.spawned + 1 })

/-- Abort a loop, which gives up its address without a word. -/
def abort (id : LoopId) (h : Host) : Host :=
  let gone := h.residents.filter (·.loop == id)
  { h with
    residents := h.residents.filter (·.loop != id)
    taken := h.taken.filter fun a => !gone.any (·.doorway.loop.address == a) }

/-- Offer metrics, or say why not. -/
def offerMetrics (port : Nat) (h : Host) : Host :=
  match h.bind (Metrics.address port) with
  | (.ok _, h') => h'.note (Metrics.availableEntry port)
  | (.error e, h') => h'.note (Metrics.unavailableEntry (.ofIo e))

/-- Whether a loop is over. -/
def isOver (id : LoopId) (h : Host) : Bool :=
  !h.residents.any fun r => r.loop == id && r.doorway.isOpen

/-- Answer what a server asks. -/
def answer : Program.Answering Request Answer Host
  | .load cert key, h => (some (Tls.load h.files cert key), h)
  | .resolve text, h =>
    match h.resolve text with
    | (r, h') => (some r, h')
  | .bind a, h =>
    match h.bind a with
    | (r, h') => (some r, h')
  | .spawn a service, h =>
    match h.spawn a service with
    | (id, h') => (some id, h')
  | .abort id, h => (some (), h.abort id)
  | .offerMetrics port, h => (some (), h.offerMetrics port)
  | .awaitShutdown, h => h.settle.await h.future
  | .awaitEnd id, h =>
    let h' := h.settle
    (if h'.isOver id then some () else none, h')
  | .note e, h => (some (), h.note e)

/-- Start a server. -/
def start (l : ListenConfig) (c : ServerConfig) (h : Host) :
    Option (Except Failure Running) × Host :=
  (Server.start l c).run answer h

/-- Run a server. -/
def run (l : ListenConfig) (c : ServerConfig) (h : Host) : Option (Except Failure Unit) × Host :=
  (Server.run l c).run answer h

end Host

end Server

end SpeedTest
