import SpeedTest.Shutdown
import SpeedTest.Listener.AcceptLoop
import SpeedTest.Error

/-!
The loop that accepts those who collect metrics.

It waits for the shutdown signal and for clients alike: where both are at hand, either may come
first. The signal ends the loop when it is noticed and stands at a request to stop, and not before.
A failure to accept ends the loop too.
-/

namespace SpeedTest.Metrics

/-- The address on which metrics are offered. -/
def address (port : Nat) : SocketAddress := ⟨.v4 [0, 0, 0, 0], port⟩

/-- The entry that says where the metrics are. -/
def availableEntry (port : Nat) : Log.Entry :=
  Log.Source.metrics.info
    ("Prometheus metrics available at http://" ++ (address port).render ++ "/metrics")

/-- The entry for metrics that cannot be offered. -/
def unavailableEntry (e : Failure) : Log.Entry :=
  Log.Source.server.error ("Prometheus metrics server error: " ++ e.headline)

/-- The loop that accepts the clients of the metrics. -/
structure Endpoint where
  shutdown : Shutdown
  /-- How the loop ended, if it has. -/
  result : Option (Except Failure Unit)

namespace Endpoint

/-- What happens to the loop. -/
inductive Event where
  /-- The shutdown signal is set. -/
  | set (stop : Bool)
  /-- Nobody is left to set the shutdown signal. -/
  | release
  /-- The loop gets its turn, when the socket has this to offer. `signalFirst` says what it tries
  first. -/
  | turn (signalFirst : Bool) (offer : Offer)
deriving Repr, DecidableEq

def start (shutdown : Shutdown) : Endpoint := ⟨shutdown, none⟩

def isOver (l : Endpoint) : Bool := l.result.isSome

/-- Notice the signal. -/
def heed (n : Shutdown.Notice) (l : Endpoint) : Endpoint :=
  match n with
  | .set =>
    { l with
      shutdown := l.shutdown.seen
      result := if l.shutdown.requested then some (.ok ()) else none }
  | .released => { l with result := some (.ok ()) }

/-- Take what the socket has to offer: the clients that are accepted, and the loop behind them. -/
def take (offer : Offer) (l : Endpoint) : List SocketAddress × Endpoint :=
  match offer with
  | .nobody => ([], l)
  | .client peer => ([peer], l)
  | .failure cause => ([], { l with result := some (.error (.ofIo cause)) })

/-- What the loop does in its turn. -/
def turn (signalFirst : Bool) (offer : Offer) (l : Endpoint) : List SocketAddress × Endpoint :=
  if l.isOver then ([], l)
  else
    match l.shutdown.notice? with
    | none => l.take offer
    | some n => if signalFirst || offer = .nobody then ([], l.heed n) else l.take offer

/-- The clients that are accepted at an event, and the loop behind it. -/
def react (l : Endpoint) : Event → List SocketAddress × Endpoint
  | .set stop => ([], { l with shutdown := l.shutdown.set stop })
  | .release => ([], { l with shutdown := l.shutdown.release })
  | .turn signalFirst offer => l.turn signalFirst offer

/-- The clients that are accepted over a list of events. -/
def run (l : Endpoint) : List Event → List SocketAddress × Endpoint
  | [] => ([], l)
  | e :: rest =>
    match l.react e with
    | (peers, l') =>
      match l'.run rest with
      | (peers', l'') => (peers ++ peers', l'')

end Endpoint

end SpeedTest.Metrics
