import SpeedTest.Shutdown
import SpeedTest.IoError
import SpeedTest.Log
import SpeedTest.Duration
import SpeedTest.Net.Address
import SpeedTest.Listener.Backoff

/-!
The loop that accepts the clients of a listener until it is told to stop.

The loop looks at the shutdown signal, and then waits for the signal or for a client: each time it
is woken it tries the signal first, and where there is nothing to notice, the socket. Whoever is
accepted is dispatched at once. After a failure to accept the loop looks at the signal again, and if
it is to go on it pauses, which the signal cuts short. What happens around the loop may happen in
any order: a run is given by the list of its events. Those who set the signal run beside the loop,
so that every look at the signal and every try of the signal or of the socket is a turn of its own.
The signal may be set between any two of them, also when the loop has just tried it and is about to
try the socket.
-/

namespace SpeedTest

/-- What a listening socket has for whoever accepts. -/
inductive Offer where
  | nobody
  | client (peer : SocketAddress)
  | failure (cause : IoError)
deriving Repr, DecidableEq

namespace AcceptLoop

/-- Where a loop stands. -/
inductive Phase where
  /-- It is about to look at the signal. -/
  | looking
  /-- It waits for the signal or for a client, and tries the signal next. -/
  | waiting
  /-- It waits for the signal or for a client. It has found nothing to notice in the signal, and
  tries the socket next. -/
  | trying
  /-- It has failed to accept, and is about to look at the signal. -/
  | failing (cause : IoError)
  /-- It waits for the signal or for the end of a pause. -/
  | pausing
  /-- It is over. -/
  | ended
deriving Repr, DecidableEq

/-- What happens to a loop. -/
inductive Event where
  /-- The shutdown signal is set. -/
  | set (stop : Bool)
  /-- Nobody is left to set the shutdown signal. -/
  | release
  /-- The loop gets its turn, when the socket has this to offer. -/
  | turn (offer : Offer)
  /-- The time of a pause is over. -/
  | expire
deriving Repr, DecidableEq

/-- What a loop does. -/
inductive Deed where
  | accept (peer : SocketAddress)
  | dispatch (peer : SocketAddress)
  | pause (milliseconds : Nat)
  /-- Give the socket up. -/
  | close
  | note (entry : Log.Entry)
deriving Repr, DecidableEq

end AcceptLoop

/-- The loop of a listener. -/
structure AcceptLoop where
  address : SocketAddress
  phase : AcceptLoop.Phase
  shutdown : Shutdown
  backoff : Backoff
deriving Repr, DecidableEq

namespace AcceptLoop

/-- The loop of a socket that has just begun to listen. -/
def start (address : SocketAddress) (shutdown : Shutdown) : AcceptLoop :=
  ⟨address, .looking, shutdown, .fresh⟩

def acceptedEntry (peer address : SocketAddress) : Log.Entry :=
  Log.Source.listener.debug ("Accepted " ++ peer.render ++ " on " ++ address.render)

def failureEntry (address : SocketAddress) (cause : IoError) (delay : Nat) : Log.Entry :=
  Log.Source.listener.warn
    ("Failed to accept connection on " ++ address.render ++ ": " ++ cause.message
    ++ " (retrying in " ++ (Duration.ofMillis delay).describe ++ ")")

def closedEntry (address : SocketAddress) : Log.Entry :=
  Log.Source.listener.info ("Listener on " ++ address.render ++ " closed")

/-- End the loop. -/
def finish (l : AcceptLoop) : List Deed × AcceptLoop :=
  ([.close, .note (closedEntry l.address)], { l with phase := .ended })

/-- Look at the signal, and go on if it is no request to stop. -/
def look (l : AcceptLoop) : List Deed × AcceptLoop :=
  let l' := { l with shutdown := l.shutdown.seen, phase := .waiting }
  if l.shutdown.requested then l'.finish else ([], l')

/-- Notice the signal, or go on otherwise. -/
def heed (otherwise : AcceptLoop → List Deed × AcceptLoop) (l : AcceptLoop) :
    List Deed × AcceptLoop :=
  match l.shutdown.notice? with
  | some .set => ([], { l with shutdown := l.shutdown.seen, phase := .looking })
  | some .released => l.finish
  | none => otherwise l

/-- Take what the socket has to offer. A success makes up for the failures before it. The signal is
not looked at. -/
def take (offer : Offer) (l : AcceptLoop) : List Deed × AcceptLoop :=
  match offer with
  | .nobody => ([], { l with phase := .waiting })
  | .client peer =>
    ([.accept peer, .note (acceptedEntry peer l.address), .dispatch peer],
      { l with backoff := l.backoff.reset, phase := .looking })
  | .failure cause => ([], { l with phase := .failing cause })

/-- Pause behind a failure, if the signal is no request to stop. Looking at it here does not mark it
as seen. -/
def retry (cause : IoError) (l : AcceptLoop) : List Deed × AcceptLoop :=
  if l.shutdown.requested then l.finish
  else
    match l.backoff.failed with
    | (delay, backoff) =>
      ([.note (failureEntry l.address cause delay), .pause delay],
        { l with backoff := backoff, phase := .pausing })

/-- What a loop does in its turn. -/
def turn (offer : Offer) (l : AcceptLoop) : List Deed × AcceptLoop :=
  match l.phase with
  | .looking => l.look
  | .waiting => l.heed fun l => ([], { l with phase := .trying })
  | .trying => l.take offer
  | .failing cause => l.retry cause
  | .pausing => l.heed fun l => ([], l)
  | .ended => ([], l)

/-- What a loop does at an event. -/
def react (l : AcceptLoop) : Event → List Deed × AcceptLoop
  | .set stop => ([], { l with shutdown := l.shutdown.set stop })
  | .release => ([], { l with shutdown := l.shutdown.release })
  | .turn offer => l.turn offer
  | .expire => ([], if l.phase = .pausing then { l with phase := .looking } else l)

/-- What a loop does over a list of events. -/
def run (l : AcceptLoop) : List Event → List Deed × AcceptLoop
  | [] => ([], l)
  | e :: rest =>
    match l.react e with
    | (deeds, l') =>
      match l'.run rest with
      | (deeds', l'') => (deeds ++ deeds', l'')

/-- The log of what a loop does. -/
def entries (deeds : List Deed) : List Log.Entry :=
  deeds.filterMap fun
    | .note entry => some entry
    | _ => none

end AcceptLoop

end SpeedTest
