import SpeedTest.Listener.AcceptLoop

/-!
A listener in memory: clients line up in front of its accept loop, which gets its turns until
nothing is left for it to do. While no file descriptors are free, every attempt to accept fails.
-/

namespace SpeedTest

/-- A loop and the clients in front of it. -/
structure Doorway where
  loop : AcceptLoop
  /-- The clients that wait to be accepted, in order. -/
  queue : List SocketAddress
  /-- Whether no file descriptor is free. -/
  starved : Bool
  /-- What the loop has done, in order. -/
  deeds : List AcceptLoop.Deed

namespace Doorway

/-- A socket that has just begun to listen. -/
def ofLoop (l : AcceptLoop) : Doorway := ⟨l, [], false, []⟩

/-- What the socket offers. -/
def offer (d : Doorway) : Offer :=
  match d.queue with
  | [] => .nobody
  | peer :: _ => if d.starved then .failure (.system .tooManyFiles) else .client peer

/-- Something happens to the loop. Whoever it accepts leaves the queue. -/
def happen (e : AcceptLoop.Event) (d : Doorway) : Doorway :=
  match d.loop.react e with
  | (deeds, loop) =>
    { d with
      loop := loop
      queue := d.queue.drop (deeds.countP fun
        | .accept _ => true
        | _ => false)
      deeds := d.deeds ++ deeds }

/-- Give the loop its turn. Nothing comes between its tries of the signal and of the socket. -/
def wake (d : Doorway) : Doorway :=
  let d' := d.happen (.turn d.offer)
  if d'.loop.phase = .trying then d'.happen (.turn d'.offer) else d'

/-- Wake the loop a number of times. -/
def turns (n : Nat) (d : Doorway) : Doorway :=
  match n with
  | 0 => d
  | n + 1 => d.wake.turns n

/-- Wake the loop as often as it can make use of: twice for each client or for a failure, once to
notice the signal, and twice to look at it and to wait again. -/
def settle (d : Doorway) : Doorway := d.turns (2 * d.queue.length + 3)

/-- Something happens to the loop, which then does what there is to do. -/
def after (e : AcceptLoop.Event) (d : Doorway) : Doorway := (d.happen e).settle

def isOpen (d : Doorway) : Bool := d.loop.phase != .ended

/-- A client comes. Where nobody listens any more it is turned away. -/
def arrive (peer : SocketAddress) (d : Doorway) : Doorway :=
  if d.isOpen then { d with queue := d.queue ++ [peer] }.settle else d

/-- How many clients were dispatched. -/
def dispatched (d : Doorway) : Nat :=
  d.deeds.countP fun
    | .dispatch _ => true
    | _ => false

/-- The file descriptors run out. -/
def starve (d : Doorway) : Doorway := { d with starved := true }

/-- File descriptors are free again, and the loop tries again after its pause. -/
def recover (d : Doorway) : Doorway := { d with starved := false }.after .expire

end Doorway

end SpeedTest
