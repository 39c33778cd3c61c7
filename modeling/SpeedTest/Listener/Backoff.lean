/-!
The delays between failed attempts to accept a connection: five milliseconds, doubled with each
further failure up to a second, and five again after a success.
-/

namespace SpeedTest

/-- The delay, in milliseconds, after the next failure. -/
structure Backoff where
  next : Nat
deriving Repr, DecidableEq

namespace Backoff

def start : Nat := 5

def limit : Nat := 1000

def fresh : Backoff := ⟨start⟩

/-- The delay after a failure, and the state for the one after it. -/
def failed (b : Backoff) : Nat × Backoff := (b.next, ⟨min (2 * b.next) limit⟩)

/-- The state after a success. -/
def reset (_b : Backoff) : Backoff := fresh

/-- One attempt: a failure yields a delay, a success none. -/
inductive Attempt where
  | failure
  | success
deriving Repr, DecidableEq

/-- The outcomes of a sequence of attempts. -/
def delays (b : Backoff) : List Attempt → List (Option Nat)
  | [] => []
  | .failure :: rest => some b.failed.1 :: b.failed.2.delays rest
  | .success :: rest => none :: b.reset.delays rest

end Backoff

end SpeedTest
