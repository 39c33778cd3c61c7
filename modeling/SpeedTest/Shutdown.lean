/-!
The shutdown signal, as one of the parties sees it that wait for it.

The signal is set as often as one likes, also to the value that it has. Whoever waits for it notices
that it was set since it last looked, however often, and that nobody is left to set it.
-/

namespace SpeedTest

/-- What one party knows of the shutdown signal. -/
structure Shutdown where
  /-- Whether the signal stands at a request to stop. -/
  requested : Bool
  /-- Whether the signal was set since this party last looked. -/
  unseen : Bool
  /-- Whether somebody is left who may set the signal. -/
  held : Bool
deriving Repr, DecidableEq

namespace Shutdown

/-- A signal that has not been set since this party came. -/
def watching (requested : Bool) : Shutdown := ⟨requested, false, true⟩

/-- The signal is set. -/
def set (value : Bool) (s : Shutdown) : Shutdown :=
  if s.held then { s with requested := value, unseen := true } else s

/-- Nobody is left to set the signal. -/
def release (s : Shutdown) : Shutdown := { s with held := false }

/-- Look at the signal. -/
def seen (s : Shutdown) : Shutdown := { s with unseen := false }

/-- What a party comes upon that waits for the signal. -/
inductive Notice where
  /-- The signal was set, to whatever value. -/
  | set
  /-- Nobody is left to set it. -/
  | released
deriving Repr, DecidableEq

/-- What there is to notice. A signal that was set before it was released is noticed first. -/
def notice? (s : Shutdown) : Option Notice :=
  if s.unseen then some .set else if s.held then none else some .released

end Shutdown

end SpeedTest
