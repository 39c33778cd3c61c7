/-! Lengths of time in seconds and nanoseconds, and the text that shows one. -/

namespace SpeedTest

/-- The nanoseconds of a second. -/
def nanosPerSecond : Nat := 1000000000

/-- A length of time: whole seconds, and nanoseconds below a second. -/
structure Duration where
  secs : Nat
  nanos : Nat
deriving Repr, DecidableEq

namespace Duration

def zero : Duration := ⟨0, 0⟩

def ofSecs (n : Nat) : Duration := ⟨n, 0⟩

def ofNanos (n : Nat) : Duration := ⟨n / nanosPerSecond, n % nanosPerSecond⟩

def ofMillis (n : Nat) : Duration := ofNanos (n * 1000000)

def toNanos (d : Duration) : Nat := d.secs * nanosPerSecond + d.nanos

/-- Whole milliseconds. -/
def toMillis (d : Duration) : Nat := d.toNanos / 1000000

/-- `n` units and `part / 10 ^ places` of a unit, without trailing zeros, and the unit's name. -/
def showUnits (n part places : Nat) (unit : String) : String :=
  let ds := Nat.toDigits 10 part
  let filled := List.replicate (places - ds.length) '0' ++ ds
  let kept := (filled.reverse.dropWhile (· == '0')).reverse
  let fraction := if part = 0 then "" else "." ++ String.ofList kept
  toString n ++ fraction ++ unit

/-- The duration in the largest unit of which it holds at least one. -/
def describe (d : Duration) : String :=
  if 0 < d.secs then showUnits d.secs d.nanos 9 "s"
  else if 1000000 ≤ d.nanos then showUnits (d.nanos / 1000000) (d.nanos % 1000000) 6 "ms"
  else if 1000 ≤ d.nanos then showUnits (d.nanos / 1000) (d.nanos % 1000) 3 "µs"
  else showUnits d.nanos 0 0 "ns"

end Duration

end SpeedTest
