import SpeedTest.Log
import SpeedTest.Number.Reader

/-!
Thresholds by which entries of a log are kept: one is given by the name of a level or by its number,
and keeps the entries of this level and of all that matter more.
-/

namespace SpeedTest.Log

/-- How much an entry must matter to be kept. -/
inductive Threshold where
  | off
  | atLeast (level : Level)
deriving Repr, DecidableEq

namespace Threshold

def admits (t : Threshold) (level : Level) : Bool :=
  match t with
  | off => false
  | atLeast least => least.weight ≤ level.weight

/-- The thresholds by their numbers. -/
def numbered : List Threshold :=
  [off, atLeast .error, atLeast .warn, atLeast .info, atLeast .debug, atLeast .trace]

/-- The thresholds by their names. -/
def named : List (String × Threshold) :=
  [("off", off), ("error", atLeast .error), ("warn", atLeast .warn), ("info", atLeast .info),
    ("debug", atLeast .debug), ("trace", atLeast .trace)]

/-- The largest number that counts as one. -/
def maxNumber : Nat := 18446744073709551615

/-- The threshold with the given number or name. The case of letters does not matter. -/
def ofWord? (word : List Char) : Option Threshold :=
  match readNat maxNumber word with
  | .ok n => numbered[n]?
  | .error _ => named.lookup (String.ofList (word.map Char.toLower))

end Threshold

end SpeedTest.Log
