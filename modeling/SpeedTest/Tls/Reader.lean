import SpeedTest.Bytes

/-!
Readers of binary messages. A reader takes what it wants off the front of bytes, or fails.
-/

namespace SpeedTest.Tls

/-- A reader of values of a type. -/
abbrev Reader (α : Type) := StateT Bytes Option α

namespace Reader

/-- The given number of bytes. -/
def bytes (n : Nat) : Reader Bytes := fun input =>
  let front := input.take n
  if front.length = n then some (front, input.drop n) else none

/-- All bytes that are left. -/
def rest : Reader Bytes := fun input => some (input, [])

/-- A number of the given width. -/
def number (width : Nat) : Reader Nat := do return Bytes.toNat (← bytes width)

/-- Bytes behind their number, which has the given width. -/
def block (width : Nat) : Reader Bytes := do bytes (← number width)

/-- The same, but there must be some. -/
def filledBlock (width : Nat) : Reader Bytes := do
  let b ← block width
  if b.isEmpty then failure else return b

/-- What a reader makes of all the bytes. -/
def whole? {α : Type} (r : Reader α) (input : Bytes) : Option α :=
  match r input with
  | some (a, []) => some a
  | _ => none

/-- What a reader makes of all the bytes, when it is run until none are left, at most `limit`
times. -/
def all? {α : Type} (r : Reader α) (limit : Nat) (input : Bytes) : Option (List α) :=
  match input, limit with
  | [], _ => some []
  | _, 0 => none
  | input, limit + 1 =>
    match r input with
    | none => none
    | some (a, rest) => (all? r limit rest).map (a :: ·)

/-- The items in a block. Each takes a byte at least. -/
def items {α : Type} (width : Nat) (item : Reader α) : Reader (List α) := do
  let b ← block width
  StateT.lift (all? item b.length b)

/-- The same, but there must be some. -/
def filledItems {α : Type} (width : Nat) (item : Reader α) : Reader (List α) := do
  let l ← items width item
  if l.isEmpty then failure else return l

end Reader

end SpeedTest.Tls
