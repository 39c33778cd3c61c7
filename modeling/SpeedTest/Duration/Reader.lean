import SpeedTest.Duration
import SpeedTest.Number.Reader
import SpeedTest.Text.Blank

/-!
Reading lengths of time that people write, such as `1h 30m` or `1.5s`: items of a number and a unit,
which are added up.

The text is read once, character by character. Numbers, products and sums are held in 64 bits, and
one that does not fit is a fault where it arises. A carry into the seconds is the exception: where
it does not fit, the reader has no answer at all.
-/

namespace SpeedTest.Duration

/-- The units of time. -/
inductive TimeUnit where
  | nanosecond
  | microsecond
  | millisecond
  | second
  | minute
  | hour
  | day
  | week
  | month
  | year
deriving Repr, DecidableEq

namespace TimeUnit

/-- The names of units. -/
def names : List (String × TimeUnit) :=
  [("nanos", nanosecond), ("nsec", nanosecond), ("ns", nanosecond),
    ("usec", microsecond), ("us", microsecond), ("µs", microsecond),
    ("millis", millisecond), ("msec", millisecond), ("ms", millisecond),
    ("seconds", second), ("second", second), ("secs", second), ("sec", second), ("s", second),
    ("minutes", minute), ("minute", minute), ("min", minute), ("mins", minute), ("m", minute),
    ("hours", hour), ("hour", hour), ("hr", hour), ("hrs", hour), ("h", hour),
    ("days", day), ("day", day), ("d", day),
    ("weeks", week), ("week", week), ("wk", week), ("wks", week), ("w", week),
    ("months", month), ("month", month), ("M", month),
    ("years", year), ("year", year), ("yr", year), ("yrs", year), ("y", year)]

def ofName? (name : String) : Option TimeUnit := names.lookup name

/-- The length of a unit in nanoseconds. A year is 365.25 days, a month about a twelfth of it. -/
def nanos : TimeUnit → Nat
  | nanosecond => 1
  | microsecond => 1000
  | millisecond => 1000000
  | second => nanosPerSecond
  | minute => 60 * nanosPerSecond
  | hour => 3600 * nanosPerSecond
  | day => 86400 * nanosPerSecond
  | week => 604800 * nanosPerSecond
  | month => 2630016 * nanosPerSecond
  | year => 31557600 * nanosPerSecond

/-- Whether whole numbers of the unit are counted in seconds. -/
def isWholeSeconds : TimeUnit → Bool
  | nanosecond | microsecond | millisecond => false
  | _ => true

/-- Whether fractions of the unit are counted in seconds. -/
def hasWholeSecondParts : TimeUnit → Bool
  | nanosecond | microsecond | millisecond | second | minute => false
  | _ => true

end TimeUnit

/-- Why a text is no length of time. Places are counted in bytes. -/
inductive Fault where
  | empty
  | numberExpected (place : Nat)
  | invalidCharacter (place : Nat)
  /-- A number at the end of the text has no unit. -/
  | unitNeeded (number : Nat)
  | unknownUnit (name : String)
  | tooLarge
deriving Repr, DecidableEq

def Fault.message : Fault → String
  | empty => "value was empty"
  | numberExpected place => "expected number at " ++ toString place
  | invalidCharacter place => "invalid character at " ++ toString place
  | unitNeeded n =>
    "time unit needed, for example " ++ toString n ++ "sec or " ++ toString n ++ "ms"
  | unknownUnit name =>
    "unknown time unit \"" ++ name ++ "\", supported units: ns, us/µs, ms, sec, min, hours, days, "
      ++ "weeks, months, years (and few variations)"
  | tooLarge =>
    "number is too large or cannot be represented without a lack of precision (values below 1ns "
      ++ "are not supported)"

/-- How reading ends without a length of time. -/
inductive Stop where
  | fault (f : Fault)
  /-- A second that is carried over does not fit, and the program stops at once. -/
  | overflow
deriving Repr, DecidableEq

/-- The largest number of 64 bits. -/
def maxCount : Nat := 18446744073709551615

/-- A number, if it fits. -/
def fit (n : Nat) : Except Stop Nat := if n ≤ maxCount then .ok n else .error (.fault .tooLarge)

/-- What stands behind the point of a number, over a power of ten. -/
structure Fraction where
  numerator : Nat
  denominator : Nat
deriving Repr, DecidableEq

/-- The quotient, if there is no remainder. -/
def divideExactly (n d : Nat) : Except Stop Nat :=
  if n % d = 0 then .ok (n / d) else .error (.fault .tooLarge)

/-- `n` units in seconds and nanoseconds. -/
def wholeUnits (u : TimeUnit) (n : Nat) : Except Stop (Nat × Nat) :=
  if u.isWholeSeconds then (fit (n * (u.nanos / nanosPerSecond))).map fun s => (s, 0)
  else (fit (n * u.nanos)).map fun ns => (0, ns)

/-- A part of a unit in seconds and nanoseconds. There are no parts of a nanosecond. -/
def partOfUnit (u : TimeUnit) (f : Fraction) : Except Stop (Nat × Nat) := do
  if u = .nanosecond then throw (.fault .tooLarge)
  if u.hasWholeSecondParts then
    let n ← fit (f.numerator * (u.nanos / nanosPerSecond))
    return (← divideExactly n f.denominator, 0)
  else
    let n ← fit (f.numerator * u.nanos)
    return (0, ← divideExactly n f.denominator)

/-- Add seconds and nanoseconds. More than a second of nanoseconds is turned into seconds before
these are added. Exactly one is carried over afterwards, and this last carry is not a fault but an
overflow where it does not fit. -/
def add (d : Duration) (secs nanos : Nat) : Except Stop Duration := do
  let sum ← fit (d.nanos + nanos)
  let (secs, sum) ←
    if nanosPerSecond < sum then
      (fit (secs + sum / nanosPerSecond)).map fun s => (s, sum % nanosPerSecond)
    else pure (secs, sum)
  let total ← fit (d.secs + secs)
  if sum < nanosPerSecond then return ⟨total, sum⟩
  else if total < maxCount then return ⟨total + 1, 0⟩
  else throw .overflow

/-- Add an item: a number, perhaps with a fraction, and the name of a unit. -/
def addItem (d : Duration) (n : Nat) (f : Option Fraction) (name : String) :
    Except Stop Duration :=
  match TimeUnit.ofName? name with
  | none => .error (.fault (.unknownUnit name))
  | some u => do
    let (s, ns) ← wholeUnits u n
    let d ← d.add s ns
    match f with
    | none => return d
    | some f =>
      let (s, ns) ← partOfUnit u f
      d.add s ns

/-- Where a reader stands. -/
inductive Place where
  /-- In front of a number, looked for from the given place on. -/
  | between (since : Nat)
  /-- In a number, in front of its point. -/
  | number (n : Nat)
  /-- Behind the point of a number. A fault would be told of the given place. -/
  | fraction (n : Nat) (part : Fraction) (told : Nat)
  /-- In the name of a unit, whose letters are held last first. -/
  | unit (n : Nat) (part : Option Fraction) (letters : List Char)
deriving Repr, DecidableEq

/-- A reader: the sum of the items so far, if there are any, and a place. -/
structure Reader where
  total : Option Duration
  place : Place
deriving Repr, DecidableEq

/-- In front of the text. -/
def Reader.start : Reader := ⟨none, .between 0⟩

/-- The letters of the names of units. -/
def isUnitLetter (c : Char) : Bool :=
  ('a' ≤ c && c ≤ 'z') || ('A' ≤ c && c ≤ 'Z') || c == 'µ'

def digitValue (c : Char) : Nat := c.toNat - '0'.toNat

/-- The sum of the items with one more. -/
def Reader.complete (r : Reader) (n : Nat) (part : Option Fraction) (letters : List Char) :
    Except Stop Duration :=
  (r.total.getD .zero).addItem n part (String.ofList letters.reverse)

/-- Take in the character at the given place. -/
def Reader.feed (r : Reader) (place : Nat) (c : Char) : Except Stop Reader :=
  match r.place with
  | .between since =>
    if isDigitChar c then .ok { r with place := .number (digitValue c) }
    else if Text.isBlank c then .ok r
    else .error (.fault (.numberExpected since))
  | .number n =>
    if isDigitChar c then
      (fit (10 * n + digitValue c)).map fun n => { r with place := .number n }
    else if Text.isBlank c then .ok r
    else if isUnitLetter c then .ok { r with place := .unit n none [c] }
    else if c = '.' then .ok { r with place := .fraction n ⟨0, 1⟩ place }
    else .error (.fault (.invalidCharacter place))
  | .fraction n part told =>
    if isDigitChar c then do
      let denominator ← fit (10 * part.denominator)
      let numerator ← fit (10 * part.numerator + digitValue c)
      return { r with place := .fraction n ⟨numerator, denominator⟩ (place + c.utf8Size) }
    else if Text.isBlank c then .ok { r with place := .fraction n part (place + c.utf8Size) }
    else if isUnitLetter c && part.denominator != 1 then
      .ok { r with place := .unit n (some part) [c] }
    else .error (.fault (.invalidCharacter told))
  | .unit n part letters =>
    if isDigitChar c then
      (r.complete n part letters).map fun d => ⟨some d, .number (digitValue c)⟩
    else if Text.isBlank c then
      (r.complete n part letters).map fun d => ⟨some d, .between (place + c.utf8Size)⟩
    else if isUnitLetter c then .ok { r with place := .unit n part (c :: letters) }
    else .error (.fault (.invalidCharacter place))

/-- The sum of all items, at the end of the text. -/
def Reader.finish (r : Reader) : Except Stop Duration :=
  match r.place with
  | .between _ =>
    match r.total with
    | none => .error (.fault .empty)
    | some d => .ok d
  | .number n => .error (.fault (.unitNeeded n))
  | .fraction n part told =>
    if part.denominator = 1 then .error (.fault (.invalidCharacter told))
    else .error (.fault (.unitNeeded n))
  | .unit n part letters => r.complete n part letters

/-- Read the rest of a text. -/
def Reader.run (r : Reader) (place : Nat) : List Char → Except Stop Duration
  | [] => r.finish
  | c :: rest =>
    match r.feed place c with
    | .error e => .error e
    | .ok r' => r'.run (place + c.utf8Size) rest

/-- Read a length of time. Zero needs no unit. -/
def read (s : String) : Except Stop Duration :=
  if s = "0" then .ok .zero else Reader.start.run 0 s.toList

end SpeedTest.Duration
