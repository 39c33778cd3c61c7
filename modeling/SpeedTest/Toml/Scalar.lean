import SpeedTest.Number.Reader
import SpeedTest.Toml.Node
import SpeedTest.Toml.Text

/-! Numbers, truth values and points in time in TOML. -/

namespace SpeedTest.Toml

/-! Points in time. Fields have a fixed number of digits. -/

/-- A number of exactly `width` digits, not below `low` and not above `high`. -/
def readField? (width low high : Nat) (cs : List Char) : Option (Nat × List Char) :=
  let digits := cs.take width
  let n := valueOfDigits digits
  if digits.length = width ∧ digits.all isDigitChar ∧ low ≤ n ∧ n ≤ high then
    some (n, cs.drop width)
  else none

/-- Take a character off the front. -/
def readMark? (mark : Char) : List Char → Option (List Char)
  | c :: rest => if c = mark then some rest else none
  | [] => none

def isLeapYear (y : Nat) : Bool := y % 4 == 0 && (y % 100 != 0 || y % 400 == 0)

/-- The days of a month. -/
def daysOfMonth (year month : Nat) : Nat :=
  if month = 2 then if isLeapYear year then 29 else 28
  else if month = 4 ∨ month = 6 ∨ month = 9 ∨ month = 11 then 30
  else 31

/-- Pass over a date. -/
def skipDate? (cs : List Char) : Option (List Char) := do
  let (year, cs) ← readField? 4 0 9999 cs
  let (month, cs) ← readField? 2 1 12 (← readMark? '-' cs)
  let (_, cs) ← readField? 2 1 (daysOfMonth year month) (← readMark? '-' cs)
  return cs

/-- Pass over the fraction of a second, if there is one. -/
def skipPlaces? (cs : List Char) : Option (List Char) :=
  match cs with
  | '.' :: rest =>
    if (rest.takeWhile isDigitChar).isEmpty then none else some (rest.dropWhile isDigitChar)
  | _ => some cs

/-- Pass over a time of the day. A minute may have a leap second. -/
def skipTime? (cs : List Char) : Option (List Char) := do
  let (_, cs) ← readField? 2 0 23 cs
  let (_, cs) ← readField? 2 0 59 (← readMark? ':' cs)
  let (_, cs) ← readField? 2 0 60 (← readMark? ':' cs)
  skipPlaces? cs

/-- Pass over the offset of a time, if there is one. -/
def skipOffset? (cs : List Char) : Option (List Char) :=
  match cs with
  | c :: rest =>
    if c = 'Z' ∨ c = 'z' then some rest
    else if c = '+' ∨ c = '-' then do
      let (_, rest) ← readField? 2 0 23 rest
      let (_, rest) ← readField? 2 0 59 (← readMark? ':' rest)
      return rest
    else some cs
  | [] => some []

/-- Pass over the time behind a date, if there is one. -/
def skipTimeOfDate (cs : List Char) : List Char :=
  match cs with
  | c :: rest =>
    if c = 'T' ∨ c = 't' ∨ c = ' ' then (skipTime? rest >>= skipOffset?).getD cs else cs
  | [] => []

/-- Pass over a date, a time, or both. -/
def skipMoment? (cs : List Char) : Option (List Char) :=
  match skipDate? cs with
  | some rest => some (skipTimeOfDate rest)
  | none => skipTime? cs

/-! Numbers. A single underscore may stand between two digits. -/

/-- The digits of a number without the underscores between them. -/
def digits? (isDigit : Char → Bool) : List Char → Option (List Char)
  | [] => none
  | [c] => if isDigit c then some [c] else none
  | c :: '_' :: rest => if isDigit c then (digits? isDigit rest).map (c :: ·) else none
  | c :: rest => if isDigit c then (digits? isDigit rest).map (c :: ·) else none

/-- The largest integer. -/
def maxInteger : Nat := 9223372036854775807

/-- The number that digits of a base write, if it is not too large. -/
def readBased? (base : Nat) (cs : List Char) : Option Int := do
  let isDigit (c : Char) : Bool := match hexDigit? c with
    | some d => d < base
    | none => false
  let digits ← digits? isDigit cs
  let n := digits.foldl (fun n c => base * n + (hexDigit? c).getD 0) 0
  if n ≤ maxInteger then return n else none

/-- A sign in front of a number: whether it is negative, and the rest. -/
def splitSign : List Char → Bool × List Char
  | '-' :: rest => (true, rest)
  | '+' :: rest => (false, rest)
  | cs => (false, cs)

/-- The digits of a whole decimal number, which has no superfluous zero in front. -/
def wholeDigits? (cs : List Char) : Option (List Char) := do
  let digits ← digits? isDigitChar cs
  if digits.head? = some '0' ∧ 1 < digits.length then none else return digits

/-- An integer. Only decimal ones have signs. -/
def readInteger? (word : List Char) : Option Int :=
  match word with
  | '0' :: 'x' :: rest => readBased? 16 rest
  | '0' :: 'o' :: rest => readBased? 8 rest
  | '0' :: 'b' :: rest => readBased? 2 rest
  | _ => do
    let (negative, body) := splitSign word
    let n := valueOfDigits (← wholeDigits? body)
    if negative then if n ≤ maxInteger + 1 then return -(n : Int) else none
    else if n ≤ maxInteger then return n else none

/-- An exponent, with an optional sign. -/
def readExponent? (cs : List Char) : Option Int := do
  let (negative, body) := splitSign cs
  let n := valueOfDigits (← digits? isDigitChar body)
  return if negative then -(n : Int) else n

def isExponentMark (c : Char) : Bool := c == 'e' || c == 'E'

/-- A number with a point or an exponent. -/
def readDecimal? (negative : Bool) (body : List Char) : Option Binary64 := do
  let mantissa := body.takeWhile fun c => !isExponentMark c
  let behind := body.drop mantissa.length
  let whole ← wholeDigits? (mantissa.takeWhile (· != '.'))
  let places ← match mantissa.dropWhile (· != '.') with
    | [] => if behind.isEmpty then none else some []
    | _ :: ds => digits? isDigitChar ds
  let exponent ← match behind with
    | [] => some 0
    | _ :: cs => readExponent? cs
  return Binary64.ofDecimal negative (valueOfDigits (whole ++ places)) (exponent - places.length)

/-- Whether a word is a floating point number. One that is too large must be negative. -/
def isFloat (word : List Char) : Bool :=
  let (negative, body) := splitSign word
  if body = ['i', 'n', 'f'] ∨ body = ['n', 'a', 'n'] then true
  else
    match readDecimal? negative body with
    | none => false
    | some x => x.isFinite || negative

/-- The characters of numbers and truth values. -/
def isWordChar (c : Char) : Bool := isKeyChar c || c == '+' || c == '.'

/-- What a word stands for. -/
def ofWord? (word : List Char) : Option Node :=
  if word = ['t', 'r', 'u', 'e'] then some (.boolean true)
  else if word = ['f', 'a', 'l', 's', 'e'] then some (.boolean false)
  else if isFloat word then some .float
  else (readInteger? word).map .integer

/-- A number, a truth value or a point in time. -/
def readScalar? : Read Node := fun cs =>
  match skipMoment? cs with
  | some rest => some (.moment, rest)
  | none => (ofWord? (cs.takeWhile isWordChar)).map fun n => (n, cs.dropWhile isWordChar)

end SpeedTest.Toml
