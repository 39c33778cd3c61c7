import SpeedTest.Number.Rounding

/-!
Reading numbers from text: signed decimal integers of 64 bits, and binary64 numbers in decimal or
scientific notation.
-/

namespace SpeedTest

def isDigitChar (c : Char) : Bool := '0' ≤ c && c ≤ '9'

/-- The number written by a list of decimal digits. -/
def valueOfDigits (ds : List Char) : Nat :=
  ds.foldl (fun n c => 10 * n + (c.toNat - '0'.toNat)) 0

/-- Why a text is no integer. -/
inductive IntegerFault where
  | empty
  | invalidDigit
  | tooLarge
  | tooSmall
deriving Repr, DecidableEq

def IntegerFault.message : IntegerFault → String
  | .empty => "cannot parse integer from empty string"
  | .invalidDigit => "invalid digit found in string"
  | .tooLarge => "number too large to fit in target type"
  | .tooSmall => "number too small to fit in target type"

/-- Reads decimal digits from the left onto `value`, as long as the value stays within the limit. A
digit that oversteps the limit stops the reading before anything behind it is looked at. -/
def readDigits (negative : Bool) (limit value : Nat) : List Char → Except IntegerFault Nat
  | [] => .ok value
  | c :: rest =>
    if isDigitChar c then
      let next := 10 * value + (c.toNat - '0'.toNat)
      if limit < next then .error (if negative then .tooSmall else .tooLarge)
      else readDigits negative limit next rest
    else .error .invalidDigit

/-- A signed integer of 64 bits: an optional sign and at least one decimal digit. -/
def readInt64 : List Char → Except IntegerFault Int
  | [] => .error .empty
  | ['-'] | ['+'] => .error .invalidDigit
  | '-' :: ds => (readDigits true (1 <<< 63) 0 ds).map fun n => -(n : Int)
  | '+' :: ds => (readDigits false (1 <<< 63 - 1) 0 ds).map Int.ofNat
  | ds => (readDigits false (1 <<< 63 - 1) 0 ds).map Int.ofNat

/-- An unsigned integer up to `limit`: an optional plus sign and at least one decimal digit. -/
def readNat (limit : Nat) : List Char → Except IntegerFault Nat
  | [] => .error .empty
  | ['-'] | ['+'] => .error .invalidDigit
  | '+' :: ds => readDigits false limit 0 ds
  | ds => readDigits false limit 0 ds

namespace Binary64

/-- A decimal exponent after its letter: an optional sign and at least one digit, to the end. -/
def readExponent? (cs : List Char) : Option Int :=
  let (negative, ds) := match cs with
    | '-' :: r => (true, r)
    | '+' :: r => (false, r)
    | r => (false, r)
  if ds.isEmpty || !ds.all isDigitChar then none
  else some (if negative then -(valueOfDigits ds : Int) else valueOfDigits ds)

/-- A number without a sign, in decimal or scientific notation. One side of the point may lack
digits, not both. -/
def readUnsigned? (negative : Bool) (cs : List Char) : Option Binary64 :=
  let whole := cs.takeWhile isDigitChar
  let behind := cs.dropWhile isDigitChar
  let (places, rest) := match behind with
    | '.' :: r => (r.takeWhile isDigitChar, r.dropWhile isDigitChar)
    | r => ([], r)
  if whole.isEmpty && places.isEmpty then none
  else
    let exponent := match rest with
      | [] => some 0
      | c :: r => if c = 'e' ∨ c = 'E' then readExponent? r else none
    exponent.map fun e => ofDecimal negative (valueOfDigits (whole ++ places)) (e - places.length)

/-- The names of the special values, in any case. -/
def readSpecial? (negative : Bool) (cs : List Char) : Option Binary64 :=
  let name := String.ofList (cs.map Char.toLower)
  if name = "inf" ∨ name = "infinity" then some (infinity negative)
  else if name = "nan" then some nan
  else none

/-- A number with an optional sign, or the name of a special value. -/
def read? (s : String) : Option Binary64 :=
  let (negative, body) := match s.toList with
    | '-' :: r => (true, r)
    | '+' :: r => (false, r)
    | r => (false, r)
  match readUnsigned? negative body with
  | some x => some x
  | none => readSpecial? negative body

end Binary64

end SpeedTest
