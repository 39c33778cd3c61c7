import SpeedTest.Json.Skip
import SpeedTest.Number.Decimal

/-!
JSON numbers, read where a text was wanted: a 64-bit integer if the number is written as one and
fits, a binary64 number otherwise.

The digits are gathered in an unsigned integer of 64 bits. Digits behind the first that does not
fit any more only count as powers of ten.
-/

namespace SpeedTest.Json

/-- The greatest value that the digits may add up to. -/
def digitLimit : Nat := 1 <<< 64 - 1

/-- Gather digits onto `n` as long as the value fits: the value, how many digits were read, and the
rest, which begins with a digit only where that digit does not fit. -/
def gather (n count : Nat) : Bytes → Nat × Nat × Bytes
  | [] => (n, count, [])
  | b :: rest =>
    if Bytes.isDigit b then
      let next := 10 * n + (b.toNat - 0x30)
      if digitLimit < next then (n, count, b :: rest) else gather next (count + 1) rest
    else (n, count, b :: rest)

/-- Divide by `10 ^ 308` until the exponent is at least `-308` or nothing is left. -/
def reduce (fuel : Nat) (x : Binary64) (e : Int) : Binary64 × Int :=
  match fuel with
  | 0 => (x, e)
  | fuel + 1 =>
    if -308 ≤ e ∨ x.isZero then (x, e)
    else reduce fuel (x.div (Binary64.ofDecimal false 1 308)) (e + 308)

/-- The number `n · 10 ^ e`, computed with one rounding for `n` and one for each factor. Three
reductions leave nothing of a significand of 64 bits. -/
def scaled (n : Nat) (e : Int) (rest : Bytes) : Except Fault Binary64 :=
  let x := Binary64.ofNat n
  if 308 < e then
    if x.isZero then .ok x else faultAfter .numberOutOfRange rest
  else if 0 ≤ e then
    let y := x.mul (Binary64.ofDecimal false 1 e)
    if y.isInfinite then faultAfter .numberOutOfRange rest else .ok y
  else
    let (y, e') := reduce 4 x e
    if y.isZero then .ok y else .ok (y.div (Binary64.ofDecimal false 1 (-e')))

/-- The greatest exponent that is read. -/
def exponentLimit : Nat := 1 <<< 31 - 1

/-- Gather the digits of an exponent. `none` for a value above the limit, with the rest behind the
digit that oversteps it. -/
def gatherExponent (e : Nat) : Bytes → Option Nat × Bytes
  | [] => (some e, [])
  | b :: rest =>
    if Bytes.isDigit b then
      let next := 10 * e + (b.toNat - 0x30)
      if exponentLimit < next then (none, rest) else gatherExponent next rest
    else (some e, b :: rest)

/-- Read an exponent behind its letter and apply it to `n · 10 ^ e`. -/
def readExponent (n : Nat) (e : Int) (input : Bytes) : Except Fault (Binary64 × Bytes) :=
  let down := match input with
    | [] => false
    | b :: _ => b = 0x2D
  match skipSign input with
  | [] => faultAfter .endInValue []
  | b :: rest =>
    if Bytes.isDigit b then
      match gatherExponent (b.toNat - 0x30) rest with
      | (none, rest') =>
        if n ≠ 0 ∧ !down then faultAfter .numberOutOfRange rest'
        else .ok (.zero, skipDigits rest')
      | (some k, rest') =>
        (scaled n (if down then e - k else e + k) rest').map fun x => (x, rest')
    else faultAfter .invalidNumber rest

/-- Read the exponent of `n · 10 ^ e`, if there is one. -/
def readExponentPart (n : Nat) (e : Int) (input : Bytes) : Except Fault (Binary64 × Bytes) :=
  if atExponent input then readExponent n e input.tail
  else (scaled n e input).map fun x => (x, input)

/-- Read the places behind a point that follows `n · 10 ^ e`. -/
def readPlaces (n : Nat) (e : Int) (input : Bytes) : Except Fault (Binary64 × Bytes) :=
  match gather n 0 input with
  | (m, count, rest) =>
    if atDigit rest then readExponentPart m (e - count) (skipDigits rest)
    else if count = 0 then
      if rest.isEmpty then faultAt .endInValue rest else faultAt .invalidNumber rest
    else readExponentPart m (e - count) rest

def atPoint : Bytes → Bool
  | [] => false
  | b :: _ => b = 0x2E

/-- What a number turns out to be, with its sign. -/
def describeFloat (negative : Bool) (x : Binary64) : Found :=
  .float (Binary64.ofMagnitude negative x.magnitude).shortestScientific

/-- Read what may follow the integer part `n` of a number. -/
def readFraction (negative : Bool) (n : Nat) (input : Bytes) : Except Fault (Found × Bytes) :=
  let float (r : Except Fault (Binary64 × Bytes)) : Except Fault (Found × Bytes) :=
    r.map fun (x, rest) => (describeFloat negative x, rest)
  if atPoint input then float (readPlaces n 0 input.tail)
  else if atExponent input then float (readExponent n 0 input.tail)
  else if !negative then .ok (.integer n, input)
  else if n = 0 ∨ 1 <<< 63 < n then .ok (describeFloat true (Binary64.ofNat n), input)
  else .ok (.integer (-(n : Int)), input)

/-- Read what may follow an integer part whose digits do not all fit: `n`, and the digits that are
left. -/
def readLong (negative : Bool) (n : Nat) (input : Bytes) : Except Fault (Found × Bytes) :=
  let rest := skipDigits input
  let e : Int := input.length - rest.length
  let r := if atPoint rest then readPlaces n e rest.tail else readExponentPart n e rest
  r.map fun (x, rest') => (describeFloat negative x, rest')

/-- Read a number without its sign. -/
def readNumber (negative : Bool) : Bytes → Except Fault (Found × Bytes)
  | [] => faultAfter .endInValue []
  | b :: rest =>
    if b = 0x30 then
      if atDigit rest then faultAt .invalidNumber rest else readFraction negative 0 rest
    else if Bytes.isDigit b then
      match gather (b.toNat - 0x30) 0 rest with
      | (n, _, rest') =>
        if atDigit rest' then readLong negative n rest' else readFraction negative n rest'
    else faultAfter .invalidNumber rest

end SpeedTest.Json
