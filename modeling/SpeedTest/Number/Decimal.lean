import SpeedTest.Number.Rounding

/-!
Decimal texts of binary64 numbers.

`fixed` has a given number of places and is the exact value rounded to nearest, ties to even.
`shortest` has the fewest digits that still read back as the number, and of those texts the one
nearest to it.
-/

namespace SpeedTest

/-- The decimal digits of a natural number. -/
def digitsOf (n : Nat) : List Char := Nat.toDigits 10 n

/-- A text of at least `width` digits, filled with zeros on the left. -/
def padDigits (width n : Nat) : List Char :=
  let ds := digitsOf n
  List.replicate (width - ds.length) '0' ++ ds

namespace Binary64

/-- `n / 10 ^ places`, written with a point and exactly `places` places. -/
def pointed (places n : Nat) : List Char :=
  digitsOf (n / tenPow places) ++ '.' :: padDigits places (n % tenPow places)

/-- The magnitude of a finite number in units of `10 ^ (-places)`, rounded. -/
def unitsOf (places : Nat) (x : Binary64) : Nat :=
  roundDiv (raise (x.significand * tenPow places) x.scale) (raise 1 (-x.scale))

/-- The number with exactly `places` places. The sign is that of the number, so that a negative
number that rounds to zero keeps it. -/
def fixedChars (places : Nat) (x : Binary64) : List Char :=
  if x.isNaN then ['N', 'a', 'N']
  else
    let body := if x.isInfinite then ['i', 'n', 'f'] else pointed places (x.unitsOf places)
    if x.negative then '-' :: body else body

def fixed (places : Nat) (x : Binary64) : String := String.ofList (x.fixedChars places)

/-- A decimal `digits · 10 ^ exponent`. -/
structure Decimal where
  digits : Nat
  exponent : Int
deriving Repr, DecidableEq

/-- The exponent `k` with `10 ^ (k - 1) ≤ num / den < 10 ^ k`. -/
def decimalExponent (num den : Nat) : Int :=
  if den ≤ num then (digitsOf (num / den)).length
  else 1 - ((digitsOf (den / num)).length : Int)

/-- The decimal grid of `count` digits around a positive finite number: its neighbours below and
above on the grid that lie in the interval of reals which round to the number, nearest first. All
quantities are in quarters of the number's last place. -/
def gridPoint? (x : Binary64) (count : Nat) : Option Decimal :=
  let s := x.significand
  let centre := 4 * s
  let above := centre + 2
  let below := if s = leadingPattern ∧ 1 < x.exponentField then centre - 1 else centre - 2
  let unit := x.scale - 2
  let k := decimalExponent (raise centre unit) (raise 1 (-unit))
  let t := k - count
  let p := raise 1 unit * tenPow (-t).toNat
  let q := raise 1 (-unit) * tenPow t.toNat
  let floor := centre * p / q
  let inside (c : Nat) : Bool :=
    if s % 2 = 0 then below * p ≤ c * q && c * q ≤ above * p
    else below * p < c * q && c * q < above * p
  let low := inside floor
  let high := inside (floor + 1)
  let nearLow : Bool :=
    let twice := 2 * (centre * p)
    let middle := (2 * floor + 1) * q
    twice < middle || (twice == middle && floor % 2 == 0)
  if low && (nearLow || !high) then some ⟨floor, t⟩
  else if high then some ⟨floor + 1, t⟩
  else none

/-- The same decimal without a zero at its end. The neighbour above may be ten on a grid of one
digit. -/
def Decimal.trimmed (d : Decimal) : Decimal :=
  if d.digits % 10 = 0 then ⟨d.digits / 10, d.exponent + 1⟩ else d

/-- The digits of a positive finite number. Seventeen always suffice. -/
def shortestDecimal (x : Binary64) : Decimal :=
  let found := (List.range 17).findSome? fun n => x.gridPoint? (n + 1)
  (found.getD ⟨0, 0⟩).trimmed

/-- `digits · 10 ^ exponent` without an exponent, and without a point where it is an integer. -/
def Decimal.positional (d : Decimal) : List Char :=
  let ds := digitsOf d.digits
  if 0 ≤ d.exponent then ds ++ List.replicate d.exponent.toNat '0'
  else
    let places := (-d.exponent).toNat
    if ds.length ≤ places then
      '0' :: '.' :: (List.replicate (places - ds.length) '0' ++ ds)
    else ds.take (ds.length - places) ++ '.' :: ds.drop (ds.length - places)

/-- The fewest digits that read back, without an exponent. -/
def shortest (x : Binary64) : String :=
  if x.isNaN then "NaN"
  else
    let body :=
      if x.isInfinite then ['i', 'n', 'f']
      else if x.isZero then ['0']
      else x.shortestDecimal.positional
    String.ofList (if x.negative then '-' :: body else body)

/-- The fewest digits that read back, with an exponent of at least two digits and a sign outside
`10 ^ (-5)` to `10 ^ 16`, and with a point inside that range. -/
def shortestScientific (x : Binary64) : String :=
  let body :=
    if x.isZero then ['0', '.', '0']
    else
      let d := x.shortestDecimal
      let ds := digitsOf d.digits
      let e : Int := d.exponent + ds.length - 1
      if -5 ≤ e ∧ e ≤ 15 then
        if 0 ≤ d.exponent then d.positional ++ ['.', '0'] else d.positional
      else
        let tail := if ds.length ≤ 1 then ds else ds.take 1 ++ '.' :: ds.drop 1
        tail ++ 'e' :: (if e < 0 then '-' else '+') :: padDigits 2 e.natAbs
  String.ofList (if x.negative then '-' :: body else body)

end Binary64

end SpeedTest
