import SpeedTest.Number.Binary64

/-! Rounding to the nearest representable value, with ties to the even neighbour. -/

namespace SpeedTest

/-- The integer nearest to `num / den`. Ties go to the even neighbour. -/
def roundDiv (num den : Nat) : Nat :=
  let floor := num / den
  let rest := num % den
  if 2 * rest < den then floor
  else if den < 2 * rest then floor + 1
  else if floor % 2 = 0 then floor else floor + 1

/-- The product of `n` with the non-negative part of `2 ^ e`. -/
def raise (n : Nat) (e : Int) : Nat := n <<< e.toNat

/-- The powers of ten. -/
def tenPow (n : Nat) : Nat := Nat.pow 10 n

namespace Binary64

/-- The exponent `e` with `2 ^ e ≤ num / den < 2 ^ (e + 1)`, for positive `num` and `den`. -/
def floorLog (num den : Nat) : Int :=
  let e : Int := (num.log2 : Int) - den.log2
  if raise num (-e) < raise den e then e - 1 else e

/-- The pattern of the number nearest to `num / den`, where `den` is positive: a significand of at
most 53 bits over the smallest power of two that allows it, and infinity above the largest finite
number. A significand that rounds up to `2 ^ 53` carries into the exponent field. -/
def roundRatio (num den : Nat) : Nat :=
  if num = 0 then 0
  else
    let q := max (floorLog num den - 52) (-1074)
    let m := roundDiv (raise num (-q)) (raise den q)
    min ((q + 1074).toNat * leadingPattern + m) infinityMagnitude

/-- The pattern of the number nearest to `n · 2 ^ e`. -/
def roundScaled (n : Nat) (e : Int) : Nat := roundRatio (raise n e) (raise 1 (-e))

/-- The number nearest to `± num / den`. -/
def ofRatio (negative : Bool) (num den : Nat) : Binary64 :=
  ofMagnitude negative (roundRatio num den)

/-- The number nearest to a natural number. -/
def ofNat (n : Nat) : Binary64 := ofRatio false n 1

/-- The number nearest to `± n · 10 ^ e`. Exponents far outside the range are decided without the
power, which could be enormous. -/
def ofDecimal (negative : Bool) (n : Nat) (e : Int) : Binary64 :=
  let digits : Int := (Nat.toDigits 10 n).length
  if n = 0 then ofMagnitude negative 0
  else if 310 < digits + e then infinity negative
  else if digits + e < -330 then ofMagnitude negative 0
  else ofRatio negative (n * tenPow e.toNat) (tenPow (-e).toNat)

/-- The product, rounded once. -/
def mul (x y : Binary64) : Binary64 :=
  let negative := x.negative != y.negative
  if x.isNaN || y.isNaN then nan
  else if x.isInfinite || y.isInfinite then
    if x.isZero || y.isZero then nan else infinity negative
  else ofMagnitude negative (roundScaled (x.significand * y.significand) (x.scale + y.scale))

/-- The quotient, rounded once. -/
def div (x y : Binary64) : Binary64 :=
  let negative := x.negative != y.negative
  if x.isNaN || y.isNaN then nan
  else if x.isInfinite then if y.isInfinite then nan else infinity negative
  else if y.isInfinite then ofMagnitude negative 0
  else if y.isZero then if x.isZero then nan else infinity negative
  else
    let e := x.scale - y.scale
    ofRatio negative (raise x.significand e) (raise y.significand (-e))

/-- The sum, rounded once. A sum of zero is negative only where both terms are. -/
def add (x y : Binary64) : Binary64 :=
  if x.isNaN || y.isNaN then nan
  else if x.isInfinite then if y.isInfinite && x.negative != y.negative then nan else x
  else if y.isInfinite then y
  else
    let e := min x.scale y.scale
    let sum := x.signed * raise 1 (x.scale - e) + y.signed * raise 1 (y.scale - e)
    if sum = 0 then ofMagnitude (x.negative && y.negative) 0
    else ofMagnitude (decide (sum < 0)) (roundScaled sum.natAbs e)

end Binary64

end SpeedTest
