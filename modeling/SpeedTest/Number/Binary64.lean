/-!
Floating-point numbers of 64 bits, given by their bit pattern. A finite number is
`± significand · 2 ^ scale`, exactly.
-/

namespace SpeedTest

/-- A binary64 number: a sign bit, eleven exponent bits and fifty-two fraction bits. -/
structure Binary64 where
  bits : UInt64
deriving Repr, DecidableEq

namespace Binary64

/-- The pattern of the sign alone. -/
def signPattern : Nat := 1 <<< 63

/-- The pattern of the lowest exponent bit, and the leading bit of a significand that has one. -/
def leadingPattern : Nat := 1 <<< 52

/-- The pattern without the sign bit. Among numbers of one sign it grows with the magnitude. -/
def magnitude (x : Binary64) : Nat := x.bits.toNat % signPattern

def negative (x : Binary64) : Bool := decide (signPattern ≤ x.bits.toNat)

def exponentField (x : Binary64) : Nat := x.magnitude / leadingPattern

def fraction (x : Binary64) : Nat := x.magnitude % leadingPattern

/-- The pattern of infinity, which is the least that is not finite. -/
def infinityMagnitude : Nat := 2047 * leadingPattern

def isFinite (x : Binary64) : Bool := decide (x.magnitude < infinityMagnitude)

def isInfinite (x : Binary64) : Bool := decide (x.magnitude = infinityMagnitude)

def isNaN (x : Binary64) : Bool := decide (infinityMagnitude < x.magnitude)

/-- The integer factor of a finite number. The lowest exponent has no implicit leading bit. -/
def significand (x : Binary64) : Nat :=
  if x.exponentField = 0 then x.fraction else leadingPattern + x.fraction

/-- The power of two of a finite number. -/
def scale (x : Binary64) : Int :=
  if x.exponentField = 0 then -1074 else (x.exponentField : Int) - 1075

/-- The significand with its sign. -/
def signed (x : Binary64) : Int :=
  if x.negative then -(x.significand : Int) else x.significand

/-- The number with the given sign and magnitude pattern. -/
def ofMagnitude (negative : Bool) (magnitude : Nat) : Binary64 :=
  ⟨UInt64.ofNat ((if negative then signPattern else 0) + magnitude)⟩

def zero : Binary64 := ⟨0⟩

def infinity (negative : Bool) : Binary64 := ofMagnitude negative infinityMagnitude

def nan : Binary64 := ⟨0x7FF8000000000000⟩

/-- Zero, of either sign. -/
def isZero (x : Binary64) : Bool := decide (x.magnitude = 0)

/-- A key that orders the numbers other than NaN. Both zeros have key zero. -/
def orderKey (x : Binary64) : Int :=
  if x.negative then -(x.magnitude : Int) else x.magnitude

/-- The order of the numbers. NaN is below nothing and above nothing. -/
def le (x y : Binary64) : Bool :=
  !x.isNaN && !y.isNaN && decide (x.orderKey ≤ y.orderKey)

end Binary64

end SpeedTest
