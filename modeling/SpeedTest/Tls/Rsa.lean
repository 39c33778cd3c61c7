import SpeedTest.Tls.Der

/-!
Private keys that are two large primes and what is worked out from them: their product is public,
and so is an exponent whose inverse, modulo one less than each prime, is private.
-/

namespace SpeedTest.Tls

/-- The numbers of a key. -/
structure RsaKey where
  modulus : Nat
  publicExponent : Nat
  privateExponent : Nat
  p : Nat
  q : Nat
  /-- The private exponents for each prime, reduced. -/
  exponentP : Nat
  exponentQ : Nat
  /-- The inverse of the second prime modulo the first one. -/
  coefficient : Nat
deriving Repr, DecidableEq

namespace RsaKey

/-- The number of binary digits. -/
def bitLength (n : Nat) : Nat := if n = 0 then 0 else Nat.log2 n + 1

def minBits : Nat := 2048
def maxBits : Nat := 8192

/-- The most binary digits of a public exponent. -/
def maxExponentBits : Nat := 33

/-- Whether `b` is the reduced inverse of `a`. -/
def isInverse (m a b : Nat) : Bool := b < m && a * b % m == 1 % m

/-- Whether the numbers of a key fit together. -/
def isSound (k : RsaKey) : Bool :=
  minBits ≤ bitLength k.modulus && bitLength k.modulus ≤ maxBits && k.modulus % 2 == 1
    && 2 ≤ bitLength k.publicExponent && bitLength k.publicExponent ≤ maxExponentBits
    && k.publicExponent % 2 == 1
    && k.privateExponent < k.modulus
    && k.p < k.modulus && k.q < k.modulus && k.p * k.q == k.modulus
    && k.publicExponent * k.privateExponent % (k.p - 1) == 1
    && k.publicExponent * k.privateExponent % (k.q - 1) == 1
    && isInverse (k.p - 1) k.publicExponent k.exponentP
    && isInverse (k.q - 1) k.publicExponent k.exponentQ
    && isInverse k.p k.q k.coefficient

/-- The numbers of a key, behind the version of their order. -/
def numbers : Reader RsaKey := do
  if (← Der.unsigned) ≠ 0 then failure
  return ⟨← Der.unsigned, ← Der.unsigned, ← Der.unsigned, ← Der.unsigned, ← Der.unsigned,
    ← Der.unsigned, ← Der.unsigned, ← Der.unsigned⟩

/-- A key whose numbers fit together. -/
def read : Reader RsaKey := do
  let k ← StateT.lift (numbers.whole? (← Der.element Der.sequenceTag))
  if k.isSound then return k else failure

end RsaKey

end SpeedTest.Tls
