/-! Arithmetic of residues. -/

namespace SpeedTest.Modular

/-- The difference of two residues. -/
def sub (m a b : Nat) : Nat := (a + (m - b % m)) % m

/-- A power of a residue. -/
def pow (m a : Nat) (e : Nat) : Nat :=
  if e = 0 then 1 % m
  else
    let half := pow m a (e / 2)
    let square := half * half % m
    if e % 2 = 0 then square else square * a % m
termination_by e
decreasing_by omega

/-- The inverse of a residue other than zero, where the modulus is prime: its order divides one
less than the modulus. -/
def inverse (m a : Nat) : Nat := pow m a (m - 2)

end SpeedTest.Modular
