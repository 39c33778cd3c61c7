import SpeedTest.Digest.Sha512
import SpeedTest.Number.Modular

/-!
Public keys on the Edwards curve, the pairs of residues with `y² - x² = 1 + d·x²·y²`. A private key
is 32 bytes, whose hash gives the multiple of the generator that is public.
-/

namespace SpeedTest.Tls.Edwards

def prime : Nat := (1 <<< 255) - 19

/-- The coefficient of the curve. -/
def d : Nat := (prime - 121665) * Modular.inverse prime 121666 % prime

/-- The generator. -/
def generator : Nat × Nat :=
  (0x216936D3CD6E53FEC0A4E231FDD6DC5C692CC7609525A7B2C9562D608F25D51A,
    0x6666666666666666666666666666666666666666666666666666666666666658)

/-- The sum of two points. The denominators are never zero. -/
def add (p q : Nat × Nat) : Nat × Nat :=
  let m := prime
  let cross := d * (p.1 * q.1 % m) % m * (p.2 * q.2 % m) % m
  ((p.1 * q.2 + q.1 * p.2) * Modular.inverse m (1 + cross) % m,
    (p.2 * q.2 + p.1 * q.1) * Modular.inverse m (Modular.sub m 1 cross) % m)

/-- A point added to itself so many times. -/
def multiple (p : Nat × Nat) (n : Nat) : Nat × Nat :=
  if n = 0 then (0, 1)
  else
    let half := multiple p (n / 2)
    let even := add half half
    if n % 2 = 0 then even else add even p
termination_by n
decreasing_by omega

/-- The length of keys. -/
def keyLength : Nat := 32

/-- The bytes of a point: its second residue, least byte first, with the last bit of the first one
on top. -/
def encode (p : Nat × Nat) : Bytes :=
  (Bytes.ofNat keyLength (p.2 + ((p.1 % 2) <<< 255))).reverse

/-- The multiple that a private key stands for. -/
def scalar (key : Bytes) : Nat :=
  let n := Bytes.toNat ((Sha512.digest key).take keyLength).reverse
  (n % (1 <<< 254)) / 8 * 8 + (1 <<< 254)

/-- The public key of a private one. -/
def publicKey (key : Bytes) : Bytes := encode (multiple generator (scalar key))

end SpeedTest.Tls.Edwards
