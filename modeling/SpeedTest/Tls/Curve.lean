import SpeedTest.Bytes
import SpeedTest.Number.Modular

/-!
The elliptic curves of public keys: the pairs of residues with `y² = x³ - 3x + b`, and a point at
infinity, which is the zero of their addition.
-/

namespace SpeedTest.Tls

/-- A point, or `none` for the one at infinity. -/
abbrev Point := Option (Nat × Nat)

/-- A curve. -/
structure Curve where
  /-- The identifier by which certificates and keys name it. -/
  identifier : Bytes
  /-- The number of bytes of a residue. -/
  width : Nat
  prime : Nat
  b : Nat
  generator : Nat × Nat
  /-- How often the generator must be added to itself to give zero. -/
  order : Nat
deriving Repr, DecidableEq

namespace Curve

def p256 : Curve where
  identifier := [0x2A, 0x86, 0x48, 0xCE, 0x3D, 0x03, 0x01, 0x07]
  width := 32
  prime := 0xFFFFFFFF00000001000000000000000000000000FFFFFFFFFFFFFFFFFFFFFFFF
  b := 0x5AC635D8AA3A93E7B3EBBD55769886BC651D06B0CC53B0F63BCE3C3E27D2604B
  generator :=
    (0x6B17D1F2E12C4247F8BCE6E563A440F277037D812DEB33A0F4A13945D898C296,
      0x4FE342E2FE1A7F9B8EE7EB4A7C0F9E162BCE33576B315ECECBB6406837BF51F5)
  order := 0xFFFFFFFF00000000FFFFFFFFFFFFFFFFBCE6FAADA7179E84F3B9CAC2FC632551

def p384 : Curve where
  identifier := [0x2B, 0x81, 0x04, 0x00, 0x22]
  width := 48
  prime := (0xFFFFFFFFFFFFFFFFFFFFFFFFFFFFFFFFFFFFFFFFFFFFFFFF <<< 192)
    + 0xFFFFFFFFFFFFFFFEFFFFFFFF0000000000000000FFFFFFFF
  b := (0xB3312FA7E23EE7E4988E056BE3F82D19181D9C6EFE814112 <<< 192)
    + 0x0314088F5013875AC656398D8A2ED19D2A85C8EDD3EC2AEF
  generator :=
    ((0xAA87CA22BE8B05378EB1C71EF320AD746E1D3B628BA79B98 <<< 192)
      + 0x59F741E082542A385502F25DBF55296C3A545E3872760AB7,
    (0x3617DE4A96262C6F5D9E98BF9292DC29F8F41DBD289A147C <<< 192)
      + 0xE9DA3113B5F0B8C00A60B1CE1D7E819D7A431D7C90EA0E5F)
  order := (0xFFFFFFFFFFFFFFFFFFFFFFFFFFFFFFFFFFFFFFFFFFFFFFFF <<< 192)
    + 0xC7634D81F4372DDF581A0DB248B0A77AECEC196ACCC52973

def p521 : Curve where
  identifier := [0x2B, 0x81, 0x04, 0x00, 0x23]
  width := 66
  prime := 2 * (1 <<< 520) - 1
  b := (0x51953EB9618E1C9A1F929A21A0B68540EEA2DA725B99B315F3B8B489918EF109 <<< 264)
    + 0xE156193951EC7E937B1652C0BD3BB1BF073573DF883D2C34F1EF451FD46B503F00
  generator :=
    ((0xC6858E06B70404E9CD9E3ECB662395B4429C648139053FB521F828AF606B4D3D <<< 264)
      + 0xBAA14B5E77EFE75928FE1DC127A2FFA8DE3348B3C1856A429BF97E7E31C2E5BD66,
    (0x11839296A789A3BC0045C8A5FB42C7D1BD998F54449579B446817AFBD17273E66 <<< 264)
      + 0x2C97EE72995EF42640C550B9013FAD0761353C7086A272C24088BE94769FD16650)
  order := (0x1FFFFFFFFFFFFFFFFFFFFFFFFFFFFFFFFFFFFFFFFFFFFFFFFFFFFFFFFFFFFFFFF <<< 264)
    + 0xFA51868783BF2F966B7FCC0148F709A5D03BB5C9B8899C47AEBB6FB71E91386409

/-- The curves that keys may lie on. -/
def all : List Curve := [p256, p384, p521]

/-- The right side of the equation of a curve. -/
def cubic (c : Curve) (x : Nat) : Nat :=
  Modular.sub c.prime (x * x * x + c.b) (3 * x)

/-- Whether a pair of residues lies on a curve. -/
def contains (c : Curve) (x y : Nat) : Bool :=
  x < c.prime && y < c.prime && y * y % c.prime == c.cubic x

/-- The third point on the line through two points, or on the one at a single point, with the given
slope, mirrored. -/
def alongLine (c : Curve) (slope : Nat) (p : Nat × Nat) (x : Nat) : Nat × Nat :=
  let x' := Modular.sub c.prime (Modular.sub c.prime (slope * slope) p.1) x
  (x', Modular.sub c.prime (slope * Modular.sub c.prime p.1 x') p.2)

def add (c : Curve) : Point → Point → Point
  | none, q => q
  | p, none => p
  | some p, some q =>
    let m := c.prime
    if p.1 = q.1 then
      if (p.2 + q.2) % m = 0 then none
      else
        let slope := Modular.sub m (3 * p.1 * p.1) 3 * Modular.inverse m (2 * p.2 % m) % m
        some (c.alongLine slope p q.1)
    else
      let slope := Modular.sub m q.2 p.2 * Modular.inverse m (Modular.sub m q.1 p.1) % m
      some (c.alongLine slope p q.1)

/-- A point added to itself so many times. -/
def multiple (c : Curve) (p : Point) (n : Nat) : Point :=
  if n = 0 then none
  else
    let half := multiple c p (n / 2)
    let even := c.add half half
    if n % 2 = 0 then even else c.add even p
termination_by n
decreasing_by omega

/-- The ordinate that belongs to an abscissa and is even or odd as asked for. The primes of all
curves leave three when divided by four, so that roots are powers. -/
def ordinate? (c : Curve) (x : Nat) (isOdd : Bool) : Option Nat :=
  let square := c.cubic x
  let root := Modular.pow c.prime square ((c.prime + 1) / 4)
  if root * root % c.prime ≠ square then none
  else if (root % 2 == 1) = isOdd then some root
  else if root = 0 then none
  else some (c.prime - root)

/-- The point with the given bytes: both residues behind a four, or the first one alone behind a two
or a three, which tells whether the second is odd. -/
def decode? (c : Curve) (bs : Bytes) : Option (Nat × Nat) :=
  match bs with
  | [] => none
  | form :: rest =>
    if form = 4 && rest.length = 2 * c.width then
      let (x, y) := (Bytes.toNat (rest.take c.width), Bytes.toNat (rest.drop c.width))
      if c.contains x y then some (x, y) else none
    else if (form = 2 || form = 3) && rest.length = c.width then
      let x := Bytes.toNat rest
      if c.prime ≤ x then none else (c.ordinate? x (form = 3)).map fun y => (x, y)
    else none

/-- The bytes of a point, with both residues. -/
def encode (c : Curve) (p : Nat × Nat) : Bytes :=
  4 :: (Bytes.ofNat c.width p.1 ++ Bytes.ofNat c.width p.2)

end Curve

end SpeedTest.Tls
