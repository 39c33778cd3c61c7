/-! Byte strings, and the big-endian numbers in them. -/

namespace SpeedTest

abbrev Bytes := List UInt8

namespace Bytes

/-- The number whose big-endian digits to base 256 are `bs`. -/
def toNat (bs : Bytes) : Nat := bs.foldl (fun n b => 256 * n + b.toNat) 0

/-- The low `width` bytes of `n`, most significant first. -/
def ofNat (width n : Nat) : Bytes :=
  match width with
  | 0 => []
  | w + 1 => UInt8.ofNat (n >>> (8 * w)) :: ofNat w n

/-- The bytes of a text that holds ASCII characters only. -/
def ofAscii (s : String) : Bytes := s.toList.map fun c => UInt8.ofNat c.toNat

/-- ASCII capitals become small letters; every other byte stays. -/
def toLower (b : UInt8) : UInt8 := if 0x41 ≤ b ∧ b ≤ 0x5A then b + 0x20 else b

/-- Equality up to the case of ASCII letters. -/
def sameLetters (x y : Bytes) : Bool := x.map toLower == y.map toLower

def isDigit (b : UInt8) : Bool := 0x30 ≤ b && b ≤ 0x39

/-- Whether `x` opens with `lead`. -/
def startsWith (lead x : Bytes) : Bool := lead.isPrefixOf x

end Bytes

end SpeedTest
