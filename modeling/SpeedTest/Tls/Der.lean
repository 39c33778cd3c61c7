import SpeedTest.Tls.Reader

/-!
Elements of certificates and keys: a tag, the length of the contents, and the contents. A length
stands in as few bytes as it can, and so does an integer.
-/

namespace SpeedTest.Tls.Der

def booleanTag : Nat := 0x01
def integerTag : Nat := 0x02
def bitStringTag : Nat := 0x03
def octetStringTag : Nat := 0x04
def nullTag : Nat := 0x05
def identifierTag : Nat := 0x06
def sequenceTag : Nat := 0x30

/-- The tag of a field with the given number that is not built of elements. -/
def plainTag (n : Nat) : Nat := 0x80 + n

/-- The tag of a field with the given number that is built of elements. -/
def fieldTag (n : Nat) : Nat := 0xA0 + n

/-- The most bytes that a length has behind the one with their number. -/
def maxLengthBytes : Nat := 4

/-- A length. -/
def length : Reader Nat := do
  let b ← Reader.number 1
  if b < 0x80 then return b
  else
    let count := b - 0x80
    if count = 0 || maxLengthBytes < count then failure
    let n ← Reader.number count
    if n < 0x80 || n >>> (8 * (count - 1)) = 0 then failure
    return n

/-- The contents of an element with the given tag. -/
def element (tag : Nat) : Reader Bytes := do
  if (← Reader.number 1) ≠ tag then failure
  Reader.bytes (← length)

/-- The contents of an element with the given tag, if there is one with this tag at the front. -/
def element? (tag : Nat) : Reader (Option Bytes) := fun input =>
  if input.head?.any (·.toNat == tag) then (element tag).map some input else some (none, input)

/-- The number that the contents of an integer stand for, if it is not negative. -/
def unsigned? (contents : Bytes) : Option Nat :=
  match contents with
  | [] => none
  | [b] => if b < 0x80 then some b.toNat else none
  | b :: c :: _ => if 0x80 ≤ b || (b = 0 && c < 0x80) then none else some (Bytes.toNat contents)

/-- An integer that is not negative. -/
def unsigned : Reader Nat := do StateT.lift (unsigned? (← element integerTag))

/-- The bytes of a bit string, of whose last byte no bit may be unused. -/
def bitString : Reader Bytes := do
  match ← element bitStringTag with
  | 0 :: bs => return bs
  | _ => failure

/-- The bytes of a number, as few as it takes. -/
def digits (n : Nat) : Bytes := Bytes.ofNat ((Nat.log2 n) / 8 + 1) n

/-- An element with the given tag and contents. -/
def encode (tag : Nat) (contents : Bytes) : Bytes :=
  let n := contents.length
  let size :=
    if n < 0x80 then [UInt8.ofNat n] else UInt8.ofNat (0x80 + (digits n).length) :: digits n
  UInt8.ofNat tag :: (size ++ contents)

/-- The integer that stands for a number. -/
def encodeUnsigned (n : Nat) : Bytes :=
  let ds := digits n
  encode integerTag (if ds.head?.any (0x80 ≤ ·) then 0 :: ds else ds)

/-- A bit string of whole bytes. -/
def encodeBitString (bs : Bytes) : Bytes := encode bitStringTag (0 :: bs)

end SpeedTest.Tls.Der
