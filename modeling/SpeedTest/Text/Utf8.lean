import SpeedTest.Bytes

/-!
UTF-8. Characters are written in their shortest form; reading accepts exactly the shortest forms of
the Unicode scalar values and can stop between any two bytes, so that a text may arrive in pieces.
-/

namespace SpeedTest.Utf8

/-- The UTF-8 form of one character. -/
def encodeChar (c : Char) : Bytes :=
  let n := c.toNat
  if n < 0x80 then [UInt8.ofNat n]
  else if n < 0x800 then [UInt8.ofNat (0xC0 + n / 0x40), UInt8.ofNat (0x80 + n % 0x40)]
  else if n < 0x10000 then
    [UInt8.ofNat (0xE0 + n / 0x1000), UInt8.ofNat (0x80 + n / 0x40 % 0x40),
      UInt8.ofNat (0x80 + n % 0x40)]
  else
    [UInt8.ofNat (0xF0 + n / 0x40000), UInt8.ofNat (0x80 + n / 0x1000 % 0x40),
      UInt8.ofNat (0x80 + n / 0x40 % 0x40), UInt8.ofNat (0x80 + n % 0x40)]

def encodeChars (cs : List Char) : Bytes := cs.flatMap encodeChar

def encode (s : String) : Bytes := encodeChars s.toList

/-- Where a reader stands: between two characters (`owed = 0`), or inside one, with `owed` bytes to
come, the next of them between `low` and `high`, and `code` the bits read so far. -/
structure Cursor where
  owed : Nat
  low : Nat
  high : Nat
  code : Nat
deriving Repr, DecidableEq

/-- Between two characters. -/
def Cursor.start : Cursor := ⟨0, 0x80, 0xBF, 0⟩

/-- The place after the first byte of a character of several bytes. -/
def Cursor.lead? (n : Nat) : Option Cursor :=
  if 0xC2 ≤ n ∧ n ≤ 0xDF then some ⟨1, 0x80, 0xBF, n - 0xC0⟩
  else if n = 0xE0 then some ⟨2, 0xA0, 0xBF, 0⟩
  else if n = 0xED then some ⟨2, 0x80, 0x9F, 0xD⟩
  else if 0xE1 ≤ n ∧ n ≤ 0xEF then some ⟨2, 0x80, 0xBF, n - 0xE0⟩
  else if n = 0xF0 then some ⟨3, 0x90, 0xBF, 0⟩
  else if n = 0xF4 then some ⟨3, 0x80, 0x8F, 4⟩
  else if 0xF1 ≤ n ∧ n ≤ 0xF3 then some ⟨3, 0x80, 0xBF, n - 0xF0⟩
  else none

/-- Read one byte: the new place and the character it completes, or nothing where no UTF-8 text
goes on with this byte. -/
def Cursor.feed? (p : Cursor) (b : UInt8) : Option (Cursor × Option Char) :=
  let n := b.toNat
  match p.owed with
  | 0 =>
    if n < 0x80 then some (.start, some (Char.ofNat n))
    else (Cursor.lead? n).map fun q => (q, none)
  | k + 1 =>
    if p.low ≤ n ∧ n ≤ p.high then
      let code := 0x40 * p.code + (n - 0x80)
      if k = 0 then some (.start, some (Char.ofNat code))
      else some (⟨k, 0x80, 0xBF, code⟩, none)
    else none

/-- Read a piece of a text. `read` holds the characters before it, last first. -/
def scan (p : Cursor) (read : List Char) : Bytes → Option (Cursor × List Char)
  | [] => some (p, read)
  | b :: rest =>
    match p.feed? b with
    | none => none
    | some (q, none) => scan q read rest
    | some (q, some c) => scan q (c :: read) rest

/-- The characters of a complete text, if the bytes are UTF-8. -/
def decodeChars? (bs : Bytes) : Option (List Char) :=
  match scan .start [] bs with
  | some (⟨0, _, _, _⟩, read) => some read.reverse
  | _ => none

def decode? (bs : Bytes) : Option String := (decodeChars? bs).map String.ofList

/-- The length of the longest part at the front of a text that consists of complete characters:
`whole` bytes of complete characters and `begun` bytes of one that is not complete yet were read
before. -/
def validLength (p : Cursor) (whole begun : Nat) : Bytes → Nat
  | [] => whole
  | b :: rest =>
    match p.feed? b with
    | none => whole
    | some (q, none) => validLength q whole (begun + 1) rest
    | some (q, some _) => validLength q (whole + begun + 1) 0 rest

/-- What stands for bytes that are no text. -/
def replacement : Char := '\uFFFD'

/-- The characters of a text in which every longest piece that cannot be part of UTF-8 is
replaced. -/
def decodeLossy (p : Cursor) : Bytes → List Char
  | [] => if p.owed = 0 then [] else [replacement]
  | b :: rest =>
    match p.feed? b with
    | some (q, none) => decodeLossy q rest
    | some (q, some c) => c :: decodeLossy q rest
    | none =>
      if p.owed = 0 then replacement :: decodeLossy .start rest
      else
        match Cursor.start.feed? b with
        | some (q, none) => replacement :: decodeLossy q rest
        | some (q, some c) => replacement :: c :: decodeLossy q rest
        | none => replacement :: replacement :: decodeLossy .start rest

end SpeedTest.Utf8
