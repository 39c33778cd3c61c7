import SpeedTest.Bytes

/-! The hash function SHA-1, on messages of whole bytes. -/

namespace SpeedTest.Sha1

/-- The five words that a message turns into one block at a time. -/
structure State where
  a : UInt32
  b : UInt32
  c : UInt32
  d : UInt32
  e : UInt32
deriving Repr, DecidableEq

/-- The words in front of the first block. -/
def State.initial : State := ⟨0x67452301, 0xEFCDAB89, 0x98BADCFE, 0x10325476, 0xC3D2E1F0⟩

def rotateLeft (x : UInt32) (n : UInt32) : UInt32 := (x <<< n) ||| (x >>> (32 - n))

/-- The bytes of a block. -/
def blockLength : Nat := 64

/-- The message with a one bit, zeros, and its length in bits behind it, in whole blocks. -/
def pad (message : Bytes) : Bytes :=
  let zeros := (blockLength - (message.length + 9) % blockLength) % blockLength
  message ++ 0x80 :: (List.replicate zeros 0 ++ Bytes.ofNat 8 (8 * message.length))

/-- The words of a block, four bytes each, most significant first. -/
def words : Bytes → List UInt32
  | a :: b :: c :: d :: rest => UInt32.ofNat (Bytes.toNat [a, b, c, d]) :: words rest
  | _ => []

/-- Lengthen the schedule by one word. `recent` holds the words so far, last first. -/
def nextWord (recent : List UInt32) : UInt32 :=
  rotateLeft (recent.getD 2 0 ^^^ recent.getD 7 0 ^^^ recent.getD 13 0 ^^^ recent.getD 15 0) 1

/-- The schedule of a block: its sixteen words and 64 more. -/
def schedule (block : Bytes) : List UInt32 :=
  let first := (words block).reverse
  ((List.range 64).foldl (fun recent _ => nextWord recent :: recent) first).reverse

/-- The function and the constant of a round. -/
def mix (round : Nat) (b c d : UInt32) : UInt32 × UInt32 :=
  if round < 20 then ((b &&& c) ||| (~~~b &&& d), 0x5A827999)
  else if round < 40 then (b ^^^ c ^^^ d, 0x6ED9EBA1)
  else if round < 60 then ((b &&& c) ||| (b &&& d) ||| (c &&& d), 0x8F1BBCDC)
  else (b ^^^ c ^^^ d, 0xCA62C1D6)

def step (s : State) (round : Nat) (word : UInt32) : State :=
  let (f, k) := mix round s.b s.c s.d
  ⟨rotateLeft s.a 5 + f + s.e + k + word, s.a, rotateLeft s.b 30, s.c, s.d⟩

/-- Take in a block. -/
def absorb (s : State) (block : Bytes) : State :=
  let t := (schedule block).zipIdx.foldl (fun t (word, round) => step t round word) s
  ⟨s.a + t.a, s.b + t.b, s.c + t.c, s.d + t.d, s.e + t.e⟩

/-- Take in the given number of blocks. -/
def absorbAll (blocks : Nat) (s : State) (input : Bytes) : State :=
  match blocks with
  | 0 => s
  | n + 1 => absorbAll n (absorb s (input.take blockLength)) (input.drop blockLength)

/-- The twenty bytes of the hash of a message. -/
def digest (message : Bytes) : Bytes :=
  let input := pad message
  let s := absorbAll (input.length / blockLength) .initial input
  [s.a, s.b, s.c, s.d, s.e].flatMap fun w => Bytes.ofNat 4 w.toNat

end SpeedTest.Sha1
