import SpeedTest.Bytes

/-! Base64: three bytes written as four letters. -/

namespace SpeedTest.Base64

/-- The byte that fills up the last four letters. -/
def padding : UInt8 := 0x3D

/-- The letter for a number below 64. -/
def letter (n : Nat) : UInt8 :=
  UInt8.ofNat
    (if n < 26 then 0x41 + n
     else if n < 52 then 0x61 + (n - 26)
     else if n < 62 then 0x30 + (n - 52)
     else if n = 62 then 0x2B
     else 0x2F)

/-- The number that a letter stands for. -/
def value? (b : UInt8) : Option Nat :=
  let n := b.toNat
  if 0x41 ≤ n ∧ n ≤ 0x5A then some (n - 0x41)
  else if 0x61 ≤ n ∧ n ≤ 0x7A then some (n - 0x61 + 26)
  else if 0x30 ≤ n ∧ n ≤ 0x39 then some (n - 0x30 + 52)
  else if n = 0x2B then some 62
  else if n = 0x2F then some 63
  else none

/-- The letters of a number of 24 bits. -/
def letters (n : Nat) : Bytes :=
  [letter (n >>> 18 % 64), letter (n >>> 12 % 64), letter (n >>> 6 % 64), letter (n % 64)]

def encode : Bytes → Bytes
  | a :: b :: c :: rest => letters (Bytes.toNat [a, b, c]) ++ encode rest
  | [a, b] => (letters (Bytes.toNat [a, b, 0])).take 3 ++ [padding]
  | [a] => (letters (Bytes.toNat [a, 0, 0])).take 2 ++ [padding, padding]
  | [] => []

/-- Why a text is not base64. -/
inductive Fault where
  | character (byte : UInt8)
  /-- A filling byte stands in front of the last letters. -/
  | prematurePadding
  /-- The last letters do not end as letters may end. -/
  | trailingPadding
deriving Repr, DecidableEq

def Fault.message : Fault → String
  | character byte => "InvalidCharacter(" ++ toString byte.toNat ++ ")"
  | prematurePadding => "PrematurePadding"
  | trailingPadding => "InvalidTrailingPadding"

/-- White space, which may stand anywhere. -/
def isBlank (b : UInt8) : Bool := (0x09 ≤ b.toNat && b.toNat ≤ 0x0D) || b.toNat == 0x20

/-- The symbols of a text: the number for a letter, nothing for a filling byte. They end at the
first byte that is neither of these nor white space. -/
def symbols : Bytes → List (Option Nat) × Option Fault
  | [] => ([], none)
  | b :: rest =>
    if isBlank b then symbols rest
    else if b = padding then
      let (read, fault) := symbols rest
      (none :: read, fault)
    else
      match value? b with
      | none => ([], some (.character b))
      | some n =>
        let (read, fault) := symbols rest
        (some n :: read, fault)

/-- The three bytes of four numbers below 64. -/
def join (a b c d : Nat) : Bytes := Bytes.ofNat 3 (a <<< 18 + b <<< 12 + c <<< 6 + d)

/-- The bytes of four letters that others follow. -/
def inner (a b c d : Option Nat) : Except Fault Bytes :=
  match a, b, c, d with
  | some a, some b, some c, some d => .ok (join a b c d)
  | _, _, _, _ => .error .prematurePadding

/-- The bytes of the last letters. They may be filled up to four, or left as they are. What the last
letter holds beyond whole bytes does not matter. -/
def outer : List (Option Nat) → Except Fault Bytes
  | [] => .ok []
  | [some a, some b, some c, some d] => .ok (join a b c d)
  | [some a, some b, some c, none] | [some a, some b, some c] => .ok ((join a b c 0).take 2)
  | [some a, some b, none, none] | [some a, some b] => .ok ((join a b 0 0).take 1)
  | _ => .error .trailingPadding

/-- The bytes of all symbols, read eight at a time: padding among eight that another symbol follows
is premature even where those behind it cannot be read, which is what `fault` says. -/
def group (fault : Option Fault) : List (Option Nat) → Except Fault Bytes
  | a :: b :: c :: d :: e :: f :: g :: h :: i :: rest => do
    let front ← inner a b c d
    let back ← inner e f g h
    return front ++ back ++ (← group fault (i :: rest))
  | a :: b :: c :: d :: e :: rest =>
    match fault with
    | some fault => .error fault
    | none => do return (← inner a b c d) ++ (← outer (e :: rest))
  | last =>
    match fault with
    | some fault => .error fault
    | none => outer last

def decode (text : Bytes) : Except Fault Bytes :=
  let (read, fault) := symbols text
  group fault read

end SpeedTest.Base64
