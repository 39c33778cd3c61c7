import SpeedTest.Proofs.Json.Text

/-! The grammar of JSON: texts, numbers, names and the containers of values. A text is described
twice, as what may stand between two quotes and as the ways in which characters may be written
there; the second is the narrower, since half a surrogate pair stands for no character. -/

namespace SpeedTest.Json

/-- What may stand between two tokens. -/
def IsBlanks (w : Bytes) : Prop := ∀ b ∈ w, b = 0x20 ∨ b = 0x09 ∨ b = 0x0A ∨ b = 0x0D

theorem isBlanks_nil : IsBlanks [] := fun _ h => nomatch h

/-- A hexadecimal digit, in either case, and its value. -/
def IsHex (b : UInt8) (d : Nat) : Prop :=
  b.toNat = 0x30 + d ∧ d < 10 ∨
    10 ≤ d ∧ d < 16 ∧ (b.toNat + 10 = 0x41 + d ∨ b.toNat + 10 = 0x61 + d)

/-- Four hexadecimal digits and their number. -/
inductive IsQuad : Bytes → Nat → Prop
  | mk {a b c d : UInt8} {w x y z : Nat} :
      IsHex a w → IsHex b x → IsHex c y → IsHex d z →
      IsQuad [a, b, c, d] (0x1000 * w + 0x100 * x + 0x10 * y + z)

/-- The letters behind a backslash, each with the character that it stands for. -/
def letters : List (UInt8 × Char) :=
  [(0x22, '"'), (0x5C, '\\'), (0x2F, '/'), (0x62, '\x08'), (0x66, '\x0c'), (0x6E, '\n'),
    (0x72, '\r'), (0x74, '\t')]

/-- What may stand between the quotes of a text. An escaped number may be half of a surrogate pair
without the other half. -/
inductive IsText : Bytes → Prop
  | nil : IsText []
  | plain {b : UInt8} {t : Bytes} : IsPlain b → IsText t → IsText (b :: t)
  | letter {b : UInt8} {c : Char} {t : Bytes} :
      (b, c) ∈ letters → IsText t → IsText (0x5C :: b :: t)
  | number {q t : Bytes} {n : Nat} : IsQuad q n → IsText t → IsText (0x5C :: 0x75 :: (q ++ t))

/-- How characters may be written between quotes: as themselves, with a letter or a number behind a
backslash, or as the two halves of a surrogate pair. -/
inductive Spells : Bytes → List Char → Prop
  | nil : Spells [] []
  | plain {t : Bytes} {c : Char} {cs : List Char} :
      0x20 ≤ c.toNat → c.toNat ≠ 0x22 → c.toNat ≠ 0x5C → Spells t cs →
      Spells (Utf8.encodeChar c ++ t) (c :: cs)
  | letter {b : UInt8} {t : Bytes} {c : Char} {cs : List Char} :
      (b, c) ∈ letters → Spells t cs → Spells (0x5C :: b :: t) (c :: cs)
  | number {q t : Bytes} {c : Char} {cs : List Char} :
      IsQuad q c.toNat → Spells t cs → Spells (0x5C :: 0x75 :: (q ++ t)) (c :: cs)
  | pair {q q' t : Bytes} {high low : Nat} {c : Char} {cs : List Char} :
      IsQuad q high → 0xD800 ≤ high ∧ high ≤ 0xDBFF →
      IsQuad q' low → 0xDC00 ≤ low ∧ low ≤ 0xDFFF →
      c.toNat = 0x10000 + 0x400 * (high - 0xD800) + (low - 0xDC00) → Spells t cs →
      Spells (0x5C :: 0x75 :: (q ++ 0x5C :: 0x75 :: (q' ++ t))) (c :: cs)

/-- One digit or more. -/
def IsDigits (ds : Bytes) : Prop := ds ≠ [] ∧ ∀ d ∈ ds, Bytes.isDigit d = true

/-- The integer part of a number: zero, or digits that do not begin with zero. -/
def IsInteger (i : Bytes) : Prop := i = [0x30] ∨ IsDigits i ∧ i.head? ≠ some 0x30

def IsFraction (f : Bytes) : Prop := f = [] ∨ ∃ ds, IsDigits ds ∧ f = 0x2E :: ds

def IsExponent (e : Bytes) : Prop :=
  e = [] ∨ ∃ letter sign ds, (letter = 0x65 ∨ letter = 0x45) ∧
    (sign = [] ∨ sign = [0x2B] ∨ sign = [0x2D]) ∧ IsDigits ds ∧ e = letter :: (sign ++ ds)

inductive IsNumber : Bytes → Prop
  | mk {sign i f e : Bytes} : sign = [] ∨ sign = [0x2D] → IsInteger i → IsFraction f →
      IsExponent e → IsNumber (sign ++ (i ++ (f ++ e)))

/-- The name of a member with blanks around it and the colon behind it, when `Spelled` tells what
may stand between the quotes. -/
inductive IsKey (Spelled : Bytes → Prop) : Bytes → Prop
  | mk {w t w' : Bytes} : IsBlanks w → Spelled t → IsBlanks w' →
      IsKey Spelled (w ++ 0x22 :: (t ++ 0x22 :: (w' ++ [0x3A])))

mutual

/-- A value without blanks around it. -/
inductive IsValue : Bytes → Prop
  | null : IsValue [0x6E, 0x75, 0x6C, 0x6C]
  | true : IsValue [0x74, 0x72, 0x75, 0x65]
  | false : IsValue [0x66, 0x61, 0x6C, 0x73, 0x65]
  | number {n : Bytes} : IsNumber n → IsValue n
  | text {t : Bytes} : IsText t → IsValue (0x22 :: (t ++ [0x22]))
  | emptyList {w : Bytes} : IsBlanks w → IsValue (0x5B :: (w ++ [0x5D]))
  | list {es : Bytes} : IsElements es → IsValue (0x5B :: (es ++ [0x5D]))
  | emptyObject {w : Bytes} : IsBlanks w → IsValue (0x7B :: (w ++ [0x7D]))
  | object {ms : Bytes} : IsMembers ms → IsValue (0x7B :: (ms ++ [0x7D]))

/-- The elements of a list, with blanks around each. -/
inductive IsElements : Bytes → Prop
  | last {w v w' : Bytes} : IsBlanks w → IsValue v → IsBlanks w' → IsElements (w ++ (v ++ w'))
  | more {w v w' es : Bytes} : IsBlanks w → IsValue v → IsBlanks w' → IsElements es →
      IsElements (w ++ (v ++ (w' ++ 0x2C :: es)))

/-- The members of an object, with blanks around each name and each value. -/
inductive IsMembers : Bytes → Prop
  | last {k w v w' : Bytes} : IsKey IsText k → IsBlanks w → IsValue v → IsBlanks w' →
      IsMembers (k ++ (w ++ (v ++ w')))
  | more {k w v w' ms : Bytes} : IsKey IsText k → IsBlanks w → IsValue v → IsBlanks w' →
      IsMembers ms → IsMembers (k ++ (w ++ (v ++ (w' ++ 0x2C :: ms))))

end

theorem IsText.plains {bs t : Bytes} (hBs : ∀ b ∈ bs, IsPlain b) (ht : IsText t) :
    IsText (bs ++ t) := by
  induction bs with
  | nil => exact ht
  | cons b bs ih =>
      exact .plain (hBs b List.mem_cons_self) (ih fun b' h => hBs b' (List.mem_cons_of_mem b h))

theorem escapeLetter?_eq_none {c : Char} (hControl : 0x20 ≤ c.toNat) (hQuote : c.toNat ≠ 0x22)
    (hBackslash : c.toNat ≠ 0x5C) : escapeLetter? c = none := by
  unfold escapeLetter?
  split <;> first | omega | rfl

/-- The ways to write characters are texts. -/
theorem Spells.isText {t : Bytes} {cs : List Char} (h : Spells t cs) : IsText t := by
  induction h with
  | nil => exact .nil
  | plain hControl hQuote hBackslash _ ih =>
      exact ih.plains (isPlain_of_mem_encodeChar
        (escapeLetter?_eq_none hControl hQuote hBackslash) (Nat.not_lt.mpr hControl))
  | letter hLetter _ ih => exact .letter hLetter ih
  | number hQuad _ ih => exact .number hQuad ih
  | pair hQuad _ hQuad' _ _ _ ih => exact .number hQuad (.number hQuad' ih)

end SpeedTest.Json
