import SpeedTest.Json.Error
import SpeedTest.Text.Utf8

/-!
JSON texts: the quoted form of a list of characters, reading it back, and passing over it.

Reading keeps the decoded bytes and checks at the closing quote that they are UTF-8. Passing over a
text checks less: escapes must be well-formed, but neither surrogates nor bytes are looked at.
-/

namespace SpeedTest.Json

/-- The four hexadecimal digits of a number below `0x10000`. -/
def hexQuad (n : Nat) : Bytes :=
  [n / 0x1000 % 16, n / 0x100 % 16, n / 0x10 % 16, n % 16].map fun d =>
    UInt8.ofNat (if d < 10 then 0x30 + d else 0x57 + d)

/-- The character behind a backslash that stands for a control character, a quote or a
backslash. -/
def escapeLetter? (c : Char) : Option UInt8 :=
  match c.toNat with
  | 0x08 => some 0x62
  | 0x09 => some 0x74
  | 0x0A => some 0x6E
  | 0x0C => some 0x66
  | 0x0D => some 0x72
  | 0x22 => some 0x22
  | 0x5C => some 0x5C
  | _ => none

/-- One character between quotes. Only control characters, the quote and the backslash are
escaped. -/
def escapeChar (c : Char) : Bytes :=
  match escapeLetter? c with
  | some letter => [0x5C, letter]
  | none =>
    if c.toNat < 0x20 then 0x5C :: 0x75 :: hexQuad c.toNat else Utf8.encodeChar c

/-- A quoted text. -/
def renderText (cs : List Char) : Bytes := 0x22 :: (cs.flatMap escapeChar ++ [0x22])

/-- A fault at the byte after everything that was read. -/
def faultAfter {α : Type} (cause : Cause) (rest : Bytes) : Except Fault α :=
  .error ⟨cause, rest.length⟩

/-- A fault at the next byte, which was looked at and not read. -/
def faultAt {α : Type} (cause : Cause) (rest : Bytes) : Except Fault α :=
  .error ⟨cause, rest.length - 1⟩

/-- The value of a hexadecimal digit, in either case. -/
def hexValue? (b : UInt8) : Option Nat :=
  let n := b.toNat
  if 0x30 ≤ n ∧ n ≤ 0x39 then some (n - 0x30)
  else if 0x61 ≤ n ∧ n ≤ 0x66 then some (n - 0x57)
  else if 0x41 ≤ n ∧ n ≤ 0x46 then some (n - 0x37)
  else none

/-- Read four hexadecimal digits. -/
def readQuad : Bytes → Except Fault (Nat × Bytes)
  | a :: b :: c :: d :: rest =>
    match hexValue? a, hexValue? b, hexValue? c, hexValue? d with
    | some w, some x, some y, some z => .ok (0x1000 * w + 0x100 * x + 0x10 * y + z, rest)
    | _, _, _, _ => faultAfter .invalidEscape rest
  | _ => faultAfter .endInText []

/-- The byte for which a single letter behind a backslash stands. -/
def unescapeLetter? (b : UInt8) : Option UInt8 :=
  match b.toNat with
  | 0x22 => some 0x22
  | 0x5C => some 0x5C
  | 0x2F => some 0x2F
  | 0x62 => some 0x08
  | 0x66 => some 0x0C
  | 0x6E => some 0x0A
  | 0x72 => some 0x0D
  | 0x74 => some 0x09
  | _ => none

def isHighSurrogate (n : Nat) : Bool := 0xD800 ≤ n && n ≤ 0xDBFF

def isLowSurrogate (n : Nat) : Bool := 0xDC00 ≤ n && n ≤ 0xDFFF

/-- Read the second half of a surrogate pair, whose first half is `high`. -/
def readLowSurrogate (high : Nat) : Bytes → Except Fault (Bytes × Bytes)
  | [] => faultAfter .endInText []
  | [b] => if b = 0x5C then faultAfter .endInText [] else faultAfter .unfinishedEscape []
  | a :: b :: rest =>
    if a ≠ 0x5C then faultAfter .unfinishedEscape (b :: rest)
    else if b ≠ 0x75 then faultAfter .unfinishedEscape rest
    else
      match readQuad rest with
      | .error f => .error f
      | .ok (low, rest') =>
        if isLowSurrogate low then
          .ok (Utf8.encodeChar (Char.ofNat
            (0x10000 + 0x400 * (high - 0xD800) + (low - 0xDC00))), rest')
        else faultAfter .loneSurrogate rest'

/-- Read what stands behind a backslash: the bytes it stands for, and the rest. -/
def readEscape : Bytes → Except Fault (Bytes × Bytes)
  | [] => faultAfter .endInText []
  | b :: rest =>
    match unescapeLetter? b with
    | some c => .ok ([c], rest)
    | none =>
      if b = 0x75 then
        match readQuad rest with
        | .error f => .error f
        | .ok (n, rest') =>
          if isLowSurrogate n then faultAfter .loneSurrogate rest'
          else if isHighSurrogate n then readLowSurrogate n rest'
          else .ok (Utf8.encodeChar (Char.ofNat n), rest')
      else faultAfter .invalidEscape rest

theorem readQuad_length {input rest : Bytes} {n : Nat} (h : readQuad input = .ok (n, rest)) :
    rest.length < input.length := by
  unfold readQuad at h
  split at h
  · split at h
    · cases h; simp only [List.length_cons]; omega
    · simp [faultAfter] at h
  · simp [faultAfter] at h

theorem readLowSurrogate_length {input out rest : Bytes} {high : Nat}
    (h : readLowSurrogate high input = .ok (out, rest)) : rest.length < input.length := by
  unfold readLowSurrogate at h
  split at h
  · simp [faultAfter] at h
  · split at h <;> simp [faultAfter] at h
  · split at h
    · simp [faultAfter] at h
    · split at h
      · simp [faultAfter] at h
      · split at h
        · simp at h
        · rename_i hQuad
          split at h
          · simp only [Except.ok.injEq, Prod.mk.injEq] at h
            have := readQuad_length hQuad
            rw [← h.2]
            simp only [List.length_cons]; omega
          · simp [faultAfter] at h

theorem readEscape_length {input out rest : Bytes} (h : readEscape input = .ok (out, rest)) :
    rest.length < input.length := by
  unfold readEscape at h
  split at h
  · simp [faultAfter] at h
  · split at h
    · cases h; simp
    · split at h
      · split at h
        · simp at h
        · rename_i hq
          have hLess := readQuad_length hq
          split at h
          · simp [faultAfter] at h
          · split at h
            · have := readLowSurrogate_length h
              simp only [List.length_cons]; omega
            · cases h; simp only [List.length_cons]; omega
      · simp [faultAfter] at h

/-- Read up to the closing quote. `read` holds the bytes decoded so far, last first. -/
def takeText (read : Bytes) (input : Bytes) : Except Fault (Bytes × Bytes) :=
  match input with
  | [] => faultAfter .endInText []
  | b :: rest =>
    if b = 0x22 then .ok (read.reverse, rest)
    else if b = 0x5C then
      match _h : readEscape rest with
      | .error f => .error f
      | .ok (out, rest') => takeText (out.reverse ++ read) rest'
    else if b < 0x20 then faultAfter .controlCharacter rest
    else takeText (b :: read) rest
termination_by input.length
decreasing_by
  · have := readEscape_length _h
    simp only [List.length_cons]; omega
  · simp

/-- Read a text behind its opening quote. Decoded bytes that are not UTF-8 are a fault. Its place is
counted back from the closing quote in decoded bytes: without escapes it is the first of those that
belong to no character, and each escape before the end moves it to the right. -/
def readText (input : Bytes) : Except Fault (List Char × Bytes) :=
  match takeText [] input with
  | .error f => .error f
  | .ok (out, rest) =>
    match Utf8.decodeChars? out with
    | some cs => .ok (cs, rest)
    | none =>
      .error ⟨.invalidCodePoint, rest.length + (out.length - Utf8.validLength .start 0 0 out)⟩

/-- Pass over what stands behind a backslash. -/
def skipEscape : Bytes → Except Fault Bytes
  | [] => faultAfter .endInText []
  | b :: rest =>
    match unescapeLetter? b with
    | some _ => .ok rest
    | none =>
      if b = 0x75 then (readQuad rest).map Prod.snd else faultAfter .invalidEscape rest

theorem skipEscape_length {input rest : Bytes} (h : skipEscape input = .ok rest) :
    rest.length < input.length := by
  unfold skipEscape at h
  split at h
  · simp [faultAfter] at h
  · split at h
    · cases h; simp
    · split at h
      · rename_i tail _ _ _
        cases hq : readQuad tail with
        | error f => simp [hq, Except.map] at h
        | ok r =>
          have := @readQuad_length tail r.2 r.1 hq
          simp only [hq, Except.map] at h
          cases h
          simp only [List.length_cons]; omega
      · simp [faultAfter] at h

/-- Pass over a text behind its opening quote. -/
def skipText (input : Bytes) : Except Fault Bytes :=
  match input with
  | [] => faultAfter .endInText []
  | b :: rest =>
    if b = 0x22 then .ok rest
    else if b = 0x5C then
      match _h : skipEscape rest with
      | .error f => .error f
      | .ok rest' => skipText rest'
    else if b < 0x20 then faultAfter .controlCharacter (b :: rest)
    else skipText rest
termination_by input.length
decreasing_by
  · have := skipEscape_length _h
    simp only [List.length_cons]; omega
  · simp

theorem skipText_length {input rest : Bytes} (h : skipText input = .ok rest) :
    rest.length < input.length := by
  fun_induction skipText input with
  | case1 => simp [faultAfter] at h
  | case2 => cases h; simp
  | case3 => simp at h
  | case4 =>
    rename_i hEscape _ ih
    have hLess := skipEscape_length hEscape
    have := ih h
    simp only [List.length_cons]; omega
  | case5 => simp [faultAfter] at h
  | case6 =>
    rename_i ih
    have := ih h
    simp only [List.length_cons]; omega

end SpeedTest.Json
