import SpeedTest.Json.Text
import SpeedTest.Proofs.Text.Utf8

/-! Quoted texts and back. Whatever characters a text holds, its quoted form is read as that text,
and reading stops right behind the closing quote. -/

namespace SpeedTest.Json

/-- A byte that stands for itself between quotes. -/
def IsPlain (b : UInt8) : Prop := 0x20 ≤ b ∧ b ≠ 0x22 ∧ b ≠ 0x5C

section Take

variable {read rest : Bytes}

theorem takeText_quote : takeText read (0x22 :: rest) = .ok (read.reverse, rest) := by
  rw [takeText, if_pos rfl]

theorem takeText_plain {b : UInt8} (h : IsPlain b) :
    takeText read (b :: rest) = takeText (b :: read) rest := by
  obtain ⟨hControl, hQuote, hBackslash⟩ := h
  rw [takeText, if_neg hQuote, if_neg hBackslash, if_neg (UInt8.not_lt.mpr hControl)]

theorem takeText_plains {bs : Bytes} (h : ∀ b ∈ bs, IsPlain b) :
    takeText read (bs ++ rest) = takeText (bs.reverse ++ read) rest := by
  induction bs generalizing read with
  | nil => rfl
  | cons b bs ih =>
      rw [List.cons_append, takeText_plain (h b List.mem_cons_self),
        ih fun b' hb' => h b' (List.mem_cons_of_mem b hb')]
      rw [List.reverse_cons, List.append_assoc, List.singleton_append]

theorem takeText_escape {input out : Bytes} (h : readEscape input = .ok (out, rest)) :
    takeText read (0x5C :: input) = takeText (out.reverse ++ read) rest := by
  rw [takeText, if_neg (by decide), if_pos rfl]
  split
  · rename_i hError
    rw [h] at hError
    cases hError
  · rename_i hOk
    rw [h] at hOk
    cases hOk
    rfl

end Take

theorem hexValue?_digit {d : Nat} (h : d < 16) :
    hexValue? (UInt8.ofNat (if d < 10 then 0x30 + d else 0x57 + d)) = some d := by
  have hAll : ∀ d < 16,
      hexValue? (UInt8.ofNat (if d < 10 then 0x30 + d else 0x57 + d)) = some d := by
    decide
  exact hAll d h

/-- Four hexadecimal digits give a number of 16 bits back. -/
theorem readQuad_hexQuad {n : Nat} (h : n < 0x10000) (rest : Bytes) :
    readQuad (hexQuad n ++ rest) = .ok (n, rest) := by
  have hDigit (m : Nat) := hexValue?_digit (Nat.mod_lt m (show 0 < 16 by decide))
  simp only [hexQuad, List.map_cons, List.map_nil, List.cons_append, List.nil_append, readQuad,
    hDigit]
  congr 2
  omega

/-- The escapes of one letter stand for the characters that they were made from. -/
theorem readEscape_letter {c : Char} {letter : UInt8} (h : escapeLetter? c = some letter)
    (rest : Bytes) : readEscape (letter :: rest) = .ok (Utf8.encodeChar c, rest) := by
  unfold escapeLetter? at h
  split at h
  case h_8 => cases h
  all_goals
    rename_i hCode
    cases h
    simp [readEscape, unescapeLetter?, Utf8.encodeChar, hCode]

/-- The escape of a control character by its number. -/
theorem readEscape_control {c : Char} (h : c.toNat < 0x20) (rest : Bytes) :
    readEscape (0x75 :: (hexQuad c.toNat ++ rest)) = .ok (Utf8.encodeChar c, rest) := by
  have hLow : isLowSurrogate c.toNat = false := by simp [isLowSurrogate]; omega
  have hHigh : isHighSurrogate c.toNat = false := by simp [isHighSurrogate]; omega
  simp [readEscape, unescapeLetter?, readQuad_hexQuad (Nat.lt_trans h (by decide)), hLow, hHigh,
    Char.ofNat_toNat]

/-- The bytes of a character that needs no escape stand for themselves. -/
theorem isPlain_of_mem_encodeChar {c : Char} (hLetter : escapeLetter? c = none)
    (hControl : ¬ c.toNat < 0x20) : ∀ b ∈ Utf8.encodeChar c, IsPlain b := by
  have hQuote : c.toNat ≠ 0x22 := fun h => by simp [escapeLetter?, h] at hLetter
  have hBackslash : c.toNat ≠ 0x5C := fun h => by simp [escapeLetter?, h] at hLetter
  have hPlain {b : UInt8} (hLow : 0x20 ≤ b.toNat) (hQuote : b.toNat ≠ 0x22)
      (hBackslash : b.toNat ≠ 0x5C) : IsPlain b :=
    ⟨UInt8.le_iff_toNat_le.mpr hLow, fun h => hQuote (h ▸ rfl), fun h => hBackslash (h ▸ rfl)⟩
  intro b hb
  by_cases hAscii : c.toNat < 0x80
  · rw [Utf8.encodeChar_of_lt hAscii, List.mem_singleton] at hb
    have hCode : b.toNat = c.toNat := by
      rw [hb]
      exact UInt8.toNat_ofNat_of_lt' (Nat.lt_trans hAscii (by decide))
    exact hPlain (by omega) (by omega) (by omega)
  · have hLarge := Utf8.le_of_mem_encodeChar (Nat.not_lt.mp hAscii) b hb
    exact hPlain (by omega) (by omega) (by omega)

/-- A character between quotes is read as itself, however it is written. -/
theorem takeText_escapeChar (c : Char) (read rest : Bytes) :
    takeText read (escapeChar c ++ rest) =
      takeText ((Utf8.encodeChar c).reverse ++ read) rest := by
  unfold escapeChar
  split
  · rename_i letter hLetter
    exact takeText_escape (readEscape_letter hLetter rest)
  · rename_i hLetter
    by_cases hControl : c.toNat < 0x20
    · rw [if_pos hControl]
      exact takeText_escape (readEscape_control hControl rest)
    · rw [if_neg hControl]
      exact takeText_plains (isPlain_of_mem_encodeChar hLetter hControl)

theorem length_escapeChar_le (c : Char) : (escapeChar c).length ≤ 6 := by
  unfold escapeChar
  split
  · simp
  · split
    · simp [hexQuad]
    · unfold Utf8.encodeChar
      dsimp only
      repeat' split
      all_goals simp

theorem takeText_flatMap_escapeChar (cs : List Char) (read rest : Bytes) :
    takeText read (cs.flatMap escapeChar ++ 0x22 :: rest) =
      .ok (read.reverse ++ Utf8.encodeChars cs, rest) := by
  induction cs generalizing read with
  | nil => simp [takeText_quote, Utf8.encodeChars]
  | cons c cs ih =>
      rw [List.flatMap_cons, List.append_assoc, takeText_escapeChar, ih]
      simp [Utf8.encodeChars]

/-- A text that has been quoted is read back, and whatever follows the closing quote is left. -/
theorem readText_flatMap_escapeChar (cs : List Char) (rest : Bytes) :
    readText (cs.flatMap escapeChar ++ 0x22 :: rest) = .ok (cs, rest) := by
  rw [readText, takeText_flatMap_escapeChar, List.reverse_nil, List.nil_append]
  simp only [Utf8.decodeChars?_encodeChars]

end SpeedTest.Json
