import SpeedTest.Proofs.Json.Grammar

/-! Reading texts and passing over them. However its characters are written, a text is read as
these, and passed over up to its closing quote. Reading refuses some of what may be passed over, but
where it does not, both stop at the same place. -/

namespace SpeedTest.Json

theorem hexValue?_of_isHex {b : UInt8} {d : Nat} (h : IsHex b d) : hexValue? b = some d := by
  unfold IsHex at h
  simp only [hexValue?]
  split
  · simp only [Option.some.injEq]; omega
  · split
    · simp only [Option.some.injEq]; omega
    · rw [if_pos (by omega)]
      simp only [Option.some.injEq]; omega

theorem readQuad_append {q : Bytes} {n : Nat} (h : IsQuad q n) (rest : Bytes) :
    readQuad (q ++ rest) = .ok (n, rest) := by
  cases h with
  | mk ha hb hc hd =>
      simp only [List.cons_append, List.nil_append, readQuad, hexValue?_of_isHex ha,
        hexValue?_of_isHex hb, hexValue?_of_isHex hc, hexValue?_of_isHex hd]

theorem skipText_plain {b : UInt8} (h : IsPlain b) (rest : Bytes) :
    skipText (b :: rest) = skipText rest := by
  obtain ⟨hControl, hQuote, hBackslash⟩ := h
  rw [skipText, if_neg hQuote, if_neg hBackslash, if_neg (UInt8.not_lt.mpr hControl)]

theorem skipText_escape {input rest : Bytes} (h : skipEscape input = .ok rest) :
    skipText (0x5C :: input) = skipText rest := by
  rw [skipText, if_neg (by decide), if_pos rfl]
  split
  · rename_i hError
    rw [h] at hError
    cases hError
  · rename_i hOk
    rw [h] at hOk
    cases hOk
    rfl

theorem unescapeLetter?_letters {b : UInt8} {c : Char} (h : (b, c) ∈ letters) :
    ∃ out, unescapeLetter? b = some out ∧ Utf8.encodeChar c = [out] := by
  have hAll : ∀ l ∈ letters, unescapeLetter? l.1 = some (UInt8.ofNat l.2.toNat) ∧
      Utf8.encodeChar l.2 = [UInt8.ofNat l.2.toNat] := by
    decide
  exact ⟨_, hAll (b, c) h⟩

theorem skipEscape_letter {b : UInt8} {c : Char} (h : (b, c) ∈ letters) (rest : Bytes) :
    skipEscape (b :: rest) = .ok rest := by
  obtain ⟨out, hOut, -⟩ := unescapeLetter?_letters h
  simp [skipEscape, hOut]

theorem skipEscape_quad {input rest : Bytes} {n : Nat} (h : readQuad input = .ok (n, rest)) :
    skipEscape (0x75 :: input) = .ok rest := by
  simp [skipEscape, unescapeLetter?, h, Except.map]

/-- A text is passed over up to its closing quote. -/
theorem skipText_isText {t : Bytes} (h : IsText t) (rest : Bytes) :
    skipText (t ++ 0x22 :: rest) = .ok rest := by
  induction h with
  | nil => rw [List.nil_append, skipText, if_pos rfl]
  | plain hPlain _ ih => rw [List.cons_append, skipText_plain hPlain, ih]
  | letter hLetter _ ih =>
      rw [List.cons_append, List.cons_append, skipText_escape (skipEscape_letter hLetter _), ih]
  | number hQuad _ ih =>
      rw [List.cons_append, List.cons_append, List.append_assoc,
        skipText_escape (skipEscape_quad (readQuad_append hQuad _)), ih]

/-! ### Reading -/

theorem readEscape_letters {b : UInt8} {c : Char} (h : (b, c) ∈ letters) (rest : Bytes) :
    readEscape (b :: rest) = .ok (Utf8.encodeChar c, rest) := by
  obtain ⟨out, hOut, hCode⟩ := unescapeLetter?_letters h
  simp [readEscape, hOut, hCode]

theorem readEscape_number {q : Bytes} {c : Char} (h : IsQuad q c.toNat) (rest : Bytes) :
    readEscape (0x75 :: (q ++ rest)) = .ok (Utf8.encodeChar c, rest) := by
  have hRange := Utf8.toNat_range c
  have hLow : isLowSurrogate c.toNat = false := by simp [isLowSurrogate]; omega
  have hHigh : isHighSurrogate c.toNat = false := by simp [isHighSurrogate]; omega
  simp [readEscape, unescapeLetter?, readQuad_append h, hLow, hHigh, Char.ofNat_toNat]

theorem readEscape_pair {q q' : Bytes} {high low : Nat} {c : Char} (hQuad : IsQuad q high)
    (hHigh : 0xD800 ≤ high ∧ high ≤ 0xDBFF) (hQuad' : IsQuad q' low)
    (hLow : 0xDC00 ≤ low ∧ low ≤ 0xDFFF)
    (hCode : c.toNat = 0x10000 + 0x400 * (high - 0xD800) + (low - 0xDC00)) (rest : Bytes) :
    readEscape (0x75 :: (q ++ 0x5C :: 0x75 :: (q' ++ rest))) = .ok (Utf8.encodeChar c, rest) := by
  have hNotLow : isLowSurrogate high = false := by simp [isLowSurrogate]; omega
  have hIsHigh : isHighSurrogate high = true := by simp [isHighSurrogate]; omega
  have hIsLow : isLowSurrogate low = true := by simp [isLowSurrogate]; omega
  simp [readEscape, unescapeLetter?, readQuad_append hQuad, hNotLow, hIsHigh, readLowSurrogate,
    readQuad_append hQuad', hIsLow, ← hCode, Char.ofNat_toNat]

/-- However characters are written, their bytes are what is decoded. -/
theorem takeText_spells {t : Bytes} {cs : List Char} (h : Spells t cs) (read rest : Bytes) :
    takeText read (t ++ 0x22 :: rest) = .ok (read.reverse ++ Utf8.encodeChars cs, rest) := by
  induction h generalizing read with
  | nil => simp [takeText_quote, Utf8.encodeChars]
  | plain hControl hQuote hBackslash _ ih =>
      have hPlains := isPlain_of_mem_encodeChar
        (escapeLetter?_eq_none hControl hQuote hBackslash) (Nat.not_lt.mpr hControl)
      rw [List.append_assoc, takeText_plains hPlains, ih]
      simp [Utf8.encodeChars]
  | letter hLetter _ ih =>
      rw [List.cons_append, List.cons_append, takeText_escape (readEscape_letters hLetter _), ih]
      simp [Utf8.encodeChars]
  | number hQuad _ ih =>
      rw [List.cons_append, List.cons_append, List.append_assoc,
        takeText_escape (readEscape_number hQuad _), ih]
      simp [Utf8.encodeChars]
  | pair hQuad hHigh hQuad' hLow hCode _ ih =>
      simp only [List.cons_append, List.append_assoc]
      rw [takeText_escape (readEscape_pair hQuad hHigh hQuad' hLow hCode _), ih]
      simp [Utf8.encodeChars]

/-- A text is read as its characters, however they are written. -/
theorem readText_spells {t : Bytes} {cs : List Char} (h : Spells t cs) (rest : Bytes) :
    readText (t ++ 0x22 :: rest) = .ok (cs, rest) := by
  rw [readText, takeText_spells h, List.reverse_nil, List.nil_append]
  simp only [Utf8.decodeChars?_encodeChars]

/-! ### Reading and passing over -/

/-- The second half of a pair, which reading takes together with the first, is an escape of its own
for passing over. -/
theorem skipText_of_readLowSurrogate {high : Nat} {input out rest : Bytes}
    (h : readLowSurrogate high input = .ok (out, rest)) : skipText input = skipText rest := by
  unfold readLowSurrogate at h
  split at h
  · cases h
  · split at h <;> cases h
  · rename_i a b tail
    by_cases ha : a = 0x5C
    · by_cases hb : b = 0x75
      · subst ha hb
        rw [if_neg (by decide), if_neg (by decide)] at h
        split at h
        · cases h
        · rename_i hQuad
          split at h
          · simp only [Except.ok.injEq, Prod.mk.injEq] at h
            rw [skipText_escape (skipEscape_quad hQuad), h.2]
          · cases h
      · rw [if_neg fun hNe => hNe ha, if_pos hb] at h
        cases h
    · rw [if_pos ha] at h
      cases h

theorem skipText_of_readEscape {input out rest : Bytes} (h : readEscape input = .ok (out, rest)) :
    skipText (0x5C :: input) = skipText rest := by
  unfold readEscape at h
  split at h
  · cases h
  · rename_i b tail
    split at h
    · rename_i c hLetter
      cases h
      exact skipText_escape (by simp [skipEscape, hLetter])
    · split at h
      · rename_i hNumber
        subst hNumber
        split at h
        · cases h
        · rename_i n tail' hQuad
          have hSkip := skipText_escape (skipEscape_quad hQuad)
          split at h
          · cases h
          · split at h
            · exact hSkip.trans (skipText_of_readLowSurrogate h)
            · cases h
              exact hSkip
      · cases h

theorem skipText_of_takeText {read input out rest : Bytes}
    (h : takeText read input = .ok (out, rest)) : skipText input = .ok rest := by
  fun_induction takeText read input with
  | case1 => cases h
  | case2 =>
      cases h
      rw [skipText, if_pos rfl]
  | case3 => cases h
  | case4 =>
      rename_i hEscape _ ih
      exact (skipText_of_readEscape hEscape).trans (ih h)
  | case5 => cases h
  | case6 =>
      rename_i hQuote hBackslash hControl ih
      exact (skipText_plain ⟨UInt8.not_lt.mp hControl, hQuote, hBackslash⟩ _).trans (ih h)

/-- A text that can be read ends where passing over it ends. -/
theorem rest_of_readText {t rest tail : Bytes} {cs : List Char} (ht : IsText t)
    (h : readText (t ++ 0x22 :: rest) = .ok (cs, tail)) : tail = rest := by
  unfold readText at h
  split at h
  · cases h
  · rename_i hTake
    split at h
    · cases h
      have hSkip := (skipText_isText ht rest).symm.trans (skipText_of_takeText hTake)
      exact (Except.ok.inj hSkip).symm
    · cases h

end SpeedTest.Json
