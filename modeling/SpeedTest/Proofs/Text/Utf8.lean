import SpeedTest.Text.Utf8

/-! Texts as bytes and back. Every character in its shortest form is read as itself, one byte at a
time, so that no text is lost or confused with another. -/

namespace SpeedTest.Utf8

/-- Characters are the numbers below `0x110000` that are no surrogates. -/
theorem toNat_range (c : Char) :
    c.toNat < 0xD800 ∨ 0xDFFF < c.toNat ∧ c.toNat < 0x110000 := c.valid

theorem encodeChar_of_lt {c : Char} (h : c.toNat < 0x80) :
    encodeChar c = [UInt8.ofNat c.toNat] := by
  simp only [encodeChar, if_pos h]

/-- A character that is not ASCII shares no byte with those that are. -/
theorem le_of_mem_encodeChar {c : Char} (h : 0x80 ≤ c.toNat) :
    ∀ b ∈ encodeChar c, 0x80 ≤ b.toNat := by
  have hRange := toNat_range c
  have hByte {n : Nat} (hLow : 0x80 ≤ n) (hHigh : n < 0x100) : 0x80 ≤ (UInt8.ofNat n).toNat := by
    rw [UInt8.toNat_ofNat_of_lt' hHigh]
    exact hLow
  intro b hb
  simp only [encodeChar, if_neg (Nat.not_lt.mpr h)] at hb
  by_cases hTwo : c.toNat < 0x800
  · simp only [if_pos hTwo, List.mem_cons, List.not_mem_nil, or_false] at hb
    rcases hb with rfl | rfl <;> exact hByte (by omega) (by omega)
  by_cases hThree : c.toNat < 0x10000
  · simp only [if_neg hTwo, if_pos hThree, List.mem_cons, List.not_mem_nil, or_false] at hb
    rcases hb with rfl | rfl | rfl <;> exact hByte (by omega) (by omega)
  · simp only [if_neg hTwo, if_neg hThree, List.mem_cons, List.not_mem_nil, or_false] at hb
    rcases hb with rfl | rfl | rfl | rfl <;> exact hByte (by omega) (by omega)

section Scan

variable {read : List Char} {rest : Bytes}

theorem scan_ascii {n : Nat} (h : n < 0x80) :
    scan .start read (UInt8.ofNat n :: rest) = scan .start (Char.ofNat n :: read) rest := by
  have hByte : (UInt8.ofNat n).toNat = n := UInt8.toNat_ofNat_of_lt' (Nat.lt_trans h (by decide))
  simp only [scan, Cursor.feed?, Cursor.start, hByte, if_pos h]

/-- The first byte of a character of several bytes. -/
theorem scan_lead {n : Nat} {q : Cursor} (hLow : 0x80 ≤ n) (hHigh : n < 0x100)
    (hLead : Cursor.lead? n = some q) :
    scan .start read (UInt8.ofNat n :: rest) = scan q read rest := by
  have hByte : (UInt8.ofNat n).toNat = n := UInt8.toNat_ofNat_of_lt' hHigh
  simp only [scan, Cursor.feed?, Cursor.start, hByte, if_neg (Nat.not_lt.mpr hLow), hLead,
    Option.map_some]

/-- A byte behind the first that is not the last. -/
theorem scan_tail {owed low high code x : Nat} (hx : x < 0x40) (hLow : low ≤ 0x80 + x)
    (hHigh : 0x80 + x ≤ high) :
    scan ⟨owed + 2, low, high, code⟩ read (UInt8.ofNat (0x80 + x) :: rest) =
      scan ⟨owed + 1, 0x80, 0xBF, 0x40 * code + x⟩ read rest := by
  simp only [scan, Cursor.feed?, UInt8.toNat_ofNat_of_lt' (show 0x80 + x < 0x100 by omega),
    if_pos (And.intro hLow hHigh), Nat.add_sub_cancel_left, Nat.succ_ne_zero, if_false]

/-- The last byte completes its character. -/
theorem scan_last {low high code x : Nat} (hx : x < 0x40) (hLow : low ≤ 0x80 + x)
    (hHigh : 0x80 + x ≤ high) :
    scan ⟨1, low, high, code⟩ read (UInt8.ofNat (0x80 + x) :: rest) =
      scan .start (Char.ofNat (0x40 * code + x) :: read) rest := by
  simp only [scan, Cursor.feed?, UInt8.toNat_ofNat_of_lt' (show 0x80 + x < 0x100 by omega),
    if_pos (And.intro hLow hHigh), Nat.add_sub_cancel_left, if_true]

/-- The first byte of three. The second must rule out longer forms and surrogates. -/
theorem lead?_three {n : Nat} (hLow : 0x800 ≤ n) (hHigh : n < 0x10000)
    (hScalar : n < 0xD800 ∨ 0xDFFF < n) :
    ∃ low high, Cursor.lead? (0xE0 + n / 0x1000) = some ⟨2, low, high, n / 0x1000⟩ ∧
      low ≤ 0x80 + n / 0x40 % 0x40 ∧ 0x80 + n / 0x40 % 0x40 ≤ high := by
  unfold Cursor.lead?
  rw [if_neg (by omega)]
  by_cases hFirst : n / 0x1000 = 0
  · exact ⟨0xA0, 0xBF, by rw [if_pos (by omega), hFirst], by omega, by omega⟩
  rw [if_neg (by omega)]
  by_cases hSurrogates : n / 0x1000 = 0xD
  · exact ⟨0x80, 0x9F, by rw [if_pos (by omega), hSurrogates], by omega, by omega⟩
  · refine ⟨0x80, 0xBF, ?_, by omega, by omega⟩
    rw [if_neg (by omega), if_pos (by omega), Nat.add_sub_cancel_left]

/-- The first byte of four. The second must rule out longer forms and numbers that are too large. -/
theorem lead?_four {n : Nat} (hLow : 0x10000 ≤ n) (hHigh : n < 0x110000) :
    ∃ low high, Cursor.lead? (0xF0 + n / 0x40000) = some ⟨3, low, high, n / 0x40000⟩ ∧
      low ≤ 0x80 + n / 0x1000 % 0x40 ∧ 0x80 + n / 0x1000 % 0x40 ≤ high := by
  unfold Cursor.lead?
  rw [if_neg (by omega), if_neg (by omega), if_neg (by omega), if_neg (by omega)]
  by_cases hFirst : n / 0x40000 = 0
  · exact ⟨0x90, 0xBF, by rw [if_pos (by omega), hFirst], by omega, by omega⟩
  rw [if_neg (by omega)]
  by_cases hLast : n / 0x40000 = 4
  · exact ⟨0x80, 0x8F, by rw [if_pos (by omega), hLast], by omega, by omega⟩
  · refine ⟨0x80, 0xBF, ?_, by omega, by omega⟩
    rw [if_neg (by omega), if_pos (by omega), Nat.add_sub_cancel_left]

/-- A character that has been written is read as itself. -/
theorem scan_encodeChar (c : Char) :
    scan .start read (encodeChar c ++ rest) = scan .start (c :: read) rest := by
  have hRange := toNat_range c
  have hChar {m : Nat} (h : m = c.toNat) : Char.ofNat m = c := by rw [h, Char.ofNat_toNat]
  by_cases hOne : c.toNat < 0x80
  · rw [encodeChar_of_lt hOne, List.singleton_append, scan_ascii hOne, hChar rfl]
  simp only [encodeChar, if_neg hOne]
  by_cases hTwo : c.toNat < 0x800
  · rw [if_pos hTwo]
    have hLead : Cursor.lead? (0xC0 + c.toNat / 0x40) = some ⟨1, 0x80, 0xBF, c.toNat / 0x40⟩ := by
      rw [Cursor.lead?, if_pos (by omega), Nat.add_sub_cancel_left]
    simp only [List.cons_append, List.nil_append]
    rw [scan_lead (by omega) (by omega) hLead, scan_last (by omega) (by omega) (by omega),
      hChar (by omega)]
  by_cases hThree : c.toNat < 0x10000
  · rw [if_neg hTwo, if_pos hThree]
    obtain ⟨low, high, hLead, hLow, hHigh⟩ := lead?_three (Nat.not_lt.mp hTwo) hThree (by omega)
    simp only [List.cons_append, List.nil_append]
    rw [scan_lead (by omega) (by omega) hLead, scan_tail (by omega) hLow hHigh,
      scan_last (by omega) (by omega) (by omega), hChar (by omega)]
  · rw [if_neg hTwo, if_neg hThree]
    obtain ⟨low, high, hLead, hLow, hHigh⟩ := lead?_four (n := c.toNat) (by omega) (by omega)
    simp only [List.cons_append, List.nil_append]
    rw [scan_lead (by omega) (by omega) hLead, scan_tail (by omega) hLow hHigh,
      scan_tail (by omega) (by omega) (by omega), scan_last (by omega) (by omega) (by omega),
      hChar (by omega)]

theorem scan_encodeChars (cs : List Char) :
    scan .start read (encodeChars cs ++ rest) = scan .start (cs.reverse ++ read) rest := by
  induction cs generalizing read with
  | nil => rfl
  | cons c cs ih =>
      rw [encodeChars, List.flatMap_cons, List.append_assoc, scan_encodeChar]
      rw [← encodeChars, ih, List.reverse_cons, List.append_assoc, List.singleton_append]

end Scan

/-- A text that has been written is read back. -/
theorem decodeChars?_encodeChars (cs : List Char) : decodeChars? (encodeChars cs) = some cs := by
  have hScan : scan .start [] (encodeChars cs ++ []) = scan .start (cs.reverse ++ []) [] :=
    scan_encodeChars cs
  rw [List.append_nil, List.append_nil] at hScan
  rw [decodeChars?, hScan]
  simp [scan, Cursor.start]

end SpeedTest.Utf8
