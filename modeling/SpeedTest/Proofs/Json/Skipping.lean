import SpeedTest.Json.Skip
import SpeedTest.Proofs.Json.Spelling

/-! Passing over what the grammar derives. A value of any kind and any depth is passed over up to
its last byte, whatever containers are open around it. -/

namespace SpeedTest.Json

/-! ### Blanks -/

theorem skipBlank_cons {b : UInt8} (h : isBlank b = false) (rest : Bytes) :
    skipBlank (b :: rest) = b :: rest := by
  simp [skipBlank, h]

theorem skipBlank_append {w : Bytes} (h : IsBlanks w) (rest : Bytes) :
    skipBlank (w ++ rest) = skipBlank rest := by
  refine List.dropWhile_append_of_pos fun b hb => ?_
  obtain rfl | rfl | rfl | rfl := h b hb <;> rfl

theorem skipBlank_append_cons {w : Bytes} (hw : IsBlanks w) {b : UInt8} (hb : isBlank b = false)
    (rest : Bytes) : skipBlank (w ++ b :: rest) = b :: rest :=
  (skipBlank_append hw _).trans (skipBlank_cons hb rest)

/-! ### Numbers -/

/-- What may stand behind a number: anything that does not carry it on. -/
def Ends (rest : Bytes) : Prop :=
  ∀ b ∈ rest.head?, Bytes.isDigit b = false ∧ b ≠ 0x2E ∧ b ≠ 0x65 ∧ b ≠ 0x45

theorem skipDigits_append {ds rest : Bytes} (h : ∀ d ∈ ds, Bytes.isDigit d = true)
    (hRest : atDigit rest = false) : skipDigits (ds ++ rest) = rest := by
  rw [skipDigits, List.dropWhile_append_of_pos h]
  cases rest with
  | nil => rfl
  | cons b rest => exact List.dropWhile_cons_of_neg (by simpa [atDigit] using hRest)

theorem Ends.atDigit {rest : Bytes} (h : Ends rest) : atDigit rest = false := by
  cases rest with
  | nil => rfl
  | cons b rest => exact (h b rfl).1

theorem Ends.atExponent {rest : Bytes} (h : Ends rest) : atExponent rest = false := by
  cases rest with
  | nil => rfl
  | cons b rest =>
      obtain ⟨-, -, hSmall, hLarge⟩ := h b rfl
      simp [Json.atExponent, hSmall, hLarge]

theorem skipExponentPart_append {e rest : Bytes} (h : IsExponent e) (hEnds : Ends rest) :
    skipExponentPart (e ++ rest) = .ok rest := by
  obtain rfl | ⟨letter, sign, ds, hLetter, hSign, ⟨hSome, hDigits⟩, rfl⟩ := h
  · rw [List.nil_append, skipExponentPart, hEnds.atExponent]
    rfl
  · obtain ⟨d, ds, rfl⟩ := List.exists_cons_of_ne_nil hSome
    have hDigit := hDigits d List.mem_cons_self
    have hTail := skipDigits_append (fun d' h => hDigits d' (List.mem_cons_of_mem d h))
      hEnds.atDigit
    have hSkipped : skipSign (sign ++ d :: (ds ++ rest)) = d :: (ds ++ rest) := by
      obtain rfl | rfl | rfl := hSign
      · have hPlus : d ≠ 0x2B := by rintro rfl; simp [Bytes.isDigit] at hDigit
        have hMinus : d ≠ 0x2D := by rintro rfl; simp [Bytes.isDigit] at hDigit
        simp [skipSign, hPlus, hMinus]
      · rfl
      · rfl
    have hAt : atExponent (letter :: (sign ++ d :: ds) ++ rest) = true := by
      obtain rfl | rfl := hLetter <;> rfl
    rw [skipExponentPart, if_pos hAt]
    simp only [List.cons_append, List.append_assoc, List.tail_cons, skipExponent, hSkipped, hDigit,
      if_true, hTail]

/-- The head of what may follow the integer part of a number is no digit. -/
theorem atDigit_exponent {e rest : Bytes} (h : IsExponent e) (hEnds : Ends rest) :
    atDigit (e ++ rest) = false := by
  obtain rfl | ⟨letter, sign, ds, hLetter, -, -, rfl⟩ := h
  · exact hEnds.atDigit
  · obtain rfl | rfl := hLetter <;> rfl

theorem atDigit_fraction {f e rest : Bytes} (hFraction : IsFraction f) (hExponent : IsExponent e)
    (hEnds : Ends rest) : atDigit (f ++ (e ++ rest)) = false := by
  obtain rfl | ⟨ds, -, rfl⟩ := hFraction
  · rw [List.nil_append]
    exact atDigit_exponent hExponent hEnds
  · rfl

theorem skipFraction_of_ne {input : Bytes} (h : ∀ b ∈ input.head?, b ≠ 0x2E) :
    skipFraction input = skipExponentPart input := by
  cases input with
  | nil => rfl
  | cons b rest => rw [skipFraction, if_neg (h b rfl)]

theorem skipFraction_append {f e rest : Bytes} (hFraction : IsFraction f)
    (hExponent : IsExponent e) (hEnds : Ends rest) :
    skipFraction (f ++ (e ++ rest)) = .ok rest := by
  obtain rfl | ⟨ds, ⟨hSome, hDigits⟩, rfl⟩ := hFraction
  · rw [List.nil_append, skipFraction_of_ne, skipExponentPart_append hExponent hEnds]
    obtain rfl | ⟨letter, sign, ds, hLetter, -, -, rfl⟩ := hExponent
    · exact fun b hb => (hEnds b hb).2.1
    · rintro b ⟨⟩
      obtain rfl | rfl := hLetter <;> decide
  · have hAt : atDigit (ds ++ (e ++ rest)) = true := by
      obtain ⟨d, ds, rfl⟩ := List.exists_cons_of_ne_nil hSome
      exact hDigits d List.mem_cons_self
    rw [List.cons_append, skipFraction, if_pos rfl, if_pos hAt,
      skipDigits_append hDigits (atDigit_exponent hExponent hEnds),
      skipExponentPart_append hExponent hEnds]

theorem skipNumber_append {i f e rest : Bytes} (hInteger : IsInteger i) (hFraction : IsFraction f)
    (hExponent : IsExponent e) (hEnds : Ends rest) :
    skipNumber (i ++ (f ++ (e ++ rest))) = .ok rest := by
  have hFollows := atDigit_fraction hFraction hExponent hEnds
  have hSkipped := skipFraction_append hFraction hExponent hEnds
  obtain rfl | ⟨⟨hSome, hDigits⟩, hHead⟩ := hInteger
  · rw [List.singleton_append, skipNumber, if_pos rfl, hFollows, hSkipped]
    rfl
  · obtain ⟨d, ds, rfl⟩ := List.exists_cons_of_ne_nil hSome
    have hZero : d ≠ 0x30 := fun h => hHead (h ▸ rfl)
    rw [List.cons_append, skipNumber, if_neg hZero, if_pos (hDigits d List.mem_cons_self),
      skipDigits_append (fun d' h => hDigits d' (List.mem_cons_of_mem d h)) hFollows, hSkipped]

theorem skipScalar?_digit {b : UInt8} (h : Bytes.isDigit b = true) (rest : Bytes) :
    skipScalar? (b :: rest) = some (skipNumber (b :: rest)) := by
  have hNot (c : UInt8) (hc : Bytes.isDigit c = false) : b ≠ c := by
    rintro rfl
    rw [h] at hc
    cases hc
  simp [skipScalar?, h, hNot 0x6E rfl, hNot 0x74 rfl, hNot 0x66 rfl, hNot 0x2D rfl]

theorem skipScalar?_isNumber {n rest : Bytes} (h : IsNumber n) (hEnds : Ends rest) :
    skipScalar? (n ++ rest) = some (.ok rest) := by
  obtain ⟨hSign, hInteger, hFraction, hExponent⟩ := h
  rename_i sign i f e
  have hSkipped := skipNumber_append hInteger hFraction hExponent hEnds
  rw [← hSkipped]
  simp only [List.append_assoc]
  obtain rfl | rfl := hSign
  · obtain rfl | ⟨⟨hSome, hDigits⟩, -⟩ := hInteger
    · exact skipScalar?_digit rfl _
    · obtain ⟨d, ds, rfl⟩ := List.exists_cons_of_ne_nil hSome
      exact skipScalar?_digit (hDigits d List.mem_cons_self) _
  · rfl

/-! ### Values -/

theorem isBlank_of_skipScalar? {b : UInt8} {rest : Bytes} {result : Except Fault Bytes}
    (h : skipScalar? (b :: rest) = some result) : isBlank b = false := by
  rw [Bool.eq_false_iff]
  intro hBlank
  have hAll : b = 0x20 ∨ b = 0x0A ∨ b = 0x09 ∨ b = 0x0D := by
    simpa [isBlank, or_assoc] using hBlank
  obtain rfl | rfl | rfl | rfl := hAll <;> cases h

theorem exists_head_of_isNumber {n : Bytes} (h : IsNumber n) :
    ∃ b n', n = b :: n' ∧ (b = 0x2D ∨ Bytes.isDigit b = true) := by
  obtain ⟨hSign, hInteger, -, -⟩ := h
  obtain rfl | rfl := hSign
  · obtain rfl | ⟨⟨hSome, hDigits⟩, -⟩ := hInteger
    · exact ⟨_, _, rfl, .inr rfl⟩
    · obtain ⟨d, ds, rfl⟩ := List.exists_cons_of_ne_nil hSome
      exact ⟨d, _, rfl, .inr (hDigits d List.mem_cons_self)⟩
  · exact ⟨_, _, rfl, .inl rfl⟩

theorem not_isNumber_cons {b : UInt8} {rest : Bytes} (hMinus : b ≠ 0x2D)
    (hDigit : Bytes.isDigit b = false) : ¬ IsNumber (b :: rest) := by
  intro h
  obtain ⟨c, n, hHead, rfl | hHeadDigit⟩ := exists_head_of_isNumber h
  · exact hMinus (List.cons.inj hHead).1
  · rw [(List.cons.inj hHead).1, hHeadDigit] at hDigit
    cases hDigit

/-- A value begins with a byte that is neither a blank nor a closing bracket. -/
theorem exists_head_of_isValue {v : Bytes} (h : IsValue v) :
    ∃ b v', v = b :: v' ∧ isBlank b = false ∧ b ≠ 0x5D := by
  cases h with
  | number h =>
      obtain ⟨b, n, rfl, rfl | hDigit⟩ := exists_head_of_isNumber h
      · exact ⟨_, _, rfl, rfl, by decide⟩
      · refine ⟨b, n, rfl, isBlank_of_skipScalar? (skipScalar?_digit hDigit n), ?_⟩
        rintro rfl
        cases hDigit
  | _ => exact ⟨_, _, rfl, rfl, by decide⟩

/-- Blanks, commas and closing brackets end a number. -/
theorem Ends.of_mark {b : UInt8} {rest : Bytes}
    (h : b ∈ ([0x20, 0x09, 0x0A, 0x0D, 0x2C, 0x5D, 0x7D] : Bytes)) : Ends (b :: rest) := by
  rintro _ ⟨⟩
  simp only [List.mem_cons, List.not_mem_nil, or_false] at h
  obtain rfl | rfl | rfl | rfl | rfl | rfl | rfl := h <;> decide

theorem Ends.blanks {w rest : Bytes} (hw : IsBlanks w) (h : Ends rest) : Ends (w ++ rest) := by
  cases w with
  | nil => exact h
  | cons b w =>
      refine Ends.of_mark ?_
      obtain rfl | rfl | rfl | rfl := hw b List.mem_cons_self <;> decide

section Skip

variable {outer : List Container} {input rest w w' : Bytes} {b : UInt8}

/-- A value is passed over from its first byte on. -/
theorem skip_value (h : skipBlank input = b :: rest) :
    skip .value outer input =
      match skipScalar? (b :: rest) with
      | some (.error f) => .error f
      | some (.ok rest') => skip .closed outer rest'
      | none =>
        if b = 0x5B then skip .opened (.list :: outer) rest
        else if b = 0x7B then skip .opened (.object :: outer) rest
        else faultAt .expectedValue (b :: rest) := by
  rw [skip]
  split
  · simp_all
  · rename_i hHere
    rw [h] at hHere
    cases hHere
    split <;> simp_all

theorem skip_opened {c : Container} (h : skipBlank input = b :: rest) :
    skip .opened (c :: outer) input =
      if b = c.close then skip .closed outer rest else skip c.member (c :: outer) (b :: rest) := by
  rw [skip]
  split <;> simp_all

theorem skip_closed {c : Container} (h : skipBlank input = b :: rest) :
    skip .closed (c :: outer) input =
      if b = 0x2C then skip c.member (c :: outer) rest
      else if b = c.close then skip .closed outer rest
      else faultAt c.expectedEnd (b :: rest) := by
  rw [skip]
  split <;> simp_all

/-- A key is passed over together with the blanks and the colon behind it. -/
theorem skip_key {tail value : Bytes} (h : skipBlank input = 0x22 :: rest)
    (hText : skipText rest = .ok tail) (hColon : skipBlank tail = 0x3A :: value) :
    skip .key outer input = skip .value outer value := by
  conv => lhs; rw [skip]
  split
  · simp_all
  · rename_i hHere
    rw [h] at hHere
    cases hHere
    rw [if_pos rfl]
    split
    · simp_all
    · rename_i hTail
      -- The text decides where the key ends, so the colon is looked for behind `tail` only.
      rw [hText] at hTail
      cases hTail
      split <;> simp_all

/-- A value that holds no other values is passed over at once. -/
theorem skip_scalar (h : skipScalar? input = some (.ok rest)) :
    skip .value outer input = skip .closed outer rest := by
  cases input with
  | nil => cases h
  | cons b tail => rw [skip_value (skipBlank_cons (isBlank_of_skipScalar? h) tail), h]

/-- Blanks in front of a value make no difference. -/
theorem skip_value_blanks (hw : IsBlanks w) (hb : isBlank b = false) :
    skip .value outer (w ++ b :: rest) = skip .value outer (b :: rest) := by
  rw [skip_value (skipBlank_append_cons hw hb rest), skip_value (skipBlank_cons hb rest)]

theorem skip_closed_end (c : Container) (hw : IsBlanks w) :
    skip .closed (c :: outer) (w ++ c.close :: rest) = skip .closed outer rest := by
  have hBlank : isBlank c.close = false := by cases c <;> rfl
  have hComma : c.close ≠ 0x2C := by cases c <;> decide
  rw [skip_closed (skipBlank_append_cons hw hBlank rest), if_neg hComma, if_pos rfl]

theorem skip_closed_comma (c : Container) (hw : IsBlanks w) :
    skip .closed (c :: outer) (w ++ 0x2C :: rest) = skip c.member (c :: outer) rest := by
  rw [skip_closed (skipBlank_append_cons hw rfl rest), if_pos rfl]

theorem skip_opened_end (c : Container) (hw : IsBlanks w) :
    skip .opened (c :: outer) (w ++ c.close :: rest) = skip .closed outer rest := by
  have hBlank : isBlank c.close = false := by cases c <;> rfl
  rw [skip_opened (skipBlank_append_cons hw hBlank rest), if_pos rfl]

theorem skip_isKey {k : Bytes} (h : IsKey IsText k) :
    skip .key outer (k ++ rest) = skip .value outer rest := by
  obtain ⟨hw, ht, hw'⟩ := h
  simp only [List.append_assoc, List.cons_append, List.nil_append]
  exact skip_key (skipBlank_append_cons hw rfl _) (skipText_isText ht _)
    (skipBlank_append_cons hw' rfl _)

/-- One element of a list, or the value of a member of an object. -/
theorem skip_item {v : Bytes} (hw : IsBlanks w) (hv : IsValue v) (hw' : IsBlanks w')
    (hEnds : Ends rest)
    (hSkip : ∀ rest, Ends rest → skip .value outer (v ++ rest) = skip .closed outer rest) :
    skip .value outer (w ++ (v ++ (w' ++ rest))) = skip .closed outer (w' ++ rest) := by
  obtain ⟨b, v', rfl, hBlank, -⟩ := exists_head_of_isValue hv
  rw [List.cons_append, skip_value_blanks hw hBlank, ← List.cons_append,
    hSkip _ (hEnds.blanks hw')]

theorem skip_opened_elements {es : Bytes} (h : IsElements es) :
    skip .opened (.list :: outer) (es ++ rest) = skip .value (.list :: outer) (es ++ rest) := by
  obtain ⟨w, v, tail, hw, hv, rfl⟩ :
      ∃ w v tail, IsBlanks w ∧ IsValue v ∧ es = w ++ (v ++ tail) := by
    cases h with
    | last hw hv => exact ⟨_, _, _, hw, hv, rfl⟩
    | more hw hv => exact ⟨_, _, _, hw, hv, rfl⟩
  obtain ⟨b, v', rfl, hBlank, hBracket⟩ := exists_head_of_isValue hv
  simp only [List.append_assoc, List.cons_append]
  rw [skip_opened (skipBlank_append_cons hw hBlank _),
    if_neg (show b ≠ Container.list.close from hBracket), skip_value_blanks hw hBlank]
  rfl

theorem skip_opened_members {ms : Bytes} (h : IsMembers ms) :
    skip .opened (.object :: outer) (ms ++ rest) = skip .key (.object :: outer) (ms ++ rest) := by
  obtain ⟨k, tail, hk, rfl⟩ : ∃ k tail, IsKey IsText k ∧ ms = k ++ tail := by
    cases h with
    | last hk => exact ⟨_, _, hk, rfl⟩
    | more hk => exact ⟨_, _, hk, rfl⟩
  rw [List.append_assoc, skip_isKey hk]
  obtain ⟨hw, ht, hw'⟩ := hk
  simp only [List.append_assoc, List.cons_append, List.nil_append]
  rw [skip_opened (skipBlank_append_cons hw rfl _), if_neg (by decide)]
  exact skip_key (skipBlank_cons rfl _) (skipText_isText ht _) (skipBlank_append_cons hw' rfl _)

end Skip

-- The recursion is on the derivation. The open containers and the rest are left general, since a
-- container adds itself to the former and its closing bracket to the latter.
mutual

/-- Whatever containers are open around it, a value is passed over up to its last byte. -/
theorem skip_isValue {v : Bytes} : IsValue v → ∀ (outer : List Container) (rest : Bytes),
    Ends rest → skip .value outer (v ++ rest) = skip .closed outer rest
  | .null, _, _, _ => skip_scalar rfl
  | .true, _, _, _ => skip_scalar rfl
  | .false, _, _, _ => skip_scalar rfl
  | .number h, _, _, hEnds => skip_scalar (skipScalar?_isNumber h hEnds)
  | .text h, _, rest, _ => by
      refine skip_scalar ?_
      rw [List.cons_append, List.append_assoc, List.singleton_append, skipScalar?]
      exact congrArg some (skipText_isText h rest)
  | .emptyList hw, outer, rest, _ => by
      rw [List.cons_append, List.append_assoc, skip_value (skipBlank_cons rfl _)]
      exact skip_opened_end .list hw
  | .list h, outer, rest, _ => by
      rw [List.cons_append, List.append_assoc, skip_value (skipBlank_cons rfl _)]
      exact (skip_opened_elements h).trans (skip_isElements h outer rest)
  | .emptyObject hw, outer, rest, _ => by
      rw [List.cons_append, List.append_assoc, skip_value (skipBlank_cons rfl _)]
      exact skip_opened_end .object hw
  | .object h, outer, rest, _ => by
      rw [List.cons_append, List.append_assoc, skip_value (skipBlank_cons rfl _)]
      exact (skip_opened_members h).trans (skip_isMembers h outer rest)

theorem skip_isElements {es : Bytes} : IsElements es → ∀ (outer : List Container) (rest : Bytes),
    skip .value (.list :: outer) (es ++ 0x5D :: rest) = skip .closed outer rest
  | .last hw hv hw', outer, rest => by
      simp only [List.append_assoc]
      rw [skip_item hw hv hw' (Ends.of_mark (by decide)) (skip_isValue hv _)]
      exact skip_closed_end .list hw'
  | .more hw hv hw' hes, outer, rest => by
      simp only [List.append_assoc, List.cons_append]
      rw [skip_item hw hv hw' (Ends.of_mark (by decide)) (skip_isValue hv _),
        skip_closed_comma .list hw']
      exact skip_isElements hes outer rest

theorem skip_isMembers {ms : Bytes} : IsMembers ms → ∀ (outer : List Container) (rest : Bytes),
    skip .key (.object :: outer) (ms ++ 0x7D :: rest) = skip .closed outer rest
  | .last hk hw hv hw', outer, rest => by
      simp only [List.append_assoc]
      rw [skip_isKey hk, skip_item hw hv hw' (Ends.of_mark (by decide)) (skip_isValue hv _)]
      exact skip_closed_end .object hw'
  | .more hk hw hv hw' hms, outer, rest => by
      simp only [List.append_assoc, List.cons_append]
      rw [skip_isKey hk, skip_item hw hv hw' (Ends.of_mark (by decide)) (skip_isValue hv _),
        skip_closed_comma .object hw']
      exact skip_isMembers hms outer rest

end

theorem skipValue_isValue {w v rest : Bytes} (hw : IsBlanks w) (hv : IsValue v)
    (hEnds : Ends rest) : skipValue (w ++ (v ++ rest)) = .ok rest := by
  obtain ⟨b, v', rfl, hBlank, -⟩ := exists_head_of_isValue hv
  have hSkip := skip_isValue hv [] rest hEnds
  rw [List.cons_append] at hSkip ⊢
  rw [skipValue, skip_value_blanks hw hBlank, hSkip, skip]

end SpeedTest.Json
