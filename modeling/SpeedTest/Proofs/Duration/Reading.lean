import SpeedTest.Proofs.Duration.Sums
import SpeedTest.Proofs.Number.Integer

/-! The texts that are read as lengths of time: items of a number and a unit, with blanks around
them and between the digits of a number. A text that is read spells its items, and the sum is
theirs; one at which the reader has no answer begins with items that are too long together. -/

namespace SpeedTest.Duration

/-- The number that digits lead to from another one on. Blanks between them count for nothing. -/
def valueOf (n : Nat) (cs : List Char) : Nat := Nat.ofDigitChars 10 (cs.filter Char.isDigit) n

/-- A digit or a blank. -/
def IsFiller (c : Char) : Prop := c.isDigit = true ∨ Text.isBlank c = true

/-- A whole number: a digit, and behind it more digits and blanks. -/
structure IsNumber (cs : List Char) (n : Nat) : Prop where
  head : ∃ c ∈ cs.head?, c.isDigit = true
  mem : ∀ c ∈ cs, IsFiller c
  value : valueOf 0 cs = n

/-- What stands behind a point: digits and blanks. -/
structure IsPart (cs : List Char) (f : Fraction) : Prop where
  mem : ∀ c ∈ cs, IsFiller c
  numerator : valueOf 0 cs = f.numerator
  denominator : tenPow (cs.countP Char.isDigit) = f.denominator

/-- A number, perhaps with a fraction, of which there is a digit at least. -/
inductive IsQuantity : List Char → Nat → Option Fraction → Prop
  | whole {cs : List Char} {n : Nat} (h : IsNumber cs n) : IsQuantity cs n none
  | mixed {cs ds : List Char} {n : Nat} {f : Fraction} (h : IsNumber cs n) (hPart : IsPart ds f)
      (hDigit : ∃ c ∈ ds, c.isDigit = true) : IsQuantity (cs ++ '.' :: ds) n (some f)

/-- The text of an item: a number, and the letters of a unit behind it. -/
inductive Item.IsText : List Char → Item → Prop
  | mk {cs ls : List Char} {n : Nat} {f : Option Fraction} (h : IsQuantity cs n f)
      (hName : ls ≠ []) (hLetters : ∀ c ∈ ls, isUnitLetter c = true) :
      IsText (cs ++ ls) ⟨n, f, String.ofList ls⟩

/-- The text of items, with blanks between them and at the ends. -/
inductive Spells : List Char → List Item → Prop
  | nil {bs : List Char} (h : ∀ c ∈ bs, Text.isBlank c = true) : Spells bs []
  | cons {bs cs rest : List Char} {i : Item} {items : List Item}
      (h : ∀ c ∈ bs, Text.isBlank c = true) (hItem : i.IsText cs) (hRest : Spells rest items) :
      Spells (bs ++ (cs ++ rest)) (i :: items)

/-- Whether a unit in front of the text is complete. -/
def IsBoundary (cs : List Char) : Prop := ∀ c ∈ cs.head?, IsFiller c

/-- A text that begins with items of which the last takes their sum out of the range. -/
def IsOverfull (cs : List Char) : Prop :=
  ∃ front rest items i d, cs = front ++ rest ∧ IsBoundary rest ∧ Spells front (items ++ [i]) ∧
    total .zero items = .ok d ∧ i.addTo d = .error .overflow

/-- The items at the front of such a text reach, within the last of them or at its end, exactly the
first length of time that is too long. -/
theorem IsOverfull.reaches {cs : List Char} (h : IsOverfull cs) :
    ∃ front rest items i lengths ns, cs = front ++ rest ∧ Spells front (items ++ [i]) ∧
      List.Forall₂ Item.Lasts items lengths ∧ i.Reaches ns ∧ lengths.sum + ns = tooLong := by
  obtain ⟨front, rest, items, i, d, hText, -, hSpells, hTotal, hOver⟩ := h
  obtain ⟨-, lengths, hLengths, hSum⟩ := isSum_of_total hTotal
  obtain ⟨ns, hReaches, hReached⟩ := Item.reaches_of_addTo_eq_overflow hOver
  exact ⟨front, rest, items, i, lengths, ns, hText, hSpells, hLengths, hReaches, hSum ▸ hReached⟩

section Characters

variable {c : Char}

theorem toNat_of_isDigit (h : c.isDigit = true) : 48 ≤ c.toNat ∧ c.toNat ≤ 57 :=
  Char.isDigit_iff_toNat.mp h

theorem digitValue_le (h : c.isDigit = true) : digitValue c ≤ 9 := by
  have hRange := toNat_of_isDigit h
  have hZero : '0'.toNat = 48 := rfl
  rw [digitValue, hZero]
  omega

theorem not_isBlank_of_isDigit (h : c.isDigit = true) : Text.isBlank c = false := by
  have hRange := toNat_of_isDigit h
  rw [← Bool.not_eq_true]
  intro hBlank
  simp only [Text.isBlank, Bool.or_eq_true, Bool.and_eq_true, decide_eq_true_eq, beq_iff_eq]
    at hBlank
  omega

theorem toNat_of_isUnitLetter (h : isUnitLetter c = true) :
    65 ≤ c.toNat ∧ c.toNat ≤ 122 ∨ c.toNat = 181 := by
  simp only [isUnitLetter, Bool.or_eq_true, Bool.and_eq_true, decide_eq_true_eq, beq_iff_eq,
    Char.le_def, UInt32.le_iff_toNat_le] at h
  obtain ((hLower | hUpper) | rfl) := h
  · have hLow : 97 ≤ c.toNat := hLower.1
    have hHigh : c.toNat ≤ 122 := hLower.2
    omega
  · have hLow : 65 ≤ c.toNat := hUpper.1
    have hHigh : c.toNat ≤ 90 := hUpper.2
    omega
  · exact .inr rfl

/-- A letter of a unit is told from what may stand in a number. -/
theorem not_isFiller_of_isUnitLetter (h : isUnitLetter c = true) : ¬ IsFiller c := by
  have hRange := toNat_of_isUnitLetter h
  rintro (hDigit | hBlank)
  · have hDigits := toNat_of_isDigit hDigit
    omega
  · simp only [Text.isBlank, Bool.or_eq_true, Bool.and_eq_true, decide_eq_true_eq, beq_iff_eq]
      at hBlank
    omega

end Characters

section Values

variable {cs ds : List Char} {c : Char} {n : Nat} {f : Fraction}

@[simp] theorem valueOf_nil (n : Nat) : valueOf n [] = n := rfl

theorem valueOf_digit (n : Nat) (cs : List Char) (h : c.isDigit = true) :
    valueOf n (c :: cs) = valueOf (10 * n + digitValue c) cs := by
  rw [valueOf, List.filter_cons_of_pos h, Nat.ofDigitChars_cons]
  rfl

theorem valueOf_blank (n : Nat) (cs : List Char) (h : c.isDigit = false) :
    valueOf n (c :: cs) = valueOf n cs := by
  rw [valueOf, List.filter_cons_of_neg (by simp [h])]
  rfl

theorem valueOf_append (n : Nat) (cs ds : List Char) :
    valueOf n (cs ++ ds) = valueOf (valueOf n cs) ds := by
  rw [valueOf, List.filter_append, Nat.ofDigitChars_append]
  rfl

theorem IsNumber.single (h : c.isDigit = true) : IsNumber [c] (digitValue c) where
  head := ⟨c, rfl, h⟩
  mem := by simp [IsFiller, h]
  value := by rw [valueOf_digit _ _ h, valueOf_nil, Nat.mul_zero, Nat.zero_add]

theorem forall_mem_append_single {p : Char → Prop} (h : ∀ c ∈ cs, p c) (hc : p c) :
    ∀ c' ∈ cs ++ [c], p c' :=
  List.forall_mem_append.mpr ⟨h, List.forall_mem_singleton.mpr hc⟩

theorem IsNumber.digit (h : IsNumber cs n) (hDigit : c.isDigit = true) :
    IsNumber (cs ++ [c]) (10 * n + digitValue c) where
  head := h.head.imp fun _ hHead => ⟨List.mem_head?_append_of_mem_head? hHead.1, hHead.2⟩
  mem := forall_mem_append_single h.mem (.inl hDigit)
  value := by rw [valueOf_append, h.value, valueOf_digit _ _ hDigit, valueOf_nil]

theorem IsNumber.blank (h : IsNumber cs n) (hDigit : c.isDigit = false)
    (hBlank : Text.isBlank c = true) : IsNumber (cs ++ [c]) n where
  head := h.head.imp fun _ hHead => ⟨List.mem_head?_append_of_mem_head? hHead.1, hHead.2⟩
  mem := forall_mem_append_single h.mem (.inr hBlank)
  value := by rw [valueOf_append, h.value, valueOf_blank _ _ hDigit, valueOf_nil]

theorem isPart_nil : IsPart [] ⟨0, 1⟩ where
  mem := nofun
  numerator := rfl
  denominator := rfl

theorem tenPow_pos (n : Nat) : 0 < tenPow n := Nat.pow_pos (by decide)

theorem tenPow_succ (n : Nat) : tenPow (n + 1) = 10 * tenPow n := Nat.pow_succ'

theorem IsPart.digit (h : IsPart cs f) (hDigit : c.isDigit = true) :
    IsPart (cs ++ [c]) ⟨10 * f.numerator + digitValue c, 10 * f.denominator⟩ where
  mem := forall_mem_append_single h.mem (.inl hDigit)
  numerator := by rw [valueOf_append, h.numerator, valueOf_digit _ _ hDigit, valueOf_nil]
  denominator := by
    rw [List.countP_append, List.countP_singleton, if_pos hDigit, tenPow_succ, h.denominator]

theorem IsPart.blank (h : IsPart cs f) (hDigit : c.isDigit = false)
    (hBlank : Text.isBlank c = true) : IsPart (cs ++ [c]) f where
  mem := forall_mem_append_single h.mem (.inr hBlank)
  numerator := by rw [valueOf_append, h.numerator, valueOf_blank _ _ hDigit, valueOf_nil]
  denominator := by
    rw [List.countP_append, List.countP_singleton, if_neg (by simp [hDigit]), Nat.add_zero,
      h.denominator]

theorem IsPart.exists_digit_iff (h : IsPart cs f) :
    (∃ c ∈ cs, c.isDigit = true) ↔ f.denominator ≠ 1 := by
  rw [← List.countP_pos_iff, ← h.denominator]
  cases cs.countP Char.isDigit with
  | zero => exact iff_of_false (Nat.lt_irrefl 0) fun hOne => hOne rfl
  | succ k =>
      have hPos := tenPow_pos k
      rw [tenPow_succ]
      omega

end Values

/-! What a reader does with one character, by its place and the kind of the character. -/

section Feed

variable {t : Option Duration} {p since told n : Nat} {part : Fraction} {c : Char}

theorem feed_between_digit (h : c.isDigit = true) :
    Reader.feed ⟨t, .between since⟩ p c = .ok ⟨t, .number (digitValue c)⟩ := if_pos h

theorem feed_between_blank (hDigit : c.isDigit = false) (hBlank : Text.isBlank c = true) :
    Reader.feed ⟨t, .between since⟩ p c = .ok ⟨t, .between since⟩ := by
  simp [Reader.feed, isDigitChar_eq_isDigit, hDigit, hBlank]

theorem feed_number_digit (h : c.isDigit = true) :
    Reader.feed ⟨t, .number n⟩ p c =
      (fit (10 * n + digitValue c)).map fun n' => ⟨t, .number n'⟩ := if_pos h

theorem feed_number_blank (hDigit : c.isDigit = false) (hBlank : Text.isBlank c = true) :
    Reader.feed ⟨t, .number n⟩ p c = .ok ⟨t, .number n⟩ := by
  simp [Reader.feed, isDigitChar_eq_isDigit, hDigit, hBlank]

theorem feed_number_letter (h : isUnitLetter c = true) :
    Reader.feed ⟨t, .number n⟩ p c = .ok ⟨t, .unit n none [c]⟩ := by
  obtain ⟨hDigit, hBlank⟩ := not_or.mp (not_isFiller_of_isUnitLetter h)
  simp [Reader.feed, isDigitChar_eq_isDigit, hDigit, hBlank, h]

theorem feed_fraction_digit (h : c.isDigit = true) :
    Reader.feed ⟨t, .fraction n part told⟩ p c = (do
      let denominator ← fit (10 * part.denominator)
      let numerator ← fit (10 * part.numerator + digitValue c)
      .ok ⟨t, .fraction n ⟨numerator, denominator⟩ (p + c.utf8Size)⟩) := if_pos h

theorem feed_fraction_blank (hDigit : c.isDigit = false) (hBlank : Text.isBlank c = true) :
    Reader.feed ⟨t, .fraction n part told⟩ p c = .ok ⟨t, .fraction n part (p + c.utf8Size)⟩ := by
  simp [Reader.feed, isDigitChar_eq_isDigit, hDigit, hBlank]

theorem feed_fraction_letter (h : isUnitLetter c = true) (hPart : part.denominator ≠ 1) :
    Reader.feed ⟨t, .fraction n part told⟩ p c = .ok ⟨t, .unit n (some part) [c]⟩ := by
  obtain ⟨hDigit, hBlank⟩ := not_or.mp (not_isFiller_of_isUnitLetter h)
  simp [Reader.feed, isDigitChar_eq_isDigit, hDigit, hBlank, h, hPart]

end Feed

theorem Spells.append {cs ds : List Char} {items more : List Item} (h : Spells cs items)
    (hMore : Spells ds more) : Spells (cs ++ ds) (items ++ more) := by
  induction h with
  | @nil bs hBlank =>
      cases hMore with
      | nil hBlank' => exact .nil (List.forall_mem_append.mpr ⟨hBlank, hBlank'⟩)
      | cons hBlank' hItem hRest =>
          rw [← List.append_assoc]
          exact .cons (List.forall_mem_append.mpr ⟨hBlank, hBlank'⟩) hItem hRest
  | cons hBlank hItem _ ih =>
      rw [List.append_assoc, List.append_assoc]
      exact .cons hBlank hItem ih

theorem Spells.blank {cs : List Char} {c : Char} {items : List Item} (h : Spells cs items)
    (hBlank : Text.isBlank c = true) : Spells (cs ++ [c]) items := by
  have hLast : Spells [c] [] := .nil (List.forall_mem_singleton.mpr hBlank)
  rw [← List.append_nil items]
  exact h.append hLast

theorem Item.IsText.spells {cs : List Char} {i : Item} (h : i.IsText cs) : Spells cs [i] := by
  have hNone : ∀ c ∈ ([] : List Char), Text.isBlank c = true := nofun
  have hSpells := Spells.cons hNone h (.nil hNone)
  rwa [List.nil_append, List.append_nil] at hSpells

/-- The sum that a reader holds is that of the items so far, and it holds none before the first. -/
structure Sums (t : Option Duration) (items : List Item) : Prop where
  total : Duration.total .zero items = .ok (t.getD .zero)
  isNone : t = none ↔ items = []

theorem Sums.append {t : Option Duration} {items : List Item} {i : Item} {d : Duration}
    (h : Sums t items) (hItem : i.addTo (t.getD .zero) = .ok d) : Sums (some d) (items ++ [i]) where
  total := by
    rw [total_append, h.total]
    exact bind_eq_ok_iff.mpr ⟨_, rfl, bind_eq_ok_iff.mpr ⟨d, hItem, rfl⟩⟩
  isNone := by simp

theorem Sums.ne_nil {d : Duration} {items : List Item} (h : Sums (some d) items) : items ≠ [] :=
  fun hNil => nomatch h.isNone.mpr hNil

/-- What has been read in front of a reader's place. -/
inductive Stands : Reader → List Char → Prop
  | between {t : Option Duration} {since : Nat} {cs : List Char} {items : List Item}
      (hSums : Sums t items) (h : Spells cs items) : Stands ⟨t, .between since⟩ cs
  | number {t : Option Duration} {front cs : List Char} {items : List Item} {n : Nat}
      (hSums : Sums t items) (hFront : Spells front items) (h : IsNumber cs n)
      (hFits : n ≤ maxCount) : Stands ⟨t, .number n⟩ (front ++ cs)
  | fraction {t : Option Duration} {told : Nat} {front cs ds : List Char} {items : List Item}
      {n : Nat} {f : Fraction} (hSums : Sums t items) (hFront : Spells front items)
      (h : IsNumber cs n) (hFits : n ≤ maxCount) (hPart : IsPart ds f)
      (hPartFits : f.denominator ≤ maxCount) :
      Stands ⟨t, .fraction n f told⟩ (front ++ (cs ++ '.' :: ds))
  | unit {t : Option Duration} {front cs ls : List Char} {items : List Item} {n : Nat}
      {f : Option Fraction} (hSums : Sums t items) (hFront : Spells front items)
      (h : IsQuantity cs n f) (hFits : Fits n f) (hName : ls ≠ [])
      (hLetters : ∀ c ∈ ls, isUnitLetter c = true) :
      Stands ⟨t, .unit n f ls.reverse⟩ (front ++ (cs ++ ls))

section Run

variable {t : Option Duration} {r r' : Reader} {p n : Nat} {f : Option Fraction} {c : Char}
  {cs letters rest : List Char} {d : Duration}

theorem Stands.feed_between {since : Nat} {items : List Item} (hSums : Sums t items)
    (hSpells : Spells cs items) (hFeed : Reader.feed ⟨t, .between since⟩ p c = .ok r') :
    Stands r' (cs ++ [c]) := by
  cases hDigit : c.isDigit
  · cases hBlank : Text.isBlank c
    · simp [Reader.feed, isDigitChar_eq_isDigit, hDigit, hBlank] at hFeed
    · rw [feed_between_blank hDigit hBlank] at hFeed
      cases hFeed
      exact .between hSums (hSpells.blank hBlank)
  · rw [feed_between_digit hDigit] at hFeed
    cases hFeed
    have hFits : digitValue c ≤ maxCount := Nat.le_trans (digitValue_le hDigit) (by decide)
    exact .number hSums hSpells (.single hDigit) hFits

theorem Stands.feed_number {front : List Char} {items : List Item} (hSums : Sums t items)
    (hFront : Spells front items) (hNumber : IsNumber cs n) (hFits : n ≤ maxCount)
    (hFeed : Reader.feed ⟨t, .number n⟩ p c = .ok r') : Stands r' (front ++ (cs ++ [c])) := by
  cases hDigit : c.isDigit
  · cases hBlank : Text.isBlank c
    · cases hLetter : isUnitLetter c
      · simp only [Reader.feed, isDigitChar_eq_isDigit, hDigit, hBlank, hLetter, if_false,
          Bool.false_eq_true] at hFeed
        split at hFeed <;> cases hFeed
        subst c
        exact .fraction hSums hFront hNumber hFits isPart_nil (by decide)
      · rw [feed_number_letter hLetter] at hFeed
        cases hFeed
        have hUnit := Stands.unit hSums hFront (.whole hNumber) ⟨hFits, nofun⟩
          (List.cons_ne_nil c []) (List.forall_mem_singleton.mpr hLetter)
        exact hUnit
    · rw [feed_number_blank hDigit hBlank] at hFeed
      cases hFeed
      exact .number hSums hFront (hNumber.blank hDigit hBlank) hFits
  · simp only [feed_number_digit hDigit, map_eq_ok_iff, fit_eq_ok_iff] at hFeed
    obtain ⟨_, ⟨hFits', rfl⟩, rfl⟩ := hFeed
    exact .number hSums hFront (hNumber.digit hDigit) hFits'

theorem Stands.feed_fraction {front ds : List Char} {items : List Item} {part : Fraction}
    {told : Nat} (hSums : Sums t items) (hFront : Spells front items) (hNumber : IsNumber cs n)
    (hFits : n ≤ maxCount) (hPart : IsPart ds part) (hPartFits : part.denominator ≤ maxCount)
    (hFeed : Reader.feed ⟨t, .fraction n part told⟩ p c = .ok r') :
    Stands r' (front ++ (cs ++ '.' :: (ds ++ [c]))) := by
  cases hDigit : c.isDigit
  · cases hBlank : Text.isBlank c
    · simp only [Reader.feed, isDigitChar_eq_isDigit, hDigit, hBlank, if_false,
        Bool.false_eq_true, Bool.and_eq_true, bne_iff_ne] at hFeed
      split at hFeed <;> cases hFeed
      rename_i hLetter
      have hMixed := IsQuantity.mixed hNumber hPart (hPart.exists_digit_iff.mpr hLetter.2)
      have hUnit := Stands.unit hSums hFront hMixed ⟨hFits, by simpa using hPartFits⟩
        (List.cons_ne_nil c []) (List.forall_mem_singleton.mpr hLetter.1)
      rwa [List.append_assoc, List.cons_append] at hUnit
    · rw [feed_fraction_blank hDigit hBlank] at hFeed
      cases hFeed
      exact .fraction hSums hFront hNumber hFits (hPart.blank hDigit hBlank) hPartFits
  · simp only [feed_fraction_digit hDigit, bind_eq_ok_iff, fit_eq_ok_iff] at hFeed
    obtain ⟨_, ⟨hFits', rfl⟩, _, ⟨-, rfl⟩, hFeed⟩ := hFeed
    cases hFeed
    exact .fraction hSums hFront hNumber hFits (hPart.digit hDigit) hFits'

/-- A digit or a blank completes a unit, and is then read as between two items. -/
theorem feed_unit_of_filler (h : IsFiller c) :
    Reader.feed ⟨t, .unit n f letters⟩ p c = (do
      let d ← Reader.complete ⟨t, .unit n f letters⟩ n f letters
      Reader.feed ⟨some d, .between (p + c.utf8Size)⟩ p c) := by
  cases hDigit : c.isDigit
  · have hBlank : Text.isBlank c = true := h.resolve_left (by simp [hDigit])
    simp only [Reader.feed, isDigitChar_eq_isDigit, hDigit, hBlank, if_true, if_false,
      Bool.false_eq_true]
    cases Reader.complete ⟨t, .unit n f letters⟩ n f letters <;> rfl
  · simp only [Reader.feed, isDigitChar_eq_isDigit, hDigit, if_true]
    cases Reader.complete ⟨t, .unit n f letters⟩ n f letters <;> rfl

theorem feed_unit_of_not_filler (h : ¬ IsFiller c) :
    Reader.feed ⟨t, .unit n f letters⟩ p c =
      if isUnitLetter c then .ok ⟨t, .unit n f (c :: letters)⟩
      else .error (.fault (.invalidCharacter p)) := by
  obtain ⟨hDigit, hBlank⟩ := not_or.mp h
  simp only [Reader.feed, isDigitChar_eq_isDigit]
  rw [if_neg hDigit, if_neg hBlank]

/-- The item that a reader in a unit is about to complete. -/
theorem complete_eq {ls : List Char} (r : Reader) (hFits : Fits n f) :
    r.complete n f ls.reverse = Item.addTo ⟨n, f, String.ofList ls⟩ (r.total.getD .zero) := by
  rw [Reader.complete, List.reverse_reverse]
  exact (if_pos hFits).symm

section Unit

variable {front ls : List Char} {items : List Item} (hSums : Sums t items)
  (hFront : Spells front items) (hQuantity : IsQuantity cs n f)
  (hFits : Fits n f) (hName : ls ≠ []) (hLetters : ∀ c ∈ ls, isUnitLetter c = true)
include hSums hFront hQuantity hFits hName hLetters

theorem Stands.complete
    (hOk : Reader.complete ⟨t, .unit n f ls.reverse⟩ n f ls.reverse = .ok d) :
    ∃ items, Sums (some d) items ∧ Spells (front ++ (cs ++ ls)) items := by
  rw [complete_eq _ hFits] at hOk
  exact ⟨_, hSums.append hOk, hFront.append (Item.IsText.mk hQuantity hName hLetters).spells⟩

theorem Stands.overfull (hRest : IsBoundary rest)
    (hOver : Reader.complete ⟨t, .unit n f ls.reverse⟩ n f ls.reverse = .error .overflow) :
    IsOverfull (front ++ (cs ++ ls) ++ rest) := by
  rw [complete_eq _ hFits] at hOver
  exact ⟨_, rest, items, _, _, rfl, hRest,
    hFront.append (Item.IsText.mk hQuantity hName hLetters).spells, hSums.total, hOver⟩

theorem Stands.feed_unit (hFeed : Reader.feed ⟨t, .unit n f ls.reverse⟩ p c = .ok r') :
    Stands r' (front ++ (cs ++ ls) ++ [c]) := by
  by_cases hFiller : IsFiller c
  · rw [feed_unit_of_filler hFiller, bind_eq_ok_iff] at hFeed
    obtain ⟨d, hOk, hFeed⟩ := hFeed
    obtain ⟨items', hSums', hSpells'⟩ :=
      Stands.complete hSums hFront hQuantity hFits hName hLetters hOk
    exact .feed_between hSums' hSpells' hFeed
  · rw [feed_unit_of_not_filler hFiller] at hFeed
    split at hFeed <;> cases hFeed
    have hText : front ++ (cs ++ ls) ++ [c] = front ++ (cs ++ (ls ++ [c])) := by simp
    rw [hText, ← List.reverse_concat]
    exact .unit hSums hFront hQuantity hFits (by simp) (forall_mem_append_single hLetters ‹_›)

end Unit

/-- A character that is taken in moves the place over it. -/
theorem Stands.feed (h : Stands r cs) (hFeed : r.feed p c = .ok r') : Stands r' (cs ++ [c]) := by
  cases h with
  | between hSums hSpells => exact .feed_between hSums hSpells hFeed
  | number hSums hFront hNumber hFits =>
      rw [List.append_assoc]
      exact .feed_number hSums hFront hNumber hFits hFeed
  | fraction hSums hFront hNumber hFits hPart hPartFits =>
      rw [List.append_assoc, List.append_assoc]
      exact .feed_fraction hSums hFront hNumber hFits hPart hPartFits hFeed
  | unit hSums hFront hQuantity hFits hName hLetters =>
      exact .feed_unit hSums hFront hQuantity hFits hName hLetters hFeed

theorem feed_ne_overflow (h : ∀ n f letters, r.place ≠ .unit n f letters) :
    r.feed p c ≠ .error .overflow := by
  unfold Reader.feed
  split
  · split
    · exact nofun
    · split <;> exact nofun
  · split
    · simp [map_eq_error_iff, fit_ne_overflow]
    · split
      · exact nofun
      · split
        · exact nofun
        · split <;> exact nofun
  · split
    · simp [bind_eq_error_iff, fit_ne_overflow, pure, Except.pure]
    · split
      · exact nofun
      · split <;> exact nofun
  · rename_i hPlace
    exact absurd hPlace (h _ _ _)

/-- There is no answer only behind items that are too long together. -/
theorem Stands.overfull_of_feed (h : Stands r cs) (hFeed : r.feed p c = .error .overflow) :
    IsOverfull (cs ++ c :: rest) := by
  cases h with
  | between | number | fraction => exact absurd hFeed (feed_ne_overflow nofun)
  | unit hSums hFront hQuantity hFits hName hLetters =>
      by_cases hFiller : IsFiller c
      · rw [feed_unit_of_filler hFiller, bind_eq_error_iff] at hFeed
        obtain hOver | ⟨d, -, hFeed⟩ := hFeed
        · have hBoundary : IsBoundary (c :: rest) := by
            rintro _ ⟨⟩
            exact hFiller
          exact Stands.overfull hSums hFront hQuantity hFits hName hLetters hBoundary hOver
        · exact absurd hFeed (feed_ne_overflow nofun)
      · rw [feed_unit_of_not_filler hFiller] at hFeed
        split at hFeed <;> cases hFeed

/-- A length of time is the sum of all items. -/
theorem Stands.finish (h : Stands r cs) (hFinish : r.finish = .ok d) :
    ∃ items, items ≠ [] ∧ Spells cs items ∧ total .zero items = .ok d := by
  cases h with
  | @between t _ _ items hSums hSpells =>
      cases t <;> cases hFinish
      exact ⟨items, hSums.ne_nil, hSpells, hSums.total⟩
  | number => cases hFinish
  | fraction =>
      simp only [Reader.finish] at hFinish
      split at hFinish <;> cases hFinish
  | unit hSums hFront hQuantity hFits hName hLetters =>
      obtain ⟨items, hSums, hSpells⟩ :=
        Stands.complete hSums hFront hQuantity hFits hName hLetters hFinish
      exact ⟨items, hSums.ne_nil, hSpells, hSums.total⟩

theorem Stands.overfull_of_finish (h : Stands r cs) (hFinish : r.finish = .error .overflow) :
    IsOverfull cs := by
  cases h with
  | @between t => cases t <;> cases hFinish
  | number => cases hFinish
  | fraction =>
      simp only [Reader.finish] at hFinish
      split at hFinish <;> cases hFinish
  | unit hSums hFront hQuantity hFits hName hLetters =>
      have hEnd : IsBoundary [] := nofun
      have hOver := Stands.overfull hSums hFront hQuantity hFits hName hLetters hEnd hFinish
      rwa [List.append_nil] at hOver

/-- What reading comes to is told by the items that the text spells, or begins with. -/
theorem Stands.run (h : Stands r cs) :
    (∀ d, r.run p rest = .ok d →
      ∃ items, items ≠ [] ∧ Spells (cs ++ rest) items ∧ total .zero items = .ok d) ∧
    (r.run p rest = .error .overflow → IsOverfull (cs ++ rest)) := by
  induction rest generalizing r p cs with
  | nil =>
      rw [List.append_nil]
      exact ⟨fun d => h.finish, h.overfull_of_finish⟩
  | cons c rest ih =>
      rw [Reader.run]
      cases hFeed : r.feed p c with
      | error stop =>
          refine ⟨nofun, fun hStop => h.overfull_of_feed (hFeed.trans ?_)⟩
          exact congrArg Except.error (Except.error.inj hStop)
      | ok r' =>
          have hNext := h.feed hFeed
          rw [List.append_cons]
          exact ih hNext

end Run

end SpeedTest.Duration
