import SpeedTest.Proofs.Duration.Reading

/-! Reading a text of items, part by part. It comes to adding up the items, and to the same fault
where this comes to one: nothing else can go wrong with such a text. -/

namespace SpeedTest.Duration

theorem run_cons (r : Reader) (p : Nat) (c : Char) (cs : List Char) :
    r.run p (c :: cs) = (r.feed p c >>= fun r' => r'.run (p + c.utf8Size) cs) := by
  rw [Reader.run]
  cases r.feed p c <;> rfl

theorem le_valueOf (cs : List Char) (n : Nat) : n ≤ valueOf n cs := le_ofDigitChars _ n

variable (t : Option Duration) (rest : List Char) {cs : List Char} {n : Nat} {d : Duration}
  {i : Item}

/-- Blanks are passed over. -/
theorem run_blanks {bs : List Char} (h : ∀ c ∈ bs, Text.isBlank c = true) (since p : Nat) :
    ∃ p', Reader.run ⟨t, .between since⟩ p (bs ++ rest) =
      Reader.run ⟨t, .between since⟩ p' rest := by
  induction bs generalizing p with
  | nil => exact ⟨p, rfl⟩
  | cons c bs ih =>
      obtain ⟨hFirst, hMore⟩ := List.forall_mem_cons.mp h
      obtain ⟨p', hRun⟩ := ih hMore (p + c.utf8Size)
      refine ⟨p', ?_⟩
      have hDigit : c.isDigit = false := by
        rw [← Bool.not_eq_true]
        intro hDigit
        simp [not_isBlank_of_isDigit hDigit] at hFirst
      rw [← hRun, List.cons_append, run_cons, feed_between_blank hDigit hFirst]
      rfl

/-- A number is read if it fits. The digits need not be looked at together for this, since further
ones never make a number smaller. -/
theorem run_number (h : ∀ c ∈ cs, IsFiller c) (hFits : n ≤ maxCount) (p : Nat) :
    ∃ p', Reader.run ⟨t, .number n⟩ p (cs ++ rest) =
      if valueOf n cs ≤ maxCount then Reader.run ⟨t, .number (valueOf n cs)⟩ p' rest
      else .error .tooLarge := by
  induction cs generalizing n p with
  | nil => exact ⟨p, (if_pos hFits).symm⟩
  | cons c cs ih =>
      obtain ⟨hFirst, hMore⟩ := List.forall_mem_cons.mp h
      cases hDigit : c.isDigit
      · have hBlank : Text.isBlank c = true := hFirst.resolve_left (by simp [hDigit])
        obtain ⟨p', hRun⟩ := ih hMore hFits (p + c.utf8Size)
        refine ⟨p', ?_⟩
        rw [valueOf_blank n cs hDigit, ← hRun, List.cons_append, run_cons,
          feed_number_blank hDigit hBlank]
        rfl
      · rw [valueOf_digit n cs hDigit, List.cons_append]
        obtain hLarge | hNext := Nat.lt_or_ge maxCount (10 * n + digitValue c)
        · refine ⟨p, ?_⟩
          have hOver := Nat.lt_of_lt_of_le hLarge (le_valueOf cs _)
          rw [if_neg (Nat.not_le_of_lt hOver), run_cons, feed_number_digit hDigit, fit_of_lt hLarge]
          rfl
        · obtain ⟨p', hRun⟩ := ih hMore hNext (p + c.utf8Size)
          refine ⟨p', ?_⟩
          rw [← hRun, run_cons, feed_number_digit hDigit, fit_of_le hNext]
          rfl

/-- A fraction is read if the power of ten under it fits. What stands over it is smaller. -/
theorem run_fraction {f : Fraction} (h : ∀ c ∈ cs, IsFiller c)
    (hLess : f.numerator < f.denominator) (hFits : f.denominator ≤ maxCount) (told p : Nat) :
    ∃ told' p', Reader.run ⟨t, .fraction n f told⟩ p (cs ++ rest) =
      if tenPow (cs.countP Char.isDigit) * f.denominator ≤ maxCount then
        Reader.run ⟨t, .fraction n ⟨valueOf f.numerator cs,
          tenPow (cs.countP Char.isDigit) * f.denominator⟩ told'⟩ p' rest
      else .error .tooLarge := by
  induction cs generalizing f told p with
  | nil =>
      have hOne : tenPow 0 * f.denominator = f.denominator := Nat.one_mul _
      refine ⟨told, p, ?_⟩
      simp only [List.countP_nil, hOne, if_pos hFits, valueOf_nil, List.nil_append]
  | cons c cs ih =>
      obtain ⟨hFirst, hMore⟩ := List.forall_mem_cons.mp h
      cases hDigit : c.isDigit
      · have hBlank : Text.isBlank c = true := hFirst.resolve_left (by simp [hDigit])
        obtain ⟨told', p', hRun⟩ := ih hMore hLess hFits (p + c.utf8Size) (p + c.utf8Size)
        refine ⟨told', p', ?_⟩
        rw [valueOf_blank _ cs hDigit, List.countP_cons_of_neg (by simp [hDigit]), ← hRun,
          List.cons_append, run_cons, feed_fraction_blank hDigit hBlank]
        rfl
      · have hMoves (k : Nat) :
            tenPow (k + 1) * f.denominator = tenPow k * (10 * f.denominator) := by
          rw [tenPow_succ, Nat.mul_comm 10, Nat.mul_assoc]
        rw [valueOf_digit _ cs hDigit, List.countP_cons_of_pos hDigit, List.cons_append, hMoves]
        obtain hLarge | hNext := Nat.lt_or_ge maxCount (10 * f.denominator)
        · refine ⟨told, p, ?_⟩
          have hOver := Nat.lt_of_lt_of_le hLarge
            (Nat.le_mul_of_pos_left _ (tenPow_pos (cs.countP Char.isDigit)))
          rw [if_neg (Nat.not_le_of_lt hOver), run_cons, feed_fraction_digit hDigit,
            fit_of_lt hLarge]
          rfl
        · have hValue := digitValue_le hDigit
          have hNumerator : 10 * f.numerator + digitValue c < 10 * f.denominator := by omega
          have hNumeratorFits := Nat.le_trans (Nat.le_of_lt hNumerator) hNext
          obtain ⟨told', p', hRun⟩ :=
            ih (f := ⟨10 * f.numerator + digitValue c, 10 * f.denominator⟩) hMore hNumerator hNext
              (p + c.utf8Size) (p + c.utf8Size)
          refine ⟨told', p', ?_⟩
          rw [← hRun, run_cons, feed_fraction_digit hDigit, fit_of_le hNext,
            fit_of_le hNumeratorFits]
          rfl

theorem run_letters {f : Option Fraction} {ls : List Char} (letters : List Char)
    (h : ∀ c ∈ ls, isUnitLetter c = true) (p : Nat) :
    ∃ p', Reader.run ⟨t, .unit n f letters⟩ p (ls ++ rest) =
      Reader.run ⟨t, .unit n f (ls.reverse ++ letters)⟩ p' rest := by
  induction ls generalizing letters p with
  | nil => exact ⟨p, rfl⟩
  | cons c ls ih =>
      obtain ⟨hFirst, hMore⟩ := List.forall_mem_cons.mp h
      obtain ⟨p', hRun⟩ := ih (c :: letters) hMore (p + c.utf8Size)
      refine ⟨p', ?_⟩
      rw [List.reverse_cons, List.append_assoc, List.singleton_append, ← hRun, List.cons_append,
        run_cons, feed_unit_of_not_filler (not_isFiller_of_isUnitLetter hFirst), if_pos hFirst]
      rfl

/-- A unit is complete at the end of the text, and in front of a digit or a blank. -/
theorem run_unit {f : Option Fraction} {rest : List Char} (letters : List Char)
    (hRest : IsBoundary rest) (p : Nat) :
    ∃ since p', Reader.run ⟨t, .unit n f letters⟩ p rest = (do
      let d ← Reader.complete ⟨t, .unit n f letters⟩ n f letters
      Reader.run ⟨some d, .between since⟩ p' rest) := by
  cases rest with
  | nil =>
      refine ⟨0, 0, ?_⟩
      have hEnd : Reader.run ⟨t, .unit n f letters⟩ p [] =
          Reader.complete ⟨t, .unit n f letters⟩ n f letters := rfl
      rw [hEnd]
      cases Reader.complete ⟨t, .unit n f letters⟩ n f letters <;> rfl
  | cons c rest =>
      refine ⟨p + c.utf8Size, p, ?_⟩
      rw [run_cons, feed_unit_of_filler (hRest c rfl)]
      cases Reader.complete ⟨t, .unit n f letters⟩ n f letters with
      | error e => rfl
      | ok d => exact (run_cons ⟨some d, .between (p + c.utf8Size)⟩ p c rest).symm

theorem run_of_isNumber (h : IsNumber cs n) (since p : Nat) :
    ∃ p', Reader.run ⟨t, .between since⟩ p (cs ++ rest) =
      if n ≤ maxCount then Reader.run ⟨t, .number n⟩ p' rest else .error .tooLarge := by
  obtain ⟨⟨c, hHead, hDigit⟩, hMem, hValue⟩ := h
  cases cs with
  | nil => cases hHead
  | cons c' cs =>
      cases hHead
      have hFits : digitValue c ≤ maxCount := Nat.le_trans (digitValue_le hDigit) (by decide)
      obtain ⟨p', hRun⟩ := run_number t rest (List.forall_mem_cons.mp hMem).2 hFits (p + c.utf8Size)
      refine ⟨p', ?_⟩
      rw [valueOf_digit 0 cs hDigit, Nat.mul_zero, Nat.zero_add] at hValue
      rw [← hValue, ← hRun, List.cons_append, run_cons, feed_between_digit hDigit]
      rfl

theorem run_of_isPart {ds : List Char} {f : Fraction} (h : IsPart ds f) (p : Nat) :
    ∃ told p', Reader.run ⟨t, .number n⟩ p ('.' :: (ds ++ rest)) =
      if f.denominator ≤ maxCount then Reader.run ⟨t, .fraction n f told⟩ p' rest
      else .error .tooLarge := by
  obtain ⟨told, p', hRun⟩ := run_fraction t rest (n := n) (f := ⟨0, 1⟩) h.mem
    (by decide) (by decide) p (p + '.'.utf8Size)
  refine ⟨told, p', ?_⟩
  simp only [Nat.mul_one, h.numerator, h.denominator] at hRun
  rw [← hRun, run_cons]
  rfl

theorem run_of_isQuantity {f : Option Fraction} {c : Char} (h : IsQuantity cs n f)
    (hLetter : isUnitLetter c = true) (since p : Nat) :
    ∃ p', Reader.run ⟨t, .between since⟩ p (cs ++ c :: rest) =
      if Fits n f then Reader.run ⟨t, .unit n f [c]⟩ p' rest else .error .tooLarge := by
  cases h with
  | whole hNumber =>
      obtain ⟨p', hRun⟩ := run_of_isNumber t (c :: rest) hNumber since p
      refine ⟨p' + c.utf8Size, ?_⟩
      have hUnit : Reader.run ⟨t, .number n⟩ p' (c :: rest) =
          Reader.run ⟨t, .unit n none [c]⟩ (p' + c.utf8Size) rest := by
        rw [run_cons, feed_number_letter hLetter]
        rfl
      rw [hRun, hUnit]
      simp [Fits]
  | @mixed cs ds n f hNumber hPart hSome =>
      obtain ⟨p', hRun⟩ := run_of_isNumber t ('.' :: (ds ++ c :: rest)) hNumber since p
      obtain ⟨told, p'', hRunPart⟩ := run_of_isPart t (c :: rest) hPart p' (n := n)
      refine ⟨p'' + c.utf8Size, ?_⟩
      have hUnit : Reader.run ⟨t, .fraction n f told⟩ p'' (c :: rest) =
          Reader.run ⟨t, .unit n (some f) [c]⟩ (p'' + c.utf8Size) rest := by
        rw [run_cons, feed_fraction_letter hLetter (hPart.exists_digit_iff.mp hSome)]
        rfl
      rw [List.append_assoc, List.cons_append, hRun, hRunPart, hUnit]
      simp only [Fits, Option.mem_some_iff, forall_eq', ite_and]

theorem run_of_isText {rest : List Char} (h : i.IsText cs) (hRest : IsBoundary rest)
    (since p : Nat) :
    ∃ since' p', Reader.run ⟨t, .between since⟩ p (cs ++ rest) = (do
      let d ← i.addTo (t.getD .zero)
      Reader.run ⟨some d, .between since'⟩ p' rest) := by
  obtain @⟨cs, ls, n, f, hQuantity, hName, hLetters⟩ := h
  cases ls with
  | nil => exact absurd rfl hName
  | cons c ls =>
      obtain ⟨hFirst, hMore⟩ := List.forall_mem_cons.mp hLetters
      obtain ⟨p₁, hRun⟩ := run_of_isQuantity t (ls ++ rest) hQuantity hFirst since p
      obtain ⟨p₂, hUnit⟩ := run_letters t rest (n := n) (f := f) [c] hMore p₁
      obtain ⟨since', p', hEnd⟩ := run_unit t (n := n) (f := f) (ls.reverse ++ [c]) hRest p₂
      refine ⟨since', p', ?_⟩
      rw [List.append_assoc, List.cons_append, hRun, hUnit, hEnd, ← List.reverse_cons]
      split
      · rename_i hFits
        rw [complete_eq _ hFits]
      · rename_i hLarge
        have hFault : Item.addTo ⟨n, f, String.ofList (c :: ls)⟩ (t.getD .zero) =
            .error .tooLarge := if_neg hLarge
        rw [hFault]
        rfl

theorem IsBoundary.cons {c : Char} (h : IsFiller c) (cs : List Char) : IsBoundary (c :: cs) := by
  rintro _ ⟨⟩
  exact h

theorem IsNumber.isBoundary (h : IsNumber cs n) (ds : List Char) : IsBoundary (cs ++ ds) := by
  obtain ⟨c, hHead, hDigit⟩ := h.head
  cases cs with
  | nil => cases hHead
  | cons c' cs =>
      cases hHead
      exact .cons (.inl hDigit) (cs ++ ds)

theorem Item.IsText.isBoundary (h : i.IsText cs) (ds : List Char) : IsBoundary (cs ++ ds) := by
  obtain ⟨hQuantity, -, -⟩ := h
  rw [List.append_assoc]
  cases hQuantity with
  | whole hNumber => exact hNumber.isBoundary _
  | mixed hNumber =>
      rw [List.append_assoc]
      exact hNumber.isBoundary _

theorem Spells.isBoundary {rest : List Char} {items : List Item} (h : Spells cs items)
    (hRest : IsBoundary rest) : IsBoundary (cs ++ rest) := by
  cases h with
  | nil hBlank =>
      cases cs with
      | nil => exact hRest
      | cons c cs => exact .cons (.inr (hBlank c List.mem_cons_self)) (cs ++ rest)
  | @cons bs _ _ _ _ hBlank hItem =>
      cases bs with
      | nil =>
          rw [List.nil_append, List.append_assoc]
          exact hItem.isBoundary _
      | cons c bs => exact .cons (.inr (hBlank c List.mem_cons_self)) _

/-- A text of items is read by adding them up. -/
theorem run_of_spells {rest : List Char} {items : List Item} (h : Spells cs items)
    (hRest : IsBoundary rest) (since p : Nat) :
    ∃ since' p', Reader.run ⟨some d, .between since⟩ p (cs ++ rest) = (do
      let d' ← total d items
      Reader.run ⟨some d', .between since'⟩ p' rest) := by
  induction h generalizing d since p with
  | nil hBlank =>
      obtain ⟨p', hRun⟩ := run_blanks (some d) rest hBlank since p
      exact ⟨since, p', hRun⟩
  | @cons bs cs more i items hBlank hItem hMore ih =>
      obtain ⟨p₁, hBlanks⟩ := run_blanks (some d) (cs ++ (more ++ rest)) hBlank since p
      obtain ⟨since₂, p₂, hRun⟩ := run_of_isText (some d) hItem (hMore.isBoundary hRest) since p₁
      rw [List.append_assoc, List.append_assoc, hBlanks, hRun, total_cons, Option.getD_some]
      -- The places behind the first item matter only if there is a sum to go on with.
      cases i.addTo d with
      | error stop => exact ⟨0, 0, rfl⟩
      | ok d₁ => exact ih since₂ p₂

/-- A reader in front of a text of items might as well hold an empty sum. -/
theorem run_start {rest : List Char} {items : List Item} (h : Spells cs items) (hItems : items ≠ [])
    (hRest : IsBoundary rest) :
    ∃ since p, Reader.start.run 0 (cs ++ rest) = (do
      let d ← total .zero items
      Reader.run ⟨some d, .between since⟩ p rest) := by
  cases h with
  | nil => exact absurd rfl hItems
  | @cons bs cs more i items hBlank hItem hMore =>
      obtain ⟨p₁, hBlanks⟩ := run_blanks none (cs ++ (more ++ rest)) hBlank 0 0
      obtain ⟨since₂, p₂, hRun⟩ := run_of_isText none hItem (hMore.isBoundary hRest) 0 p₁
      rw [List.append_assoc, List.append_assoc, Reader.start, hBlanks, hRun, total_cons,
        Option.getD_none]
      cases i.addTo .zero with
      | error stop => exact ⟨0, 0, rfl⟩
      | ok d₁ => exact run_of_spells hMore hRest since₂ p₂

theorem Spells.exists_letter {items : List Item} (h : Spells cs items) (hItems : items ≠ []) :
    ∃ c ∈ cs, isUnitLetter c = true := by
  obtain _ | @⟨bs, _, more, _, _, -, hItem⟩ := h
  · exact absurd rfl hItems
  · obtain @⟨front, ls, -, -, -, hName, hLetters⟩ := hItem
    obtain ⟨c, hMem⟩ := List.exists_mem_of_ne_nil ls hName
    exact ⟨c, by simp [hMem], hLetters c hMem⟩

theorem Spells.isBlank (h : Spells cs []) : ∀ c ∈ cs, Text.isBlank c = true := by
  cases h with
  | nil hBlank => exact hBlank

section Texts

variable {s : String} {items : List Item}

theorem read_of_letter (h : ∃ c ∈ s.toList, isUnitLetter c = true) :
    read s = Reader.start.run 0 s.toList := by
  refine if_neg ?_
  rintro rfl
  obtain ⟨c, hMem, hLetter⟩ := h
  obtain rfl : c = '0' := List.mem_singleton.mp hMem
  cases hLetter

/-- A text of items is read as their sum. -/
theorem read_of_spells (h : Spells s.toList items) (hItems : items ≠ []) :
    read s = total .zero items := by
  have hEnd : IsBoundary [] := nofun
  obtain ⟨since, p, hRun⟩ := run_start h hItems hEnd
  rw [List.append_nil] at hRun
  rw [read_of_letter (h.exists_letter hItems), hRun]
  cases total .zero items <;> rfl

example : read "1 0h 30m1.5s" = .ok ⟨37801, 500000000⟩ := by decide +kernel

theorem stands_start : Stands Reader.start [] := .between ⟨rfl, iff_of_true rfl rfl⟩ (.nil nofun)

/-- A text that is read is one of items, apart from a lone zero. -/
theorem spells_of_read (h : read s = .ok d) :
    s = "0" ∧ d = .zero ∨ ∃ items, items ≠ [] ∧ Spells s.toList items := by
  unfold read at h
  split at h
  · rename_i hZero
    exact .inl ⟨hZero, (Except.ok.inj h).symm⟩
  · obtain ⟨items, hItems, hSpells, -⟩ := stands_start.run.1 d h
    exact .inr ⟨items, hItems, hSpells⟩

theorem ne_nil_of_read (hSpells : Spells s.toList items) (h : read s = .ok d) : items ≠ [] := by
  rintro rfl
  have hBlank := hSpells.isBlank
  obtain ⟨rfl, -⟩ | ⟨items, hItems, hSpells⟩ := spells_of_read h
  · cases hBlank '0' List.mem_cons_self
  · obtain ⟨c, hMem, hLetter⟩ := hSpells.exists_letter hItems
    exact not_isFiller_of_isUnitLetter hLetter (.inr (hBlank c hMem))

/-- The reader has no answer for exactly those texts that begin with items that are too long
together. -/
theorem read_eq_overflow_iff : read s = .error .overflow ↔ IsOverfull s.toList := by
  constructor
  · intro h
    unfold read at h
    split at h
    · cases h
    · exact stands_start.run.2 h
  · rintro ⟨front, rest, items, i, d, hText, hRest, hSpells, hTotal, hOver⟩
    have hItems : items ++ [i] ≠ [] :=
      List.append_ne_nil_of_right_ne_nil items (List.cons_ne_nil i [])
    obtain ⟨c, hMem, hLetter⟩ := hSpells.exists_letter hItems
    obtain ⟨since, p, hRun⟩ := run_start hSpells hItems hRest
    have hSum : total .zero (items ++ [i]) = .error .overflow :=
      total_eq_overflow_iff.mpr ⟨items, i, [], d, rfl, hTotal, hOver⟩
    have hLetters : ∃ c ∈ s.toList, isUnitLetter c = true :=
      ⟨c, hText ▸ List.mem_append_left rest hMem, hLetter⟩
    rw [read_of_letter hLetters, hText, hRun, hSum]
    rfl

end Texts

end SpeedTest.Duration
