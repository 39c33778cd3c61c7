import SpeedTest.Number.Reader

/-! The texts that are read as signed integers of 64 bits: those that spell one, and no others. -/

namespace SpeedTest

/-- A number in decimal digits. Zeros in front change nothing. -/
structure IsNumeral (ds : List Char) (n : Nat) : Prop where
  ne_nil : ds ≠ []
  isDigit : ∀ c ∈ ds, c.isDigit = true
  value : Nat.ofDigitChars 10 ds 0 = n

/-- How an integer is spelled: a number in decimal digits, perhaps behind a sign. -/
inductive SpellsInt : List Char → Int → Prop
  | bare {ds : List Char} {n : Nat} (h : IsNumeral ds n) : SpellsInt ds n
  | plus {ds : List Char} {n : Nat} (h : IsNumeral ds n) : SpellsInt ('+' :: ds) n
  | minus {ds : List Char} {n : Nat} (h : IsNumeral ds n) : SpellsInt ('-' :: ds) (-n)

theorem isDigitChar_eq_isDigit (c : Char) : isDigitChar c = c.isDigit := rfl

/-- Further digits never make a number smaller. -/
theorem le_ofDigitChars (ds : List Char) (n : Nat) : n ≤ Nat.ofDigitChars 10 ds n := by
  induction ds generalizing n with
  | nil => exact Nat.le_refl n
  | cons c ds ih =>
      rw [Nat.ofDigitChars_cons]
      exact Nat.le_trans (by omega) (ih _)

/-- Digits are read in full if and only if their value stays within the limit. It never comes back
from beyond, so that it may be judged digit by digit. -/
theorem readDigits_eq_ok_iff {negative : Bool} {limit value n : Nat} {ds : List Char}
    (hValue : value ≤ limit) :
    readDigits negative limit value ds = .ok n ↔
      (∀ c ∈ ds, c.isDigit = true) ∧ Nat.ofDigitChars 10 ds value = n ∧ n ≤ limit := by
  induction ds generalizing value with
  | nil =>
      simp only [readDigits, Except.ok.injEq, List.not_mem_nil, false_imp_iff, implies_true,
        true_and, Nat.ofDigitChars_nil]
      exact (and_iff_left_of_imp fun h => h ▸ hValue).symm
  | cons c ds ih =>
      have hGrows := le_ofDigitChars ds (10 * value + (c.toNat - '0'.toNat))
      rw [readDigits, List.forall_mem_cons, Nat.ofDigitChars_cons, isDigitChar_eq_isDigit]
      by_cases hDigit : c.isDigit = true
      · rw [if_pos hDigit]
        by_cases hOver : limit < 10 * value + (c.toNat - '0'.toNat)
        · rw [if_pos hOver]
          refine iff_of_false nofun ?_
          rintro ⟨-, hEq, hLe⟩
          omega
        · rw [if_neg hOver, ih (Nat.not_lt.mp hOver), and_iff_right hDigit]
      · rw [if_neg hDigit]
        exact iff_of_false nofun fun h => hDigit h.1.1

section Signs

variable {ds cs : List Char} {v : Int}

theorem not_isNumeral_of_sign {c : Char} {n : Nat} (h : c.isDigit = false) :
    ¬ IsNumeral (c :: ds) n := by
  intro hNumeral
  have hDigit : c.isDigit = true := hNumeral.isDigit c List.mem_cons_self
  simp [h] at hDigit

theorem spellsInt_minus_iff :
    SpellsInt ('-' :: ds) v ↔ ∃ n : Nat, IsNumeral ds n ∧ -(n : Int) = v := by
  constructor
  · rintro (h | h | h)
    · exact absurd h (not_isNumeral_of_sign rfl)
    · exact ⟨_, h, rfl⟩
  · rintro ⟨n, h, rfl⟩
    exact .minus h

theorem spellsInt_plus_iff : SpellsInt ('+' :: ds) v ↔ ∃ n : Nat, IsNumeral ds n ∧ n = v := by
  constructor
  · rintro (h | h | h)
    · exact absurd h (not_isNumeral_of_sign rfl)
    · exact ⟨_, h, rfl⟩
  · rintro ⟨n, h, rfl⟩
    exact .plus h

theorem spellsInt_bare_iff (hMinus : ∀ ds, cs ≠ '-' :: ds) (hPlus : ∀ ds, cs ≠ '+' :: ds) :
    SpellsInt cs v ↔ ∃ n : Nat, IsNumeral cs n ∧ n = v := by
  constructor
  · rintro (h | h | h)
    · exact ⟨_, h, rfl⟩
    · exact absurd rfl (hPlus _)
    · exact absurd rfl (hMinus _)
  · rintro ⟨n, h, rfl⟩
    exact .bare h

theorem map_readDigits_eq_ok_iff {negative : Bool} {limit : Nat} {f : Nat → Int} (h : ds ≠ []) :
    (readDigits negative limit 0 ds).map f = .ok v ↔
      ∃ n, IsNumeral ds n ∧ n ≤ limit ∧ f n = v := by
  have hOk {n : Nat} : readDigits negative limit 0 ds = .ok n ↔ IsNumeral ds n ∧ n ≤ limit := by
    rw [readDigits_eq_ok_iff (Nat.zero_le _), ← and_assoc]
    exact and_congr_left' ⟨fun hRead => ⟨h, hRead.1, hRead.2⟩, fun hNumeral =>
      ⟨hNumeral.isDigit, hNumeral.value⟩⟩
  cases hRead : readDigits negative limit 0 ds with
  | error fault =>
      refine iff_of_false nofun ?_
      rintro ⟨n, hNumeral, hLe, -⟩
      rw [hOk.mpr ⟨hNumeral, hLe⟩] at hRead
      cases hRead
  | ok n =>
      constructor
      · intro hMap
        obtain ⟨hNumeral, hLe⟩ := hOk.mp hRead
        exact ⟨n, hNumeral, hLe, Except.ok.inj hMap⟩
      · rintro ⟨n', hNumeral, hLe, hValue⟩
        obtain rfl : n = n' := by
          rw [hOk.mpr ⟨hNumeral, hLe⟩] at hRead
          exact (Except.ok.inj hRead).symm
        exact congrArg Except.ok hValue

/-- A bound on the digits is one on the number that they stand for. -/
theorem inRange_iff {limit : Nat} {f : Nat → Int}
    (h : ∀ n, n ≤ limit ↔ -9223372036854775808 ≤ f n ∧ f n ≤ 9223372036854775807) :
    (∃ n, IsNumeral ds n ∧ n ≤ limit ∧ f n = v) ↔
      (∃ n, IsNumeral ds n ∧ f n = v) ∧ -9223372036854775808 ≤ v ∧ v ≤ 9223372036854775807 := by
  constructor
  · rintro ⟨n, hNumeral, hLe, rfl⟩
    exact ⟨⟨n, hNumeral, rfl⟩, (h n).mp hLe⟩
  · rintro ⟨⟨n, hNumeral, rfl⟩, hRange⟩
    exact ⟨n, hNumeral, (h n).mpr hRange, rfl⟩

end Signs

/-- A text is read as the integer that it spells, if that fits into 64 bits. -/
theorem readInt64_eq_ok_iff {cs : List Char} {v : Int} :
    readInt64 cs = .ok v ↔
      SpellsInt cs v ∧ -9223372036854775808 ≤ v ∧ v ≤ 9223372036854775807 := by
  unfold readInt64
  split
  · refine iff_of_false nofun ?_
    rintro ⟨⟨h⟩, -⟩
    exact h.ne_nil rfl
  · refine iff_of_false nofun fun h => ?_
    obtain ⟨n, hNumeral, -⟩ := spellsInt_minus_iff.mp h.1
    exact hNumeral.ne_nil rfl
  · refine iff_of_false nofun fun h => ?_
    obtain ⟨n, hNumeral, -⟩ := spellsInt_plus_iff.mp h.1
    exact hNumeral.ne_nil rfl
  · rename_i ds hSome
    have hSign : (do let n ← readDigits true (1 <<< 63) 0 ds; pure (n : Int)).map (-·) =
        (readDigits true (1 <<< 63) 0 ds).map fun n : Nat => -(n : Int) := by
      cases readDigits true (1 <<< 63) 0 ds <;> rfl
    rw [hSign, map_readDigits_eq_ok_iff hSome, spellsInt_minus_iff]
    exact inRange_iff fun n => by omega
  · rename_i ds hSome
    rw [map_readDigits_eq_ok_iff hSome, spellsInt_plus_iff]
    exact inRange_iff fun n => by rw [Int.ofNat_eq_natCast]; omega
  -- What begins with neither sign is read from its first character on.
  · rename_i hSome _ _ hMinus hPlus
    rw [map_readDigits_eq_ok_iff hSome, spellsInt_bare_iff hMinus hPlus]
    exact inRange_iff fun n => by rw [Int.ofNat_eq_natCast]; omega

theorem isNumeral_toDigits (n : Nat) : IsNumeral (Nat.toDigits 10 n) n where
  ne_nil := Nat.toDigits_ne_nil
  isDigit _ h := Nat.isDigit_of_mem_toDigits (by decide) (by decide) h
  value := Nat.ofDigitChars_ten_toDigits

theorem spellsInt_toString (v : Int) : SpellsInt (toString v).toList v := by
  rw [Int.toString_eq_repr, Int.repr_eq_if]
  split
  · rename_i hSign
    have hNumeral := SpellsInt.bare (isNumeral_toDigits v.toNat)
    rwa [Int.toNat_of_nonneg hSign, ← Nat.toList_repr] at hNumeral
  · rename_i hSign
    have hNumeral := SpellsInt.minus (isNumeral_toDigits (-v).toNat)
    rw [Int.toNat_of_nonneg (by omega), Int.neg_neg] at hNumeral
    rw [String.toList_append, Nat.toList_repr]
    exact hNumeral

end SpeedTest
