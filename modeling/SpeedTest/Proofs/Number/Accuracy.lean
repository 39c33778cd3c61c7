import Mathlib.Algebra.Order.Field.Rat
import Mathlib.Tactic.FieldSimp
import Mathlib.Tactic.Linarith
import Mathlib.Tactic.Positivity
import SpeedTest.Proofs.Number.Decimal

/-! How exact the text of a number is. Read back as a fraction of integers, it is at most half a
unit of its last place away from the number, whose value is a fraction of integers as well. -/

namespace SpeedTest

/-! ### Reading figures -/

/-- The number that digits with a point among them write. -/
def readPointed? (text : List Char) : Option ℚ :=
  let whole := text.takeWhile Char.isDigit
  match text.dropWhile Char.isDigit with
  | '.' :: fraction =>
    if whole ≠ [] ∧ fraction ≠ [] ∧ fraction.all Char.isDigit then
      some (Nat.ofDigitChars 10 (whole ++ fraction) 0 / 10 ^ fraction.length)
    else none
  | _ => none

/-- The number that a decimal figure writes. -/
def readFigure? (text : List Char) : Option ℚ :=
  match text with
  | '-' :: rest => (readPointed? rest).map (- ·)
  | rest => readPointed? rest

theorem ofDigitChars_padDigits (width n : Nat) : Nat.ofDigitChars 10 (padDigits width n) 0 = n := by
  rw [padDigits, Nat.ofDigitChars_append, Nat.ofDigitChars_replicate_zero, Nat.mul_zero]
  exact Nat.ofDigitChars_ten_toDigits

namespace Binary64

theorem readPointed?_pointed {places : Nat} (hPlaces : 0 < places) (n : Nat) :
    readPointed? (pointed places n) = some ((n : ℚ) / 10 ^ places) := by
  have hDigits : ∀ c ∈ digitsOf (n / tenPow places), c.isDigit = true :=
    fun _ => isDigit_of_mem_digitsOf
  have hLength : (padDigits places (n % tenPow places)).length = places :=
    length_padDigits hPlaces (Nat.mod_lt n (Nat.pow_pos (by decide)))
  have hFraction : padDigits places (n % tenPow places) ≠ [] := by
    intro hNil
    rw [hNil] at hLength
    exact Nat.ne_of_gt hPlaces hLength.symm
  have hAll : (padDigits places (n % tenPow places)).all Char.isDigit = true :=
    List.all_eq_true.mpr fun _ => isDigit_of_mem_padDigits
  have hValue : Nat.ofDigitChars 10
      (digitsOf (n / tenPow places) ++ padDigits places (n % tenPow places)) 0 = n := by
    rw [Nat.ofDigitChars_append, Nat.ofDigitChars_eq_ofDigitChars_zero, ofDigitChars_padDigits,
      hLength, digitsOf, Nat.ofDigitChars_ten_toDigits]
    exact Nat.div_add_mod n (10 ^ places)
  have hWhole : (pointed places n).takeWhile Char.isDigit = digitsOf (n / tenPow places) := by
    rw [pointed, List.takeWhile_append_of_pos hDigits]
    exact List.append_nil _
  have hRest : (pointed places n).dropWhile Char.isDigit =
      '.' :: padDigits places (n % tenPow places) := by
    rw [pointed, List.dropWhile_append_of_pos hDigits]
    rfl
  rw [readPointed?, hWhole, hRest]
  simp only [hValue, hLength]
  exact if_pos ⟨Nat.toDigits_ne_nil, hFraction, hAll⟩

theorem readFigure?_pointed {places : Nat} (hPlaces : 0 < places) (n : Nat) :
    readFigure? (pointed places n) = some ((n : ℚ) / 10 ^ places) := by
  rw [← readPointed?_pointed hPlaces n]
  obtain ⟨c, ds, hDigits⟩ := List.exists_cons_of_ne_nil
    (Nat.toDigits_ne_nil (b := 10) (n := n / tenPow places))
  have hDigit : c.isDigit = true := isDigit_of_mem_digitsOf (n := n / tenPow places)
    (by rw [digitsOf, hDigits]; exact List.mem_cons_self)
  have hText : pointed places n = c :: (ds ++ '.' :: padDigits places (n % tenPow places)) := by
    rw [pointed, digitsOf, hDigits, List.cons_append]
  rw [hText]
  unfold readFigure?
  split
  · rename_i hMinus
    cases hMinus
    cases hDigit
  · rfl

end Binary64

/-! ### Rounding -/

/-- A rounded quotient is at most one half away from the quotient. -/
theorem roundDiv_error {num den : Nat} (hPos : 0 < den) :
    |(roundDiv num den : ℚ) - num / den| ≤ 1 / 2 := by
  have hNat : 2 * num ≤ (2 * roundDiv num den + 1) * den ∧
      2 * roundDiv num den * den ≤ 2 * num + den := by
    -- With the quotient and the remainder as unknowns each case of the rounding is linear in the
    -- product of divisor and quotient.
    have hSplit := Nat.div_add_mod num den
    have hRest := Nat.mod_lt num hPos
    unfold roundDiv
    dsimp only
    generalize num / den = floor at *
    generalize num % den = rest at *
    subst hSplit
    split
    · constructor <;> linarith
    · split
      · constructor <;> linarith
      · split <;> constructor <;> linarith
  have hDen : (0 : ℚ) < den := by exact_mod_cast hPos
  have hLow : (2 * num : ℚ) ≤ (2 * roundDiv num den + 1) * den := by exact_mod_cast hNat.1
  have hHigh : (2 * roundDiv num den * den : ℚ) ≤ 2 * num + den := by exact_mod_cast hNat.2
  rw [abs_le]
  constructor
  · rw [neg_le_sub_iff_le_add, div_le_iff₀ hDen]
    linarith
  · rw [sub_le_iff_le_add, ← sub_le_iff_le_add', le_div_iff₀ hDen]
    linarith

/-- Shifting in both directions is multiplying with a power of two. -/
theorem raise_div_raise (n : Nat) (e : Int) : (raise n e : ℚ) / raise 1 (-e) = n * 2 ^ e := by
  have hSplit : (2 : ℚ) ^ e = 2 ^ e.toNat / 2 ^ (-e).toNat := by
    rw [← zpow_natCast, ← zpow_natCast, ← zpow_sub₀ two_ne_zero, Int.toNat_sub_toNat_neg]
  rw [raise_eq, raise_eq, hSplit]
  push_cast
  rw [one_mul, mul_div_assoc]

namespace Binary64

/-- The value of a finite number. -/
def value (x : Binary64) : ℚ := x.signed * 2 ^ x.scale

theorem unitsOf_error (x : Binary64) (places : Nat) :
    |(x.unitsOf places : ℚ) / 10 ^ places - x.significand * 2 ^ x.scale| ≤
      1 / 2 / 10 ^ places := by
  have hPos : 0 < raise 1 (-x.scale) := by
    rw [raise_eq, Nat.one_mul]
    exact Nat.two_pow_pos _
  have hError : |(x.unitsOf places : ℚ) - raise (x.significand * tenPow places) x.scale /
      raise 1 (-x.scale)| ≤ 1 / 2 := roundDiv_error hPos
  rw [raise_div_raise] at hError
  have hTen : (0 : ℚ) < 10 ^ places := by positivity
  have hScaled : (x.unitsOf places : ℚ) / 10 ^ places - x.significand * 2 ^ x.scale =
      (x.unitsOf places - (x.significand * tenPow places : Nat) * 2 ^ x.scale) / 10 ^ places := by
    rw [show tenPow places = 10 ^ places from rfl]
    push_cast
    field_simp
  rw [hScaled, abs_div, abs_of_pos hTen]
  exact div_le_div_of_nonneg_right hError hTen.le

/-- The text of a finite number is a figure, and what it writes is at most half a unit of its last
place away from the number. -/
theorem fixed_error {x : Binary64} (hFinite : x.isFinite = true) {places : Nat}
    (hPlaces : 0 < places) :
    ∃ q, readFigure? (x.fixed places).toList = some q ∧ |q - x.value| ≤ 1 / 2 / 10 ^ places := by
  have hError := unitsOf_error x places
  rw [fixed, String.toList_ofList, fixedChars, isNaN_of_isFinite hFinite,
    isInfinite_of_isFinite hFinite, value, signed]
  simp only [Bool.false_eq_true, if_false]
  cases x.negative with
  | false => exact ⟨_, readFigure?_pointed hPlaces _, hError⟩
  | true =>
      refine ⟨-(x.unitsOf places / 10 ^ places), ?_, ?_⟩
      · simp only [if_true, readFigure?, readPointed?_pointed hPlaces, Option.map_some]
      · rw [if_pos rfl, Int.cast_neg, Int.cast_natCast, neg_mul, ← neg_sub_neg, neg_neg, neg_neg,
          abs_sub_comm]
        exact hError

end Binary64

end SpeedTest
