import SpeedTest.Number.Decimal
import SpeedTest.Proofs.Number.Magnitude

/-! What the text of a rounded number looks like. A finite number has digits in front of a point and
as many behind it as there are places, and a minus sign wherever its sign bit is set, be it zero or
not. The text of any number is ASCII and short. -/

namespace SpeedTest

/-- A decimal figure: digits, a point and further digits as the places, behind a minus sign if there
is one. -/
def IsFigure (signed : Bool) (places : Nat) (text : String) : Prop :=
  ∃ whole fraction : List Char, whole ≠ [] ∧ fraction.length = places ∧
    (∀ c ∈ whole ++ fraction, c.isDigit = true) ∧
    text.toList = (if signed then ['-'] else []) ++ whole ++ '.' :: fraction

theorem isDigit_of_mem_digitsOf {n : Nat} {c : Char} (h : c ∈ digitsOf n) : c.isDigit = true :=
  Nat.isDigit_of_mem_toDigits (by decide) (by decide) h

theorem isDigit_of_mem_padDigits {width n : Nat} {c : Char} (h : c ∈ padDigits width n) :
    c.isDigit = true := by
  rcases List.mem_append.mp h with hZero | hDigit
  · rw [List.eq_of_mem_replicate hZero]
    rfl
  · exact isDigit_of_mem_digitsOf hDigit

/-- An ASCII text, as it can be computed. -/
theorem toNat_lt_of_all {cs : List Char} (h : (cs.all fun c => decide (c.toNat < 0x80)) = true) :
    ∀ c ∈ cs, c.toNat < 0x80 := by
  simpa using h

theorem toNat_lt_of_isDigit {c : Char} (h : c.isDigit = true) : c.toNat < 0x80 := by
  simp only [Char.isDigit, ge_iff_le, Bool.and_eq_true, decide_eq_true_eq] at h
  exact Nat.lt_of_le_of_lt h.2 (by decide)

/-- Digits that fit into the width are filled up to it. -/
theorem length_padDigits {width n : Nat} (hWidth : 0 < width) (h : n < 10 ^ width) :
    (padDigits width n).length = width := by
  have hFits : (digitsOf n).length ≤ width :=
    (Nat.length_toDigits_le_iff (by decide) hWidth).mpr h
  rw [padDigits, List.length_append, List.length_replicate]
  omega

namespace Binary64

theorem isFigure_pointed {places : Nat} (hPlaces : 0 < places) (n : Nat) (signed : Bool) :
    IsFigure signed places
      (String.ofList ((if signed then ['-'] else []) ++ pointed places n)) := by
  refine ⟨digitsOf (n / tenPow places), padDigits places (n % tenPow places),
    Nat.toDigits_ne_nil, ?_, ?_, ?_⟩
  · exact length_padDigits hPlaces (Nat.mod_lt n (Nat.pow_pos (by decide)))
  · intro c hc
    rcases List.mem_append.mp hc with hWhole | hFraction
    · exact isDigit_of_mem_digitsOf hWhole
    · exact isDigit_of_mem_padDigits hFraction
  · rw [String.toList_ofList, pointed, List.append_assoc]

/-- The text of a finite number is a figure, with a minus sign exactly where its sign bit is set. -/
theorem isFigure_fixed {x : Binary64} (hFinite : x.isFinite = true) {places : Nat}
    (hPlaces : 0 < places) : IsFigure x.negative places (x.fixed places) := by
  have hFigure := isFigure_pointed hPlaces (x.unitsOf places) x.negative
  have hText : x.fixedChars places =
      (if x.negative then ['-'] else []) ++ pointed places (x.unitsOf places) := by
    rw [fixedChars, isNaN_of_isFinite hFinite, isInfinite_of_isFinite hFinite]
    cases x.negative <;> rfl
  rwa [fixed, hText]

section Characters

variable {x : Binary64} {places : Nat}

/-- The text of a number is ASCII, be it finite or not. -/
theorem toNat_lt_of_mem_fixedChars {c : Char} (h : c ∈ x.fixedChars places) : c.toNat < 0x80 := by
  have hPointed {n : Nat} (h : c ∈ pointed places n) : c.toNat < 0x80 := by
    rcases List.mem_append.mp h with hWhole | hRest
    · exact toNat_lt_of_isDigit (isDigit_of_mem_digitsOf hWhole)
    · rcases List.mem_cons.mp hRest with rfl | hFraction
      · decide
      · exact toNat_lt_of_isDigit (isDigit_of_mem_padDigits hFraction)
  have hLetters : ∀ c ∈ ['N', 'a', 'N', 'i', 'n', 'f', '-'], c.toNat < 0x80 :=
    toNat_lt_of_all (by decide)
  have hBody (h : c ∈ if x.isInfinite then ['i', 'n', 'f'] else pointed places (x.unitsOf places)) :
      c.toNat < 0x80 := by
    split at h
    · exact hLetters c (List.mem_of_mem_drop (i := 3) (List.mem_append_left ['-'] h))
    · exact hPointed h
  unfold fixedChars at h
  split at h
  · exact hLetters c (List.mem_append_left ['i', 'n', 'f', '-'] h)
  · dsimp only at h
    split at h
    · rcases List.mem_cons.mp h with rfl | h
      · decide
      · exact hBody h
    · exact hBody h

theorem scale_le_of_isFinite (h : x.isFinite = true) : x.scale ≤ 971 := by
  rw [isFinite, decide_eq_true_eq] at h
  have hField : x.exponentField < 2047 := (Nat.div_lt_iff_lt_mul (by decide)).mpr h
  unfold scale
  split <;> omega

/-- A number below `2 ^ (53 + k)` stays so when its text is rounded up. -/
theorem unitsOf_le {k : Nat} (h : x.scale ≤ k) (places : Nat) :
    x.unitsOf places ≤ 2 ^ (53 + k) * tenPow places := by
  have hRaised : raise (x.significand * tenPow places) x.scale <
      2 ^ (53 + k) * tenPow places := by
    rw [raise_eq, Nat.mul_right_comm, Nat.pow_add]
    refine Nat.mul_lt_mul_of_pos_right ?_ (Nat.pow_pos (by decide))
    exact Nat.mul_lt_mul_of_lt_of_le x.significand_lt
      (Nat.pow_le_pow_right (by decide) (by omega)) (Nat.two_pow_pos _)
  calc x.unitsOf places
      ≤ raise (x.significand * tenPow places) x.scale / raise 1 (-x.scale) + 1 := roundDiv_le _ _
    _ ≤ raise (x.significand * tenPow places) x.scale + 1 :=
        Nat.add_le_add_right (Nat.div_le_self _ _) 1
    _ ≤ 2 ^ (53 + k) * tenPow places := hRaised

/-- Three binary digits in front of the point take at most one decimal digit. -/
theorem length_pointed_le {k n : Nat} (h : x.scale ≤ k) (hn : 53 + k ≤ 3 * n)
    (hPlaces : 0 < places) :
    (pointed places (x.unitsOf places)).length ≤ n + 2 + places := by
  have hWhole : x.unitsOf places / tenPow places < 10 ^ (n + 1) :=
    calc x.unitsOf places / tenPow places
        ≤ 2 ^ (53 + k) := Nat.div_le_of_le_mul (Nat.mul_comm _ _ ▸ unitsOf_le h places)
      _ ≤ 2 ^ (3 * n) := Nat.pow_le_pow_right (by decide) hn
      _ = 8 ^ n := Nat.pow_mul 2 3 n
      _ ≤ 10 ^ n := Nat.pow_le_pow_left (by decide) n
      _ < 10 ^ (n + 1) := Nat.pow_lt_pow_right (by decide) (Nat.lt_succ_self n)
  have hDigits : (digitsOf (x.unitsOf places / tenPow places)).length ≤ n + 1 :=
    (Nat.length_toDigits_le_iff (by decide) (Nat.succ_pos n)).mpr hWhole
  have hFraction : (padDigits places (x.unitsOf places % tenPow places)).length = places :=
    length_padDigits hPlaces (Nat.mod_lt _ (Nat.pow_pos (by decide)))
  rw [pointed, List.length_append, List.length_cons, hFraction]
  omega

theorem isFinite_of_isNaN_isInfinite (hNaN : ¬ x.isNaN = true) (hInfinite : ¬ x.isInfinite = true) :
    x.isFinite = true := by
  rw [isNaN, decide_eq_true_eq] at hNaN
  rw [isInfinite, decide_eq_true_eq] at hInfinite
  rw [isFinite, decide_eq_true_eq]
  omega

/-- The scale of a finite number is at most 971, so that its text is short. -/
theorem length_fixedChars_le (x : Binary64) (hPlaces : 0 < places) :
    (x.fixedChars places).length ≤ 345 + places := by
  unfold fixedChars
  split
  · simp only [List.length_cons, List.length_nil]
    omega
  · rename_i hNaN
    have hBody : (if x.isInfinite then ['i', 'n', 'f']
        else pointed places (x.unitsOf places)).length ≤ 344 + places := by
      split
      · simp only [List.length_cons, List.length_nil]
        omega
      · rename_i hInfinite
        have hFinite := isFinite_of_isNaN_isInfinite hNaN hInfinite
        exact length_pointed_le (k := 971) (n := 342) (scale_le_of_isFinite hFinite) (by decide)
          hPlaces
    dsimp only
    split
    · rw [List.length_cons]
      omega
    · omega

end Characters

end Binary64

end SpeedTest
