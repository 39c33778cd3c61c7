import Mathlib.Algebra.Group.Nat.Defs
import SpeedTest.Rate

/-! How large a rounded number can be. Bounds are powers of two and leave room for the rounding of
each step, so that they carry through sums, products and quotients. They suffice to see that no
count of bytes and no length of time has a rate that is not finite. -/

namespace SpeedTest

theorem raise_eq (n : Nat) (e : Int) : raise n e = n * 2 ^ e.toNat := Nat.shiftLeft_eq n e.toNat

theorem roundDiv_le (num den : Nat) : roundDiv num den ≤ num / den + 1 := by
  unfold roundDiv
  dsimp only
  split
  · exact Nat.le_succ _
  split
  · exact Nat.le_refl _
  split
  · exact Nat.le_succ _
  · exact Nat.le_refl _

namespace Binary64

theorem leadingPattern_eq : leadingPattern = 2 ^ 52 := rfl

theorem floorLog_le (num den : Nat) : floorLog num den ≤ (num.log2 : Int) - den.log2 := by
  unfold floorLog
  dsimp only
  split <;> omega

theorem le_floorLog (num den : Nat) : (num.log2 : Int) - den.log2 - 1 ≤ floorLog num den := by
  unfold floorLog
  dsimp only
  split <;> omega

theorem roundRatio_le_infinity (num den : Nat) : roundRatio num den ≤ infinityMagnitude := by
  unfold roundRatio
  dsimp only
  split
  · exact Nat.zero_le _
  · exact Nat.min_le_right _ _

/-- The significand of a rounded quotient, before a carry into the exponent. -/
theorem quotient_lt {num den n d : Nat} {q : Int} (hNum : num < 2 ^ n) (hDen : 2 ^ d ≤ den)
    (hq : (n : Int) ≤ d + q + 54) : raise num (-q) / raise den q < 2 ^ 54 := by
  have hTwo (a b : Nat) : 2 ^ a * 2 ^ b = 2 ^ (a + b) := (Nat.pow_add 2 a b).symm
  have hPos : 0 < raise den q := by
    rw [raise_eq]
    exact Nat.mul_pos (Nat.lt_of_lt_of_le (Nat.two_pow_pos d) hDen) (Nat.two_pow_pos _)
  rw [Nat.div_lt_iff_lt_mul hPos, raise_eq, raise_eq]
  calc num * 2 ^ (-q).toNat < 2 ^ n * 2 ^ (-q).toNat :=
        Nat.mul_lt_mul_of_pos_right hNum (Nat.two_pow_pos _)
    _ ≤ 2 ^ 54 * (2 ^ d * 2 ^ q.toNat) := by
        rw [hTwo, hTwo, hTwo]
        exact Nat.pow_le_pow_right (by decide) (by omega)
    _ ≤ 2 ^ 54 * (den * 2 ^ q.toNat) :=
        Nat.mul_le_mul_left _ (Nat.mul_le_mul_right _ hDen)

theorem roundRatio_le {num den n d K : Nat} (hNum : num < 2 ^ n) (hDen : 2 ^ d ≤ den)
    (hK : n + 1025 ≤ K + d) (hFour : 4 ≤ K) : roundRatio num den ≤ K * leadingPattern := by
  unfold roundRatio
  dsimp only
  split
  · exact Nat.zero_le _
  rename_i hZero
  have hDenPos : den ≠ 0 := Nat.ne_of_gt (Nat.lt_of_lt_of_le (Nat.two_pow_pos d) hDen)
  have hNumLog : num.log2 < n := (Nat.log2_lt hZero).mpr hNum
  have hDenLog : d ≤ den.log2 := (Nat.le_log2 hDenPos).mpr hDen
  have hLow := le_floorLog num den
  have hHigh := floorLog_le num den
  generalize hq : max (floorLog num den - 52) (-1074) = q
  have hQuotient := quotient_lt (q := q) (Nat.lt_log2_self (n := num)) (Nat.log2_self_le hDenPos)
    (by omega)
  have hRound := roundDiv_le (raise num (-q)) (raise den q)
  have hExponent : (q + 1074).toNat + 4 ≤ K := by omega
  have hProduct := Nat.mul_le_mul_right leadingPattern hExponent
  rw [Nat.add_mul] at hProduct
  rw [leadingPattern_eq] at hProduct ⊢
  refine Nat.le_trans (Nat.min_le_left _ _) ?_
  omega

theorem le_roundRatio {num den n d K : Nat} (hNum : 2 ^ n ≤ num) (hPos : 0 < den)
    (hDen : den < 2 ^ d) (hK : K + d ≤ n + 1022) (hTop : K ≤ 2047) :
    K * leadingPattern ≤ roundRatio num den := by
  have hZero : num ≠ 0 := Nat.ne_of_gt (Nat.lt_of_lt_of_le (Nat.two_pow_pos n) hNum)
  have hNumLog : n ≤ num.log2 := (Nat.le_log2 hZero).mpr hNum
  have hDenLog : den.log2 < d := (Nat.log2_lt (Nat.ne_of_gt hPos)).mpr hDen
  have hLow := le_floorLog num den
  rw [roundRatio, if_neg hZero]
  dsimp only
  generalize hq : max (floorLog num den - 52) (-1074) = q
  have hExponent : K ≤ (q + 1074).toNat := by omega
  exact Nat.le_min.mpr
    ⟨Nat.le_trans (Nat.mul_le_mul_right _ hExponent) (Nat.le_add_right _ _),
      Nat.mul_le_mul_right _ hTop⟩

/-- A quotient of two significands, where `e` is the difference of their scales. -/
theorem roundQuotient_le {a b n d K : Nat} {e : Int} (ha : a < 2 ^ n) (hb : 2 ^ d ≤ b)
    (hK : n + e + 1025 ≤ K + d) (hFour : 4 ≤ K) :
    roundRatio (raise a e) (raise b (-e)) ≤ K * leadingPattern := by
  have hNum : raise a e < 2 ^ (n + e.toNat) := by
    rw [raise_eq, Nat.pow_add]
    exact Nat.mul_lt_mul_of_pos_right ha (Nat.two_pow_pos _)
  have hDen : 2 ^ (d + (-e).toNat) ≤ raise b (-e) := by
    rw [raise_eq, Nat.pow_add]
    exact Nat.mul_le_mul_right _ hb
  exact roundRatio_le hNum hDen (by omega) hFour

theorem le_roundQuotient {a b n d K : Nat} {e : Int} (ha : 2 ^ n ≤ a) (hPos : 0 < b)
    (hb : b < 2 ^ d) (hK : (K : Int) + d ≤ n + e + 1022) (hTop : K ≤ 2047) :
    K * leadingPattern ≤ roundRatio (raise a e) (raise b (-e)) := by
  have hNum : 2 ^ (n + e.toNat) ≤ raise a e := by
    rw [raise_eq, Nat.pow_add]
    exact Nat.mul_le_mul_right _ ha
  have hDen : raise b (-e) < 2 ^ (d + (-e).toNat) := by
    rw [raise_eq, Nat.pow_add]
    exact Nat.mul_lt_mul_of_pos_right hb (Nat.two_pow_pos _)
  have hDenPos : 0 < raise b (-e) := by
    rw [raise_eq]
    exact Nat.mul_pos hPos (Nat.two_pow_pos _)
  exact le_roundRatio hNum hDenPos hDen (by omega) hTop

/-- A number without a sign whose pattern is at least the one of `2 ^ (a - 1023)`. It may be
infinite. -/
structure AtLeast (a : Nat) (x : Binary64) : Prop where
  negative : x.negative = false
  le_magnitude : a * leadingPattern ≤ x.magnitude
  magnitude_le : x.magnitude ≤ infinityMagnitude

/-- A number without a sign whose pattern is at most the one of `2 ^ (a - 1023)`. -/
structure UpTo (a : Nat) (x : Binary64) : Prop where
  negative : x.negative = false
  magnitude_le : x.magnitude ≤ a * leadingPattern

variable {x y : Binary64} {a b m : Nat}

theorem infinityMagnitude_lt : infinityMagnitude < signPattern := by decide

/-- A pattern below the sign bit is the magnitude of its number, which has no sign. -/
theorem toNat_ofMagnitude (h : m ≤ infinityMagnitude) :
    (ofMagnitude false m).bits.toNat = m := by
  have hFits : m < 2 ^ 64 := Nat.lt_of_le_of_lt h (by decide)
  rw [ofMagnitude, if_neg Bool.false_ne_true, Nat.zero_add, UInt64.toNat_ofNat',
    Nat.mod_eq_of_lt hFits]

theorem negative_ofMagnitude (h : m ≤ infinityMagnitude) :
    (ofMagnitude false m).negative = false := by
  have hSign := infinityMagnitude_lt
  rw [negative, toNat_ofMagnitude h, decide_eq_false_iff_not]
  omega

theorem magnitude_ofMagnitude (h : m ≤ infinityMagnitude) :
    (ofMagnitude false m).magnitude = m := by
  rw [magnitude, toNat_ofMagnitude h]
  exact Nat.mod_eq_of_lt (Nat.lt_of_le_of_lt h infinityMagnitude_lt)

theorem AtLeast.ofMagnitude (h : a * leadingPattern ≤ m) (hm : m ≤ infinityMagnitude) :
    AtLeast a (ofMagnitude false m) :=
  ⟨negative_ofMagnitude hm, (magnitude_ofMagnitude hm).symm ▸ h,
    (magnitude_ofMagnitude hm).symm ▸ hm⟩

theorem UpTo.ofMagnitude (h : m ≤ a * leadingPattern) (hm : m ≤ infinityMagnitude) :
    UpTo a (ofMagnitude false m) :=
  ⟨negative_ofMagnitude hm, (magnitude_ofMagnitude hm).symm ▸ h⟩

theorem AtLeast.infinity (h : a ≤ 2047) : AtLeast a (infinity false) := by
  apply AtLeast.ofMagnitude
  · exact Nat.mul_le_mul_right leadingPattern h
  · exact Nat.le_refl infinityMagnitude

theorem AtLeast.le_infinity (h : AtLeast a x) : a ≤ 2047 :=
  Nat.le_of_mul_le_mul_right (Nat.le_trans h.le_magnitude h.magnitude_le) (by decide)

theorem AtLeast.mono (h : AtLeast a x) (hLe : b ≤ a) : AtLeast b x :=
  ⟨h.negative, Nat.le_trans (Nat.mul_le_mul_right _ hLe) h.le_magnitude, h.magnitude_le⟩

theorem AtLeast.isNaN (h : AtLeast a x) : x.isNaN = false := by
  rw [Binary64.isNaN, decide_eq_false_iff_not, Nat.not_lt]
  exact h.magnitude_le

theorem AtLeast.isZero (h : AtLeast a x) (hPos : 0 < a) : x.isZero = false := by
  have hLow := h.le_magnitude
  have hSome := Nat.mul_pos hPos (by decide : 0 < leadingPattern)
  rw [Binary64.isZero, decide_eq_false_iff_not]
  omega

theorem UpTo.isFinite (h : UpTo a x) (hLt : a < 2047) : x.isFinite = true := by
  rw [Binary64.isFinite, decide_eq_true_eq]
  exact Nat.lt_of_le_of_lt h.magnitude_le (Nat.mul_lt_mul_of_pos_right hLt (by decide))

theorem isNaN_of_isFinite (h : x.isFinite = true) : x.isNaN = false := by
  rw [isFinite, decide_eq_true_eq] at h
  rw [isNaN, decide_eq_false_iff_not]
  omega

theorem isInfinite_of_isFinite (h : x.isFinite = true) : x.isInfinite = false := by
  rw [isFinite, decide_eq_true_eq] at h
  rw [isInfinite, decide_eq_false_iff_not]
  omega

theorem significand_lt (x : Binary64) : x.significand < 2 ^ 53 := by
  have hFraction : x.fraction < leadingPattern := Nat.mod_lt _ (by decide)
  rw [leadingPattern_eq] at hFraction
  unfold significand
  rw [leadingPattern_eq]
  split <;> omega

theorem exponentField_pos (h : AtLeast a x) (hPos : 0 < a) : 0 < x.exponentField :=
  Nat.lt_of_lt_of_le hPos ((Nat.le_div_iff_mul_le (by decide)).mpr h.le_magnitude)

theorem AtLeast.le_significand (h : AtLeast a x) (hPos : 0 < a) : 2 ^ 52 ≤ x.significand := by
  rw [significand, if_neg (Nat.ne_of_gt (exponentField_pos h hPos))]
  exact Nat.le_add_right _ _

theorem AtLeast.le_scale (h : AtLeast a x) (hPos : 0 < a) : (a : Int) - 1075 ≤ x.scale := by
  have hField : a ≤ x.exponentField := (Nat.le_div_iff_mul_le (by decide)).mpr h.le_magnitude
  rw [scale, if_neg (Nat.ne_of_gt (exponentField_pos h hPos))]
  omega

theorem UpTo.scale_le (h : UpTo a x) (hPos : 0 < a) : x.scale ≤ (a : Int) - 1075 := by
  have hField : x.exponentField ≤ a := Nat.div_le_of_le_mul (Nat.mul_comm _ _ ▸ h.magnitude_le)
  unfold scale
  split <;> omega

theorem UpTo.ofNat {n k : Nat} (h : n < 2 ^ k) (hK : k + 1025 ≤ a) : UpTo a (ofNat n) :=
  .ofMagnitude (roundRatio_le h (Nat.le_refl (2 ^ 0)) hK (by omega)) (roundRatio_le_infinity _ _)

theorem AtLeast.ofNat {n k : Nat} (h : 2 ^ k ≤ n) (hK : a + 1 ≤ k + 1022) (hTop : a ≤ 2047) :
    AtLeast a (ofNat n) :=
  .ofMagnitude (le_roundRatio h Nat.one_pos (by decide : 1 < 2 ^ 1) hK hTop)
    (roundRatio_le_infinity _ _)

theorem AtLeast.ofNat_of_ne_zero {n : Nat} (h : n ≠ 0) : AtLeast 1021 (Binary64.ofNat n) := by
  have hOne : 2 ^ 0 ≤ n := Nat.pos_of_ne_zero h
  exact .ofNat hOne (by decide) (by decide)

/-- The product of two finite numbers. -/
theorem UpTo.mul (hx : UpTo a x) (hy : UpTo b y) (ha : 0 < a ∧ a < 2047) (hb : 0 < b ∧ b < 2047)
    {K : Nat} (hK : a + b ≤ K + 1019) (hFour : 4 ≤ K) : UpTo K (x.mul y) := by
  have hxFinite := hx.isFinite ha.2
  have hyFinite := hy.isFinite hb.2
  have hxScale := hx.scale_le ha.1
  have hyScale := hy.scale_le hb.1
  have hProduct : x.significand * y.significand < 2 ^ (53 + 53) := by
    rw [Nat.pow_add]
    exact Nat.mul_lt_mul'' x.significand_lt y.significand_lt
  simp only [Binary64.mul, isNaN_of_isFinite hxFinite, isNaN_of_isFinite hyFinite,
    isInfinite_of_isFinite hxFinite, isInfinite_of_isFinite hyFinite, hx.negative, hy.negative,
    Bool.or_self, Bool.false_eq_true, if_false, bne_self_eq_false]
  exact .ofMagnitude
    (roundQuotient_le hProduct (Nat.le_refl (2 ^ 0)) (by omega) hFour)
    (roundRatio_le_infinity _ _)

theorem AtLeast.mul (hx : AtLeast a x) (hy : AtLeast b y) (ha : 0 < a) (hb : 0 < b)
    {K : Nat} (hK : K + 1025 ≤ a + b) (hTop : K ≤ 2047) : AtLeast K (x.mul y) := by
  have hxScale := hx.le_scale ha
  have hyScale := hy.le_scale hb
  have hProduct : 2 ^ (52 + 52) ≤ x.significand * y.significand := by
    rw [Nat.pow_add]
    exact Nat.mul_le_mul (hx.le_significand ha) (hy.le_significand hb)
  simp only [Binary64.mul, hx.isNaN, hy.isNaN, hx.isZero ha, hy.isZero hb, hx.negative,
    hy.negative, Bool.or_self, Bool.false_eq_true, if_false, bne_self_eq_false]
  split
  · exact .infinity hTop
  · exact .ofMagnitude
      (le_roundQuotient hProduct Nat.one_pos (by decide : 1 < 2 ^ 1) (by omega) hTop)
      (roundRatio_le_infinity _ _)

/-- The quotient of a finite number by one that is not zero. -/
theorem UpTo.div (hx : UpTo a x) (hy : AtLeast b y) (ha : 0 < a ∧ a < 2047) (hb : 0 < b)
    {K : Nat} (hK : a + 1026 ≤ K + b) (hFour : 4 ≤ K) : UpTo K (x.div y) := by
  have hFinite := hx.isFinite ha.2
  have hxScale := hx.scale_le ha.1
  have hyScale := hy.le_scale hb
  simp only [Binary64.div, isNaN_of_isFinite hFinite, isInfinite_of_isFinite hFinite, hy.isNaN,
    hy.isZero hb, hx.negative, hy.negative, Bool.or_self, Bool.false_eq_true, if_false,
    bne_self_eq_false]
  split
  · exact .ofMagnitude (Nat.zero_le _) (Nat.zero_le _)
  · exact .ofMagnitude
      (roundQuotient_le x.significand_lt (hy.le_significand hb) (by omega) hFour)
      (roundRatio_le_infinity _ _)

/-- The quotient by a finite number that is not zero. Nothing is known of the size of the first
number, so nothing is of that of the quotient. -/
theorem AtLeast.div_zero (hx : AtLeast 0 x) (hy : AtLeast 1 y) (hyFinite : y.isFinite = true) :
    AtLeast 0 (x.div y) := by
  simp only [Binary64.div, isInfinite_of_isFinite hyFinite, hx.isNaN, hy.isNaN,
    hy.isZero Nat.one_pos, hx.negative, hy.negative, Bool.or_self, Bool.false_eq_true, if_false,
    bne_self_eq_false]
  split
  · exact .infinity (Nat.zero_le _)
  · refine .ofMagnitude ?_ (roundRatio_le_infinity _ _)
    rw [Nat.zero_mul]
    exact Nat.zero_le _

theorem AtLeast.div (hx : AtLeast a x) (hy : AtLeast 1 y) (hyTop : UpTo b y) (ha : 0 < a)
    (hb : 0 < b ∧ b < 2047) {K : Nat} (hK : K + b ≤ a + 1021) (hTop : K ≤ 2047) :
    AtLeast K (x.div y) := by
  have hFinite := hyTop.isFinite hb.2
  have hxScale := hx.le_scale ha
  have hyScale := hyTop.scale_le hb.1
  have hPos : 0 < y.significand :=
    Nat.lt_of_lt_of_le (Nat.two_pow_pos 52) (hy.le_significand Nat.one_pos)
  simp only [Binary64.div, isInfinite_of_isFinite hFinite, hx.isNaN, hy.isNaN,
    hy.isZero Nat.one_pos, hx.negative, hy.negative, Bool.or_self, Bool.false_eq_true, if_false,
    bne_self_eq_false]
  split
  · exact .infinity hTop
  · exact .ofMagnitude
      (le_roundQuotient (hx.le_significand ha) hPos y.significand_lt (by omega) hTop)
      (roundRatio_le_infinity _ _)

/-- An infinite number without a sign is as large as one can be. -/
theorem AtLeast.of_isInfinite (hx : AtLeast 0 x) (hInfinite : x.isInfinite = true)
    (h : a ≤ 2047) : AtLeast a x := by
  rw [isInfinite, decide_eq_true_eq] at hInfinite
  refine ⟨hx.negative, ?_, hx.magnitude_le⟩
  rw [hInfinite]
  exact Nat.mul_le_mul_right leadingPattern h

/-- The sum of two numbers without a sign, one of which is not too small. -/
theorem AtLeast.add (hx : AtLeast 0 x) (hy : AtLeast 0 y) (h : AtLeast a x ∨ AtLeast a y)
    (ha : 2 < a) : AtLeast (a - 2) (x.add y) := by
  have hTop : a ≤ 2047 := h.elim AtLeast.le_infinity AtLeast.le_infinity
  simp only [Binary64.add, hx.isNaN, hy.isNaN, hx.negative, hy.negative, Bool.or_self,
    Bool.false_eq_true, if_false, bne_self_eq_false, Bool.and_false, signed, ← Int.natCast_mul,
    ← Int.natCast_add]
  split
  · rename_i hInfinite
    exact hx.of_isInfinite hInfinite (by omega)
  split
  · rename_i hInfinite
    exact hy.of_isInfinite hInfinite (by omega)
  have hTerm {z : Binary64} (hz : AtLeast a z) (k : Nat) :
      2 ^ (52 + k) ≤ z.significand * 2 ^ k ∧ (a : Int) - 1075 ≤ z.scale := by
    rw [Nat.pow_add]
    exact ⟨Nat.mul_le_mul_right _ (hz.le_significand (by omega)), hz.le_scale (by omega)⟩
  generalize hScale : min x.scale y.scale = e
  generalize hSum : x.significand * raise 1 (x.scale - e) + _ = sum
  rw [raise_eq, raise_eq, Nat.one_mul, Nat.one_mul] at hSum
  obtain ⟨k, hLow, hk⟩ : ∃ k : Nat, 2 ^ (52 + k) ≤ sum ∧ (a : Int) - 1075 ≤ k + e := by
    rcases h with hx | hy
    · obtain ⟨hLow, hLe⟩ := hTerm hx (x.scale - e).toNat
      exact ⟨_, hSum ▸ Nat.le_trans hLow (Nat.le_add_right _ _), by omega⟩
    · obtain ⟨hLow, hLe⟩ := hTerm hy (y.scale - e).toNat
      exact ⟨_, hSum ▸ Nat.le_trans hLow (Nat.le_add_left _ _), by omega⟩
  have hPos : 0 < sum := Nat.lt_of_lt_of_le (Nat.two_pow_pos _) hLow
  rw [if_neg (by omega), decide_eq_false (by omega), Int.natAbs_natCast]
  exact .ofMagnitude
    (le_roundQuotient hLow Nat.one_pos (by decide : 1 < 2 ^ 1) (by omega) (by omega))
    (roundRatio_le_infinity _ _)

end Binary64

open Binary64

/-- A length of time in seconds is zero or not too small to divide by. -/
theorem Duration.toBinary64_cases (d : Duration) :
    d.toBinary64.isZero = true ∨ AtLeast 985 d.toBinary64 := by
  have hBillion : AtLeast 1049 (ofNat nanosPerSecond) :=
    .ofNat (by decide : 2 ^ 29 ≤ nanosPerSecond) (by decide) (by decide)
  have hBillionTop : UpTo 1055 (ofNat nanosPerSecond) :=
    .ofNat (by decide : nanosPerSecond < 2 ^ 30) (by decide)
  have hWhole (n : Nat) : AtLeast 0 (ofNat n) :=
    .ofMagnitude (by simp) (roundRatio_le_infinity _ _)
  have hPart : AtLeast 0 ((ofNat d.nanos).div (ofNat nanosPerSecond)) :=
    (hWhole _).div_zero (hBillion.mono (by decide)) (hBillionTop.isFinite (by decide))
  by_cases hSecs : d.secs = 0
  · by_cases hNanos : d.nanos = 0
    · left
      rw [toBinary64, hSecs, hNanos]
      decide
    · right
      have hQuotient : AtLeast 987 ((ofNat d.nanos).div (ofNat nanosPerSecond)) :=
        (AtLeast.ofNat_of_ne_zero hNanos).div (hBillion.mono (by decide)) hBillionTop (by decide)
          (by decide) (by decide) (by decide)
      exact (hWhole _).add hPart (.inr hQuotient) (by decide)
  · right
    have hLow := AtLeast.ofNat_of_ne_zero hSecs
    exact ((hWhole _).add hPart (.inl hLow) (by decide)).mono (by decide)

/-- Whatever is measured, the rate is a finite number and has no sign. -/
theorem rate_isFinite (bytes : UInt64) (elapsed : Duration) :
    (rate bytes elapsed).isFinite = true ∧ (rate bytes elapsed).negative = false := by
  unfold rate
  dsimp only
  split
  · exact ⟨by decide, by decide⟩
  rename_i hSome
  have hSecs := (Duration.toBinary64_cases elapsed).resolve_left hSome
  have hBytes : UpTo 1089 (ofNat bytes.toNat) := .ofNat bytes.toNat_lt (by decide)
  have hEight : UpTo 1029 (ofNat 8) := .ofNat (by decide : 8 < 2 ^ 4) (by decide)
  have hThousand : AtLeast 1030 (ofNat 1000) :=
    .ofNat (by decide : 2 ^ 9 ≤ 1000) (by decide) (by decide)
  have hBits : UpTo 1099 ((ofNat bytes.toNat).mul (ofNat 8)) :=
    hBytes.mul hEight (by decide) (by decide) (by decide) (by decide)
  have hTime : AtLeast 990 (elapsed.toBinary64.mul (ofNat 1000)) :=
    hSecs.mul hThousand (by decide) (by decide) (by decide) (by decide)
  have hRate := hBits.div hTime (by decide) (by decide) (by decide : 1099 + 1026 ≤ 1135 + 990)
    (by decide)
  exact ⟨hRate.isFinite (by decide), hRate.negative⟩

end SpeedTest
