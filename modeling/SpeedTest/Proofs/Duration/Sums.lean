import Mathlib.Algebra.GroupWithZero.Nat
import Mathlib.Data.List.Forall2
import SpeedTest.Duration.Reader

/-! Adding up items of numbers and units. Seconds and nanoseconds are held apart and are limited on
their own, but a sum that comes about is the exact one. Of the additions that fail only the last
carry is no fault: it leaves the range where the exact sum reaches the first number of seconds that
64 bits cannot hold. -/

namespace SpeedTest.Duration

/-- One item: a number, perhaps with a fraction, and the name of a unit. -/
structure Item where
  count : Nat
  part : Option Fraction
  name : String
deriving Repr, DecidableEq

/-- The first length of time that is too long: one second more than 64 bits can count. -/
def tooLong : Nat := (maxCount + 1) * nanosPerSecond

/-- The fault of a number that does not fit. -/
abbrev Stop.tooLarge : Stop := .fault .tooLarge

/-- A number can be read: it is one of 64 bits, and so is the power of ten under its fraction. -/
def Fits (n : Nat) (part : Option Fraction) : Prop :=
  n ≤ maxCount ∧ ∀ f ∈ part, f.denominator ≤ maxCount

instance (n : Nat) (part : Option Fraction) : Decidable (Fits n part) :=
  inferInstanceAs (Decidable (_ ∧ _))

namespace Item

/-- A sum with one more item. -/
def addTo (i : Item) (d : Duration) : Except Stop Duration :=
  if Fits i.count i.part then d.addItem i.count i.part i.name else .error .tooLarge

/-- The length of an item in nanoseconds. Those of a fraction must come out even. -/
inductive Lasts : Item → Nat → Prop
  | whole {n : Nat} {name : String} {u : TimeUnit} (h : TimeUnit.ofName? name = some u) :
      Lasts ⟨n, none, name⟩ (n * u.nanos)
  | mixed {n ns : Nat} {f : Fraction} {name : String} {u : TimeUnit}
      (h : TimeUnit.ofName? name = some u)
      (hExact : ns * f.denominator = (n * f.denominator + f.numerator) * u.nanos) :
      Lasts ⟨n, some f, name⟩ ns

/-- The lengths that are reached within an item, at the end of its whole units and at its own
end. -/
inductive Reaches : Item → Nat → Prop
  | units {i : Item} {u : TimeUnit} (h : TimeUnit.ofName? i.name = some u) :
      Reaches i (i.count * u.nanos)
  | all {i : Item} {ns : Nat} (h : i.Lasts ns) : Reaches i ns

end Item

/-- A length of time is the exact sum of items. -/
def IsSum (items : List Item) (d : Duration) : Prop :=
  d.nanos < nanosPerSecond ∧ ∃ lengths, List.Forall₂ Item.Lasts items lengths ∧
    d.toNanos = lengths.sum

/-- A sum with all items added, one after another. -/
def total (d : Duration) (items : List Item) : Except Stop Duration :=
  items.foldlM (fun d i => i.addTo d) d

section Except

variable {ε α β : Type} {x : Except ε α} {g : α → Except ε β} {e : ε}

theorem bind_eq_ok_iff {b : β} : (x >>= g) = .ok b ↔ ∃ a, x = .ok a ∧ g a = .ok b := by
  cases x <;> simp [bind, Except.bind]

theorem bind_eq_error_iff :
    (x >>= g) = .error e ↔ x = .error e ∨ ∃ a, x = .ok a ∧ g a = .error e := by
  cases x <;> simp [bind, Except.bind]

theorem map_eq_ok_iff {g : α → β} {b : β} : x.map g = .ok b ↔ ∃ a, x = .ok a ∧ g a = b := by
  cases x <;> simp [Except.map]

theorem map_eq_error_iff {g : α → β} : x.map g = .error e ↔ x = .error e := by
  cases x <;> simp [Except.map]

end Except

variable {d d' : Duration} {secs nanos n : Nat} {u : TimeUnit} {f : Fraction} {i : Item}
  {items : List Item}

theorem fit_of_le (h : n ≤ maxCount) : fit n = .ok n := if_pos h

theorem fit_of_lt (h : maxCount < n) : fit n = .error .tooLarge :=
  if_neg (Nat.not_le_of_lt h)

theorem fit_eq_ok_iff {m : Nat} : fit n = .ok m ↔ n ≤ maxCount ∧ n = m := by
  unfold fit
  split <;> simp [*]

theorem fit_ne_overflow : fit n ≠ .error .overflow := by
  unfold fit
  split <;> simp

theorem divideExactly_eq_ok_iff {m q : Nat} :
    divideExactly n m = .ok q ↔ n % m = 0 ∧ n / m = q := by
  unfold divideExactly
  split <;> simp [*]

theorem divideExactly_ne_overflow {m : Nat} : divideExactly n m ≠ .error .overflow := by
  unfold divideExactly
  split <;> simp

/-! Nanoseconds below a second, of exactly one and above it are added in three ways. -/

theorem add_of_lt (h : d.nanos + nanos < nanosPerSecond) :
    d.add secs nanos = (fit (d.secs + secs)).map fun total => ⟨total, d.nanos + nanos⟩ := by
  have hFits : d.nanos + nanos ≤ maxCount := Nat.le_trans (Nat.le_of_lt h) (by decide)
  rw [add, fit_of_le hFits]
  cases hTotal : fit (d.secs + secs) <;>
    simp [bind, Except.bind, pure, Except.pure, Except.map, Nat.not_lt_of_lt h, h, hTotal]

theorem add_of_eq (h : d.nanos + nanos = nanosPerSecond) :
    d.add secs nanos = (do
      let total ← fit (d.secs + secs)
      if total < maxCount then .ok ⟨total + 1, 0⟩ else .error .overflow) := by
  have hFits : nanosPerSecond ≤ maxCount := by decide
  rw [add, h, fit_of_le hFits]
  cases hTotal : fit (d.secs + secs) <;>
    simp [bind, Except.bind, pure, Except.pure, throw, throwThe, MonadExceptOf.throw, hTotal]

theorem add_of_gt (h : nanosPerSecond < d.nanos + nanos) :
    d.add secs nanos = (do
      let sum ← fit (d.nanos + nanos)
      let s ← fit (secs + sum / nanosPerSecond)
      (fit (d.secs + s)).map fun total => ⟨total, sum % nanosPerSecond⟩) := by
  have hRest : (d.nanos + nanos) % nanosPerSecond < nanosPerSecond := Nat.mod_lt _ (by decide)
  obtain hLarge | hFits := Nat.lt_or_ge maxCount (d.nanos + nanos)
  · rw [add, fit_of_lt hLarge]
    rfl
  · rw [add, fit_of_le hFits]
    cases hSecs : fit (secs + (d.nanos + nanos) / nanosPerSecond) with
    | error e => simp [bind, Except.bind, Except.map, h, hSecs]
    | ok s =>
        cases hTotal : fit (d.secs + s) <;>
          simp [bind, Except.bind, pure, Except.pure, Except.map, h, hSecs, hTotal, hRest]

/-- A sum that comes about is exact. -/
theorem add_eq_ok (h : d.add secs nanos = .ok d') :
    d'.nanos < nanosPerSecond ∧ d'.toNanos = d.toNanos + (secs * nanosPerSecond + nanos) := by
  obtain hLess | hEq | hMore := Nat.lt_trichotomy (d.nanos + nanos) nanosPerSecond
  · simp only [add_of_lt hLess, map_eq_ok_iff, fit_eq_ok_iff] at h
    obtain ⟨_, ⟨-, rfl⟩, rfl⟩ := h
    refine ⟨hLess, ?_⟩
    simp only [toNanos, Nat.add_mul]
    omega
  · simp only [add_of_eq hEq, bind_eq_ok_iff, fit_eq_ok_iff] at h
    obtain ⟨_, ⟨-, rfl⟩, h⟩ := h
    split at h <;> cases h
    refine ⟨show 0 < nanosPerSecond by decide, ?_⟩
    simp only [toNanos, Nat.add_mul]
    omega
  · simp only [add_of_gt hMore, bind_eq_ok_iff, map_eq_ok_iff, fit_eq_ok_iff] at h
    obtain ⟨_, ⟨-, rfl⟩, _, ⟨-, rfl⟩, _, ⟨-, rfl⟩, rfl⟩ := h
    refine ⟨Nat.mod_lt _ (by decide), ?_⟩
    have hSplit := Nat.div_add_mod' (d.nanos + nanos) nanosPerSecond
    simp only [toNanos, Nat.add_mul]
    omega

theorem add_of_le (h : d.toNanos + (secs * nanosPerSecond + nanos) ≤ maxCount) :
    ∃ d', d.add secs nanos = .ok d' := by
  have hScale (n : Nat) : n ≤ n * nanosPerSecond := Nat.le_mul_of_pos_right n (by decide)
  have hSecs := hScale d.secs
  have hMore := hScale secs
  have hCarry := Nat.div_add_mod' (d.nanos + nanos) nanosPerSecond
  have hCarried := hScale ((d.nanos + nanos) / nanosPerSecond)
  rw [toNanos] at h
  obtain hLess | hEq | hGreater := Nat.lt_trichotomy (d.nanos + nanos) nanosPerSecond
  · exact ⟨_, by rw [add_of_lt hLess, fit_of_le (by omega)]; rfl⟩
  · have hBelow : d.secs + secs < maxCount := by
      have hPos : 0 < nanosPerSecond := by decide
      omega
    exact ⟨_, by rw [add_of_eq hEq, fit_of_le (Nat.le_of_lt hBelow)]; exact if_pos hBelow⟩
  · have hSum : d.nanos + nanos ≤ maxCount := by omega
    have hCarriedFits : secs + (d.nanos + nanos) / nanosPerSecond ≤ maxCount := by omega
    have hTotal : d.secs + (secs + (d.nanos + nanos) / nanosPerSecond) ≤ maxCount := by omega
    refine ⟨⟨d.secs + (secs + (d.nanos + nanos) / nanosPerSecond),
      (d.nanos + nanos) % nanosPerSecond⟩, ?_⟩
    simp only [add_of_gt hGreater, fit_of_le hSum, bind, Except.bind, fit_of_le hCarriedFits,
      fit_of_le hTotal, Except.map]

/-- Of the additions that fail, the one whose last carry alone is too much is no fault. It stands
one second behind the longest length of time in whole seconds. -/
theorem add_eq_overflow_iff :
    d.add secs nanos = .error .overflow ↔
      d.secs + secs = maxCount ∧ d.nanos + nanos = nanosPerSecond := by
  obtain hLess | hEq | hMore := Nat.lt_trichotomy (d.nanos + nanos) nanosPerSecond
  · simp [add_of_lt hLess, map_eq_error_iff, fit_ne_overflow, Nat.ne_of_lt hLess]
  · simp only [add_of_eq hEq, bind_eq_error_iff, fit_ne_overflow, fit_eq_ok_iff, false_or, hEq,
      and_true]
    constructor
    · rintro ⟨_, ⟨hFits, rfl⟩, h⟩
      split at h <;> cases h
      omega
    · intro hFull
      have hNotBelow : ¬ d.secs + secs < maxCount := by omega
      exact ⟨_, ⟨Nat.le_of_eq hFull, rfl⟩, if_neg hNotBelow⟩
  · simp [add_of_gt hMore, bind_eq_error_iff, map_eq_error_iff, fit_ne_overflow, Nat.ne_of_gt hMore]

theorem add_eq_overflow (h : d.add secs nanos = .error .overflow) :
    d.toNanos + (secs * nanosPerSecond + nanos) = tooLong := by
  obtain ⟨hSecs, hNanos⟩ := add_eq_overflow_iff.mp h
  rw [tooLong, ← hSecs, toNanos, Nat.add_mul, Nat.add_mul]
  omega

theorem TimeUnit.nanos_pos (u : TimeUnit) : 0 < u.nanos := by cases u <;> decide

theorem TimeUnit.seconds_mul (u : TimeUnit) (h : u.isWholeSeconds = true) :
    u.nanos / nanosPerSecond * nanosPerSecond = u.nanos := by
  cases u <;> first | rfl | cases h

theorem TimeUnit.isWholeSeconds_of_parts (u : TimeUnit) (h : u.hasWholeSecondParts = true) :
    u.isWholeSeconds = true := by
  cases u <;> first | rfl | cases h

theorem wholeUnits_eq_ok (h : wholeUnits u n = .ok (secs, nanos)) :
    secs * nanosPerSecond + nanos = n * u.nanos := by
  unfold wholeUnits at h
  split at h <;> simp only [map_eq_ok_iff, fit_eq_ok_iff, Prod.mk.injEq] at h
  · rename_i hWhole
    obtain ⟨_, ⟨-, rfl⟩, rfl, rfl⟩ := h
    rw [Nat.add_zero, Nat.mul_assoc, u.seconds_mul hWhole]
  · obtain ⟨_, ⟨-, rfl⟩, rfl, rfl⟩ := h
    rw [Nat.zero_mul, Nat.zero_add]

theorem wholeUnits_ne_overflow : wholeUnits u n ≠ .error .overflow := by
  unfold wholeUnits
  split <;> simp [map_eq_error_iff, fit_ne_overflow]

theorem partOfUnit_eq_ok (h : partOfUnit u f = .ok (secs, nanos)) :
    (secs * nanosPerSecond + nanos) * f.denominator = f.numerator * u.nanos := by
  by_cases hNone : u = .nanosecond
  · subst hNone
    cases h
  · simp only [partOfUnit, hNone, if_false] at h
    split at h <;>
      simp only [bind_eq_ok_iff, fit_eq_ok_iff, divideExactly_eq_ok_iff, pure, Except.pure,
        Except.ok.injEq, Prod.mk.injEq] at h
    · rename_i hParts
      obtain ⟨_, ⟨-, rfl⟩, _, ⟨hEven, rfl⟩, rfl, rfl⟩ := h
      rw [Nat.add_zero, Nat.mul_right_comm, Nat.div_mul_cancel (Nat.dvd_of_mod_eq_zero hEven),
        Nat.mul_assoc, u.seconds_mul (u.isWholeSeconds_of_parts hParts)]
    · obtain ⟨_, ⟨-, rfl⟩, _, ⟨hEven, rfl⟩, rfl, rfl⟩ := h
      rw [Nat.zero_mul, Nat.zero_add, Nat.div_mul_cancel (Nat.dvd_of_mod_eq_zero hEven)]

theorem partOfUnit_ne_overflow : partOfUnit u f ≠ .error .overflow := by
  by_cases hNone : u = .nanosecond
  · subst hNone
    exact nofun
  · simp only [partOfUnit, hNone, if_false]
    split <;>
      simp [bind_eq_error_iff, fit_ne_overflow, divideExactly_ne_overflow, pure, Except.pure]

namespace Item

/-- What an item does once its unit is known and its number is in the range. -/
theorem addTo_eq (hFits : Fits i.count i.part) (hUnit : TimeUnit.ofName? i.name = some u) :
    i.addTo d = (do
      let whole ← wholeUnits u i.count
      let sum ← d.add whole.1 whole.2
      match i.part with
      | none => .ok sum
      | some f => do
        let part ← partOfUnit u f
        sum.add part.1 part.2) := by
  rw [addTo, if_pos hFits, addItem, hUnit]
  rfl

theorem addTo_eq_fault_or (i : Item) (d : Duration) :
    (∃ f, i.addTo d = .error (.fault f)) ∨
      Fits i.count i.part ∧ ∃ u, TimeUnit.ofName? i.name = some u := by
  by_cases hFits : Fits i.count i.part
  · cases hUnit : TimeUnit.ofName? i.name with
    | none =>
        left
        exact ⟨_, by rw [addTo, if_pos hFits, addItem, hUnit]⟩
    | some u => exact .inr ⟨hFits, u, rfl⟩
  · exact .inl ⟨_, if_neg hFits⟩

/-- A sum that comes about with an item is longer by the exact length of the item. -/
theorem addTo_eq_ok (h : i.addTo d = .ok d') :
    d'.nanos < nanosPerSecond ∧ ∃ ns, i.Lasts ns ∧ d'.toNanos = d.toNanos + ns := by
  obtain ⟨f, hFault⟩ | ⟨hFits, u, hUnit⟩ := i.addTo_eq_fault_or d
  · rw [hFault] at h
    cases h
  · obtain ⟨n, part, name⟩ := i
    simp only [addTo_eq hFits hUnit, bind_eq_ok_iff, Prod.exists] at h
    obtain ⟨s, ns, hUnits, d₁, hSum, h⟩ := h
    obtain ⟨hNanos, hLength⟩ := add_eq_ok hSum
    rw [wholeUnits_eq_ok hUnits] at hLength
    cases part with
    | none =>
        cases h
        exact ⟨hNanos, _, .whole hUnit, hLength⟩
    | some f =>
        simp only [bind_eq_ok_iff, Prod.exists] at h
        obtain ⟨s', ns', hPart, hSum⟩ := h
        obtain ⟨hNanos, hWith⟩ := add_eq_ok hSum
        refine ⟨hNanos, n * u.nanos + (s' * nanosPerSecond + ns'), .mixed hUnit ?_, by omega⟩
        rw [Nat.add_mul, partOfUnit_eq_ok hPart, Nat.add_mul, Nat.mul_right_comm]

/-- An item takes a sum out of the range only where the exact sum, within the item or at its end, is
the first length of time that is too long. -/
theorem reaches_of_addTo_eq_overflow (h : i.addTo d = .error .overflow) :
    ∃ ns, i.Reaches ns ∧ d.toNanos + ns = tooLong := by
  obtain ⟨f, hFault⟩ | ⟨hFits, u, hUnit⟩ := i.addTo_eq_fault_or d
  · rw [hFault] at h
    cases h
  · obtain ⟨n, part, name⟩ := i
    simp only [addTo_eq hFits hUnit, bind_eq_error_iff, wholeUnits_ne_overflow, false_or,
      Prod.exists] at h
    obtain ⟨s, ns, hUnits, hSum | ⟨d₁, hSum, h⟩⟩ := h
    · refine ⟨_, .units hUnit, ?_⟩
      rw [← add_eq_overflow hSum, wholeUnits_eq_ok hUnits]
    · obtain ⟨-, hLength⟩ := add_eq_ok hSum
      rw [wholeUnits_eq_ok hUnits] at hLength
      cases part with
      | none => cases h
      | some f =>
          simp only [bind_eq_error_iff, partOfUnit_ne_overflow, false_or, Prod.exists] at h
          obtain ⟨s', ns', hPart, hSum⟩ := h
          refine ⟨n * u.nanos + (s' * nanosPerSecond + ns'), .all (.mixed hUnit ?_), ?_⟩
          · rw [Nat.add_mul, partOfUnit_eq_ok hPart, Nat.add_mul, Nat.mul_right_comm]
          · rw [← add_eq_overflow hSum, hLength, Nat.add_assoc]

theorem addTo_whole (hPart : i.part = none) (hFits : i.count ≤ maxCount)
    (hUnit : TimeUnit.ofName? i.name = some u) :
    i.addTo d = (do
      let whole ← wholeUnits u i.count
      d.add whole.1 whole.2) := by
  rw [addTo_eq ⟨hFits, by simp [hPart]⟩ hUnit, hPart]
  cases wholeUnits u i.count with
  | error e => rfl
  | ok whole =>
      simp only [bind, Except.bind]
      cases d.add whole.1 whole.2 <;> rfl

/-- An item without a fraction takes a sum out of the range if it is counted in nanoseconds and
completes the second behind the longest length of time in whole seconds. -/
theorem addTo_eq_overflow_iff (hPart : i.part = none) (hNanos : d.nanos < nanosPerSecond) :
    i.addTo d = .error .overflow ↔
      ∃ u, TimeUnit.ofName? i.name = some u ∧ u.isWholeSeconds = false ∧ d.secs = maxCount ∧
        d.nanos + i.count * u.nanos = nanosPerSecond := by
  constructor
  · intro h
    obtain ⟨f, hFault⟩ | ⟨hFits, u, hUnit⟩ := i.addTo_eq_fault_or d
    · rw [hFault] at h
      cases h
    · simp only [addTo_whole hPart hFits.1 hUnit, bind_eq_error_iff, wholeUnits_ne_overflow,
        false_or, Prod.exists, add_eq_overflow_iff] at h
      obtain ⟨s, ns, hUnits, hSecs, hSum⟩ := h
      cases hWhole : u.isWholeSeconds <;>
        simp only [wholeUnits, hWhole, if_true, Bool.false_eq_true, if_false, map_eq_ok_iff,
          fit_eq_ok_iff, Prod.mk.injEq] at hUnits
      · obtain ⟨_, ⟨-, rfl⟩, rfl, rfl⟩ := hUnits
        exact ⟨u, hUnit, hWhole, hSecs, hSum⟩
      · obtain ⟨_, -, -, rfl⟩ := hUnits
        omega
  · rintro ⟨u, hUnit, hWhole, hSecs, hSum⟩
    have hUnits : i.count * u.nanos ≤ maxCount :=
      Nat.le_trans (by omega : _ ≤ nanosPerSecond) (by decide)
    have hCount : i.count ≤ maxCount :=
      Nat.le_trans (Nat.le_mul_of_pos_right _ u.nanos_pos) hUnits
    rw [addTo_whole hPart hCount hUnit, wholeUnits, hWhole, fit_of_le hUnits]
    exact add_eq_overflow_iff.mpr ⟨hSecs, hSum⟩

/-- An item without a fraction is added where the sum stays below a number of nanoseconds that 64
bits can hold. -/
theorem addTo_of_le (hPart : i.part = none) {ns : Nat} (hLasts : i.Lasts ns)
    (h : d.toNanos + ns ≤ maxCount) :
    ∃ d', i.addTo d = .ok d' ∧ d'.toNanos = d.toNanos + ns := by
  cases hLasts with
  | mixed => cases hPart
  | @whole n name u hUnit =>
      have hUnits : n * u.nanos ≤ maxCount := by omega
      have hCount : n ≤ maxCount := Nat.le_trans (Nat.le_mul_of_pos_right _ u.nanos_pos) hUnits
      obtain ⟨⟨s, ns⟩, hWhole⟩ : ∃ whole, wholeUnits u n = .ok whole := by
        unfold wholeUnits
        split
        · have hSecs : n * (u.nanos / nanosPerSecond) ≤ maxCount :=
            Nat.le_trans (Nat.mul_le_mul_left n (Nat.div_le_self _ _)) hUnits
          exact ⟨_, congrArg (Except.map _) (fit_of_le hSecs)⟩
        · exact ⟨_, congrArg (Except.map _) (fit_of_le hUnits)⟩
      rw [← wholeUnits_eq_ok hWhole] at h ⊢
      obtain ⟨d', hSum⟩ := add_of_le h
      refine ⟨d', ?_, (add_eq_ok hSum).2⟩
      rw [addTo_whole hPart hCount hUnit, hWhole]
      exact hSum

end Item

@[simp] theorem total_nil (d : Duration) : total d [] = .ok d := rfl

@[simp] theorem total_cons (d : Duration) (i : Item) (items : List Item) :
    total d (i :: items) = (i.addTo d >>= fun d' => total d' items) := List.foldlM_cons

theorem total_append (d : Duration) (before items : List Item) :
    total d (before ++ items) = (total d before >>= fun d' => total d' items) :=
  List.foldlM_append

/-- A sum of items that comes about is the exact one. -/
theorem total_eq_ok (hNanos : d.nanos < nanosPerSecond) (h : total d items = .ok d') :
    d'.nanos < nanosPerSecond ∧ ∃ lengths, List.Forall₂ Item.Lasts items lengths ∧
      d'.toNanos = d.toNanos + lengths.sum := by
  induction items generalizing d with
  | nil =>
      cases h
      exact ⟨hNanos, [], .nil, by rw [List.sum_nil, Nat.add_zero]⟩
  | cons i items ih =>
      rw [total_cons, bind_eq_ok_iff] at h
      obtain ⟨d₁, hFirst, hRest⟩ := h
      obtain ⟨hNanos₁, ns, hLasts, hSum⟩ := Item.addTo_eq_ok hFirst
      obtain ⟨hNanos', lengths, hLengths, hTotal⟩ := ih hNanos₁ hRest
      refine ⟨hNanos', ns :: lengths, .cons hLasts hLengths, ?_⟩
      rw [hTotal, hSum, List.sum_cons, Nat.add_assoc]

theorem isSum_of_total (h : total .zero items = .ok d) : IsSum items d := by
  have hZero : zero.nanos < nanosPerSecond := by decide
  obtain ⟨hNanos, lengths, hLengths, hSum⟩ := total_eq_ok hZero h
  have hStart : zero.toNanos = 0 := rfl
  rw [hStart, Nat.zero_add] at hSum
  exact ⟨hNanos, lengths, hLengths, hSum⟩

/-- A sum of items leaves the range at one of them. -/
theorem total_eq_overflow_iff :
    total d items = .error .overflow ↔
      ∃ before i after d', items = before ++ i :: after ∧ total d before = .ok d' ∧
        i.addTo d' = .error .overflow := by
  induction items generalizing d with
  | nil => simp
  | cons i items ih =>
      rw [total_cons, bind_eq_error_iff]
      constructor
      · rintro (hFirst | ⟨d₁, hFirst, hRest⟩)
        · exact ⟨[], i, items, d, rfl, rfl, hFirst⟩
        · obtain ⟨before, j, after, d', rfl, hBefore, hOver⟩ := ih.mp hRest
          refine ⟨i :: before, j, after, d', rfl, ?_, hOver⟩
          rw [total_cons, bind_eq_ok_iff]
          exact ⟨d₁, hFirst, hBefore⟩
      · rintro ⟨before, j, after, d', hItems, hBefore, hOver⟩
        cases before with
        | nil =>
            cases hItems
            cases hBefore
            exact .inl hOver
        | cons _ before =>
            cases hItems
            rw [total_cons, bind_eq_ok_iff] at hBefore
            obtain ⟨d₁, hFirst, hBefore⟩ := hBefore
            exact .inr ⟨d₁, hFirst, ih.mpr ⟨before, j, after, d', rfl, hBefore, hOver⟩⟩

/-- The sum of items without fractions leaves the range only where an item in nanoseconds,
microseconds or milliseconds completes the second behind the longest length of time in whole
seconds. -/
theorem total_eq_overflow_iff_of_whole (hWhole : ∀ i ∈ items, i.part = none) :
    total .zero items = .error .overflow ↔
      ∃ before i after d u, items = before ++ i :: after ∧ total .zero before = .ok d ∧
        TimeUnit.ofName? i.name = some u ∧ u.isWholeSeconds = false ∧ d.secs = maxCount ∧
        d.nanos + i.count * u.nanos = nanosPerSecond := by
  rw [total_eq_overflow_iff]
  constructor
  · rintro ⟨before, i, after, d, rfl, hBefore, hOver⟩
    have hPart : i.part = none := hWhole i (List.mem_append_right _ List.mem_cons_self)
    obtain ⟨u, hUnit, hFull⟩ :=
      (Item.addTo_eq_overflow_iff hPart (isSum_of_total hBefore).1).mp hOver
    exact ⟨before, i, after, d, u, rfl, hBefore, hUnit, hFull⟩
  · rintro ⟨before, i, after, d, u, rfl, hBefore, hUnit, hFull⟩
    have hPart : i.part = none := hWhole i (List.mem_append_right _ List.mem_cons_self)
    exact ⟨before, i, after, d, rfl, hBefore,
      (Item.addTo_eq_overflow_iff hPart (isSum_of_total hBefore).1).mpr ⟨u, hUnit, hFull⟩⟩

/-- Items without fractions are added up where their sum stays below a number of nanoseconds that 64
bits can hold. -/
theorem total_of_le (hWhole : ∀ i ∈ items, i.part = none) {lengths : List Nat}
    (hLengths : List.Forall₂ Item.Lasts items lengths) (h : d.toNanos + lengths.sum ≤ maxCount) :
    ∃ d', total d items = .ok d' := by
  induction hLengths generalizing d with
  | nil => exact ⟨d, rfl⟩
  | cons hLasts _ ih =>
      rw [List.sum_cons] at h
      obtain ⟨hHead, hTail⟩ := List.forall_mem_cons.mp hWhole
      obtain ⟨d₁, hFirst, hSum⟩ := Item.addTo_of_le (d := d) hHead hLasts (by omega)
      rw [← Nat.add_assoc, ← hSum] at h
      obtain ⟨d', hRest⟩ := ih hTail h
      refine ⟨d', ?_⟩
      rw [total_cons, hFirst]
      exact hRest

end SpeedTest.Duration
