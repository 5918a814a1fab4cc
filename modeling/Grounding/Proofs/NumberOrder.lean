import Grounding.Number

/-! The order of numbers. The larger and the smaller of two numbers are their bounds in it, and what
is no number does not count. -/

namespace Grounding.Number

variable {a b c x : Number}

theorem le_refl (h : a ≠ nan) : a ≤ a :=
  le_iff.mpr ⟨h, h, Int.le_refl _⟩

theorem le_trans (hab : a ≤ b) (hbc : b ≤ c) : a ≤ c := by
  obtain ⟨ha, _, h⟩ := le_iff.mp hab
  obtain ⟨_, hc, h'⟩ := le_iff.mp hbc
  exact le_iff.mpr ⟨ha, hc, Int.le_trans h h'⟩

theorem not_lt_iff_le (ha : a ≠ nan) (hb : b ≠ nan) : ¬ a < b ↔ b ≤ a := by
  simp [le_iff, lt_iff, ha, hb]

theorem lt_iff_not_le (ha : a ≠ nan) (hb : b ≠ nan) : a < b ↔ ¬ b ≤ a := by
  simp [le_iff, lt_iff, ha, hb]

theorem not_le_of_lt (h : a < b) : ¬ b ≤ a :=
  (lt_iff_not_le (lt_iff.mp h).1 (lt_iff.mp h).2.1).mp h

theorem ne_nan_of_isFinite (h : a.isFinite = true) : a ≠ nan := by
  rintro rfl
  cases h

theorem zero_ne_nan : zero ≠ nan := by
  simp [zero]

theorem isFinite_zero : zero.isFinite = true :=
  rfl

@[simp]
theorem nan_max (b : Number) : max nan b = b := by
  simp [max_def]

@[simp]
theorem max_nan (a : Number) : max a nan = a := by
  by_cases ha : a = nan <;> simp [max_def, ha]

@[simp]
theorem nan_min (b : Number) : min nan b = b := by
  simp [min_def]

@[simp]
theorem min_nan (a : Number) : min a nan = a := by
  by_cases ha : a = nan <;> simp [min_def, ha]

theorem max_eq_ite (ha : a ≠ nan) (hb : b ≠ nan) :
    max a b = if a.rank < b.rank then b else a := by
  rw [max_def, if_neg ha, if_neg hb]

theorem min_eq_ite (ha : a ≠ nan) (hb : b ≠ nan) :
    min a b = if b.rank < a.rank then b else a := by
  rw [min_def, if_neg ha, if_neg hb]

theorem max_eq_or (a b : Number) : max a b = a ∨ max a b = b := by
  rw [max_def]
  grind

theorem min_eq_or (a b : Number) : min a b = a ∨ min a b = b := by
  rw [min_def]
  grind

@[simp]
theorem max_self (a : Number) : max a a = a := by
  simp [max_def]

@[simp]
theorem min_self (a : Number) : min a a = a := by
  simp [min_def]

theorem max_ne_nan (ha : a ≠ nan) (hb : b ≠ nan) : max a b ≠ nan := by
  rcases max_eq_or a b with h | h
  · rwa [h]
  · rwa [h]

theorem min_ne_nan (ha : a ≠ nan) (hb : b ≠ nan) : min a b ≠ nan := by
  rcases min_eq_or a b with h | h
  · rwa [h]
  · rwa [h]

theorem max_eq_nan_iff : max a b = nan ↔ a = nan ∧ b = nan := by
  by_cases ha : a = nan
  · simp [ha]
  by_cases hb : b = nan
  · simp [hb]
  simp [max_ne_nan ha hb, ha]

theorem min_eq_nan_iff : min a b = nan ↔ a = nan ∧ b = nan := by
  by_cases ha : a = nan
  · simp [ha]
  by_cases hb : b = nan
  · simp [hb]
  simp [min_ne_nan ha hb, ha]

theorem max_le_iff (ha : a ≠ nan) (hb : b ≠ nan) : max a b ≤ x ↔ a ≤ x ∧ b ≤ x := by
  rw [max_eq_ite ha hb]
  simp only [le_iff]
  split
  · grind
  · grind

theorem le_min_iff (ha : a ≠ nan) (hb : b ≠ nan) : x ≤ min a b ↔ x ≤ a ∧ x ≤ b := by
  rw [min_eq_ite ha hb]
  simp only [le_iff]
  split
  · grind
  · grind

/-- Of equal numbers the first one is kept, however the numbers are grouped. -/
theorem max_assoc (a b c : Number) : max (max a b) c = max a (max b c) := by
  by_cases ha : a = nan
  · simp [ha]
  by_cases hb : b = nan
  · simp [hb]
  by_cases hc : c = nan
  · simp [hc]
  rw [max_eq_ite (max_ne_nan ha hb) hc, max_eq_ite ha (max_ne_nan hb hc), max_eq_ite ha hb,
    max_eq_ite hb hc]
  grind

theorem min_assoc (a b c : Number) : min (min a b) c = min a (min b c) := by
  by_cases ha : a = nan
  · simp [ha]
  by_cases hb : b = nan
  · simp [hb]
  by_cases hc : c = nan
  · simp [hc]
  rw [min_eq_ite (min_ne_nan ha hb) hc, min_eq_ite ha (min_ne_nan hb hc), min_eq_ite ha hb,
    min_eq_ite hb hc]
  grind

theorem isSize_of_lt {n : Nat} (h : n < Nat.pow 2 53) : IsSize n := by
  have hlog : n.log2 - 52 = 0 := by
    by_cases hn : n = 0
    · simp [hn]
    · have : n.log2 < 53 := (Nat.log2_lt hn).mpr h
      omega
  refine ⟨Nat.lt_of_lt_of_le h ?_, ?_⟩
  · apply Nat.pow_le_pow_right
    · decide
    · decide
  rw [hlog]
  exact Nat.one_dvd n

def ofUnits (n : Nat) (h : n < Nat.pow 2 53) : Number :=
  finite ⟨false, n, isSize_of_lt h⟩

end Grounding.Number
