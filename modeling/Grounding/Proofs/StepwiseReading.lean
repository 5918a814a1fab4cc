import Grounding.Decimal.Stepwise
import Grounding.Proofs.ShortestNumeral

/-! Numerals for which reading in steps rounds only once. Up to `2 ^ 53` the digits are a number of
their own, and so are the powers of ten up to `10 ^ 22`. -/

namespace Grounding

theorem oneUnits_pos : 0 < oneUnits := by
  decide +kernel

section

variable {k m n s : Nat}

theorem isSize_mul_two_pow (hm : m ≤ Nat.pow 2 53) (hs : 53 + s < 2098) :
    IsSize (m * Nat.pow 2 s) := by
  have hbound (b : Nat) (hb : 53 + s < b) : m * Nat.pow 2 s < Nat.pow 2 b :=
    calc m * Nat.pow 2 s ≤ Nat.pow 2 53 * Nat.pow 2 s := Nat.mul_le_mul_right _ hm
      _ = Nat.pow 2 (53 + s) := (Nat.pow_add 2 53 s).symm
      _ < Nat.pow 2 b := Nat.pow_lt_pow_right (by decide) hb
  exact ⟨hbound 2098 hs, two_pow_log2_dvd s hm⟩

/-- A power of five with so few binary digits leaves only zeros behind them in a power of ten. -/
theorem wholeUnits_mul_ten_pow (hm : m * Nat.pow 5 k ≤ Nat.pow 2 53) (hk : k ≤ 970) :
    wholeUnits (m * Nat.pow 10 k) = m * Nat.pow 10 k * oneUnits := by
  have hten (s : Nat) : m * Nat.pow 10 k * Nat.pow 2 s = m * Nat.pow 5 k * Nat.pow 2 (k + s) := by
    change m * 10 ^ k * 2 ^ s = m * 5 ^ k * 2 ^ (k + s)
    rw [Nat.pow_add, show 10 = 5 * 2 from rfl, Nat.mul_pow]
    ring
  have hsize : IsSize (m * Nat.pow 10 k * oneUnits) := by
    unfold oneUnits
    rw [hten]
    exact isSize_mul_two_pow hm (by omega)
  have hunits := roundUnits_of_isSize hsize Nat.one_pos
  rw [Nat.mul_one] at hunits
  rw [wholeUnits, hunits]

theorem wholeUnits_of_le (h : n ≤ Nat.pow 2 53) : wholeUnits n = n * oneUnits := by
  have hunits := wholeUnits_mul_ten_pow (m := n) (k := 0) (by simpa using h) (by decide)
  rwa [show n * Nat.pow 10 0 = n from Nat.mul_one n] at hunits

theorem wholeUnits_ten_pow (hk : k ≤ 22) :
    wholeUnits (Nat.pow 10 k) = Nat.pow 10 k * oneUnits := by
  have hfive : 1 * Nat.pow 5 k ≤ Nat.pow 2 53 := by
    rw [Nat.one_mul]
    exact (Nat.pow_le_pow_right (by decide) hk).trans (by decide)
  have hunits := wholeUnits_mul_ten_pow hfive (by omega)
  rwa [Nat.one_mul] at hunits

end

theorem Number.ofRatio_mul_right {negative : Bool} {num den unit : Nat} (hden : 0 < den)
    (hunit : 0 < unit) :
    ofRatio negative (num * unit) (den * unit) = ofRatio negative num den :=
  ofRatio_of_mul_eq (Nat.mul_pos hden hunit) hden (by ring)

namespace Decimal

variable {negative : Bool} {d : Decimal} {k : Nat}

theorem divided_eq (n : Nat) (hk : k ≤ 22) : divided negative (n * oneUnits) k =
    .ofRatio negative (n * oneUnits) (Nat.pow 10 k) := by
  rw [divided, if_pos (hk.trans (by decide)), wholeUnits_ten_pow hk]
  exact Number.ofRatio_mul_right (Nat.pow_pos (by decide)) oneUnits_pos

theorem multiplied_eq (n : Nat) (hk : k ≤ 22) : multiplied negative (n * oneUnits) k =
    .ofRatio negative (n * Nat.pow 10 k * oneUnits) 1 := by
  rw [multiplied, if_pos (hk.trans (by decide)), wholeUnits_ten_pow hk]
  exact Number.ofRatio_of_mul_eq oneUnits_pos Nat.one_pos (by ring)

/-- The digits and the power of ten of the numeral are not rounded on their own. -/
structure IsShort (d : Decimal) : Prop where
  digits_le : d.digits ≤ Nat.pow 2 53
  exponent_ge : -22 ≤ d.exponent
  exponent_le : d.exponent ≤ 22

theorem IsShort.toNumber_eq (h : d.IsShort) : d.toNumber negative =
    .ofRatio negative (d.digits * Nat.pow 10 d.exponent.toNat * oneUnits)
      (Nat.pow 10 (-d.exponent).toNat) := by
  obtain ⟨hdigits, hlow, hhigh⟩ := h
  by_cases hzero : d.digits = 0
  · have hunits := Number.ofRatio_units ⟨negative, 0, isSize_zero⟩
      (Nat.pow 10 (-d.exponent).toNat) (Nat.pow_pos (by decide))
    rw [Nat.zero_mul] at hunits
    rw [toNumber, if_pos hzero, hzero, Nat.zero_mul, Nat.zero_mul]
    exact hunits.symm
  · have hlength : (Nat.toDigits 10 d.digits).length ≤ 16 :=
      (Nat.length_toDigits_le_iff (by decide) (by decide)).mpr
        (Nat.lt_of_le_of_lt hdigits (by decide))
    rw [toNumber, if_neg hzero, if_neg (by simp only [magnitude]; omega),
      if_neg (by simp only [magnitude]; omega)]
    simp only [oneUnits]

theorem IsShort.readStepwise_eq (h : d.IsShort) :
    d.readStepwise negative = d.toNumber negative := by
  rw [h.toNumber_eq, readStepwise, wholeUnits_of_le h.digits_le]
  have hlow := h.exponent_ge
  have hhigh := h.exponent_le
  split
  · have hnum : d.exponent.toNat = 0 := by omega
    have hone : d.digits * Nat.pow 10 0 = d.digits := Nat.mul_one _
    rw [divided_eq _ (by omega), hnum, hone]
  · have hden : (-d.exponent).toNat = 0 := by omega
    have hone : Nat.pow 10 0 = 1 := rfl
    rw [multiplied_eq _ (by omega), hden, hone]

end Decimal

namespace Literal

theorem le_ofDigitChars (chars : List Char) (taken : Nat) :
    taken ≤ Nat.ofDigitChars 10 chars taken := by
  induction chars generalizing taken with
  | nil => exact Nat.le_refl taken
  | cons c rest ih =>
    rw [Nat.ofDigitChars_cons]
    exact le_trans (by omega) (ih _)

theorem takeDigits_eq {chars : List Char} {taken : Nat}
    (h : Nat.ofDigitChars 10 chars taken < 0x10000000000000000) :
    takeDigits taken chars = (Nat.ofDigitChars 10 chars taken, []) := by
  induction chars generalizing taken with
  | nil => rfl
  | cons c rest ih =>
    rw [Nat.ofDigitChars_cons] at h ⊢
    have hnext := (le_ofDigitChars rest _).trans_lt h
    rw [takeDigits]
    simp only [hnext, if_true]
    exact ih h

theorem clipped_eq {l : Literal} (h : l.toDecimal.digits < 0x10000000000000000) :
    l.clipped = l.toDecimal := by
  simp only [toDecimal, Nat.ofDigitChars_append] at h ⊢
  have hwhole := (le_ofDigitChars (l.fraction.getD []) _).trans_lt h
  simp [clipped, takeDigits_eq hwhole, takeDigits_eq h]

end Literal

end Grounding
