import Grounding.Number

/-! The number nearest to a ratio. A ratio halfway between two numbers goes to the one whose last
binary digit is zero. -/

namespace Grounding

/-- The whole number nearest to a quotient, and the even one of two. -/
def roundDiv (num den : Nat) : Nat :=
  let q := num / den
  let r := num % den
  if 2 * r < den then q else if den < 2 * r then q + 1 else q + q % 2

theorem roundDiv_le (num den : Nat) : roundDiv num den ≤ num / den + 1 := by
  simp only [roundDiv]
  split
  · omega
  · split <;> omega

/-- The size nearest to a quotient of units, when it is below the bound. -/
def roundUnits (num den : Nat) : Nat :=
  let scale := Nat.pow 2 ((num / den).log2 - 52)
  roundDiv num (den * scale) * scale

theorem lt_two_pow_log2_add (n : Nat) : n < Nat.pow 2 (n.log2 - 52) * Nat.pow 2 53 := by
  have h : n < Nat.pow 2 (n.log2 - 52 + 53) :=
    Nat.lt_of_lt_of_le Nat.lt_log2_self (Nat.pow_le_pow_right (by decide) (by omega))
  exact Nat.lt_of_lt_of_eq h (Nat.pow_add 2 _ _)

theorem roundDiv_scale_le (num den : Nat) :
    roundDiv num (den * Nat.pow 2 ((num / den).log2 - 52)) ≤ Nat.pow 2 53 := by
  refine Nat.le_trans (roundDiv_le _ _) ?_
  rw [← Nat.div_div_eq_div_mul]
  exact Nat.div_lt_of_lt_mul (lt_two_pow_log2_add (num / den))

theorem two_pow_log2_dvd {m : Nat} (s : Nat) (hm : m ≤ Nat.pow 2 53) :
    Nat.pow 2 ((m * Nat.pow 2 s).log2 - 52) ∣ m * Nat.pow 2 s := by
  have hadd : Nat.pow 2 (53 + s) = Nat.pow 2 53 * Nat.pow 2 s := Nat.pow_add 2 53 s
  have hle : m * Nat.pow 2 s ≤ Nat.pow 2 (53 + s) := by
    rw [hadd]
    exact Nat.mul_le_mul_right _ hm
  by_cases hzero : m * Nat.pow 2 s = 0
  · rw [hzero]
    exact Nat.dvd_zero _
  have hself := Nat.log2_self_le hzero
  by_cases hlog : (m * Nat.pow 2 s).log2 ≤ 52 + s
  · exact Nat.dvd_trans (Nat.pow_dvd_pow 2 (by omega)) (Nat.dvd_mul_left _ _)
  · have hge : Nat.pow 2 (53 + s) ≤ m * Nat.pow 2 s :=
      Nat.le_trans (Nat.pow_le_pow_right (by decide) (by omega)) hself
    have heq : m * Nat.pow 2 s = Nat.pow 2 (53 + s) := Nat.le_antisymm hle hge
    have hlog2 : (Nat.pow 2 (53 + s)).log2 = 53 + s := Nat.log2_two_pow
    rw [heq, hlog2]
    exact Nat.pow_dvd_pow 2 (by omega)

theorem two_pow_log2_dvd_roundUnits (num den : Nat) :
    Nat.pow 2 ((roundUnits num den).log2 - 52) ∣ roundUnits num den :=
  two_pow_log2_dvd _ (roundDiv_scale_le num den)

theorem roundUnits_le (num den : Nat) : roundUnits num den ≤ 2 * (num / den) + 1 := by
  have hscale : Nat.pow 2 ((num / den).log2 - 52) ≤ num / den + 1 := by
    by_cases hzero : num / den = 0
    · rw [hzero]
      exact Nat.le_refl 1
    · have hself := Nat.log2_self_le hzero
      exact Nat.le_succ_of_le
        (Nat.le_trans (Nat.pow_le_pow_right (by decide) (Nat.sub_le _ _)) hself)
  have hround := roundDiv_le num (den * Nat.pow 2 ((num / den).log2 - 52))
  rw [← Nat.div_div_eq_div_mul] at hround
  have hmul := Nat.mul_le_mul_right (Nat.pow 2 ((num / den).log2 - 52)) hround
  have hdiv := Nat.div_mul_le_self (num / den) (Nat.pow 2 ((num / den).log2 - 52))
  rw [Nat.add_mul, Nat.one_mul] at hmul
  have hunits : roundUnits num den = roundDiv num (den * Nat.pow 2 ((num / den).log2 - 52)) *
      Nat.pow 2 ((num / den).log2 - 52) := rfl
  omega

namespace Number

/-- The number nearest to a quotient of units; past the bound it is infinite. -/
def ofRatio (negative : Bool) (num den : Nat) : Number :=
  if h : roundUnits num den < sizeBound then
    finite ⟨negative, roundUnits num den, h, two_pow_log2_dvd_roundUnits num den⟩
  else infinite negative

/-- The number nearest to an integer. -/
def ofInt (n : Int) : Number :=
  ofRatio (n < 0) (n.natAbs * Nat.pow 2 1074) 1

/-- An integer of at most 64 binary digits is far below the bound. -/
theorem isFinite_ofInt {n : Int} (h : n.natAbs ≤ Nat.pow 2 64) : (ofInt n).isFinite = true := by
  have hround := roundUnits_le (n.natAbs * Nat.pow 2 1074) 1
  rw [Nat.div_one] at hround
  have hunits (k : Nat) : 2 * (n.natAbs * k) + 1 ≤ 2 * (Nat.pow 2 64 * k) + 1 :=
    Nat.add_le_add_right (Nat.mul_le_mul_left 2 (Nat.mul_le_mul_right k h)) 1
  have hbound : 2 * (Nat.pow 2 64 * Nat.pow 2 1074) + 1 < sizeBound := by decide +kernel
  have hlt := Nat.lt_of_le_of_lt (Nat.le_trans hround (hunits _)) hbound
  rw [ofInt, ofRatio, dif_pos hlt]
  rfl

end Number

end Grounding
