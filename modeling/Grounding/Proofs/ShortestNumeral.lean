import Grounding.Decimal.Shortest
import Mathlib.Algebra.Order.Ring.Nat
import Mathlib.Tactic.Ring

/-! The shortest numeral of a number stands for it. Whole powers of ten may be moved between the
digits and the exponent of a numeral, since only the ratio they stand for is rounded. -/

namespace Grounding

section

variable {k num den num' den' : Nat}

theorem roundDiv_mul_left (hk : 0 < k) (num den : Nat) :
    roundDiv (k * num) (k * den) = roundDiv num den := by
  have hless : 2 * (k * (num % den)) < k * den ↔ 2 * (num % den) < den := by
    rw [Nat.mul_left_comm, Nat.mul_lt_mul_left hk]
  have hmore : k * den < 2 * (k * (num % den)) ↔ den < 2 * (num % den) := by
    rw [Nat.mul_left_comm, Nat.mul_lt_mul_left hk]
  simp only [roundDiv, Nat.mul_div_mul_left _ _ hk, Nat.mul_mod_mul_left, hless, hmore]

theorem roundUnits_mul_left (hk : 0 < k) (num den : Nat) :
    roundUnits (k * num) (k * den) = roundUnits num den := by
  simp only [roundUnits, Nat.mul_div_mul_left _ _ hk, Nat.mul_assoc, roundDiv_mul_left hk]

theorem roundUnits_of_isSize {n : Nat} (h : IsSize n) (hden : 0 < den) :
    roundUnits (n * den) den = n := by
  obtain ⟨m, hm⟩ := h.2
  have hscale : 0 < den * Nat.pow 2 (n.log2 - 52) := Nat.mul_pos hden (Nat.pow_pos (by decide))
  have hnum : n * den = m * (den * Nat.pow 2 (n.log2 - 52)) := by
    conv_lhs => rw [hm]
    ring
  rw [roundUnits, Nat.mul_div_cancel n hden, hnum, roundDiv, Nat.mul_mod_left,
    Nat.mul_div_cancel m hscale, if_pos (by simpa using hscale), Nat.mul_comm]
  exact hm.symm

namespace Number

variable {negative : Bool}

theorem ofRatio_congr (h : roundUnits num den = roundUnits num' den') :
    ofRatio negative num den = ofRatio negative num' den' := by
  simp only [ofRatio, h]

theorem ofRatio_of_mul_eq (hden : 0 < den) (hden' : 0 < den') (h : num * den' = num' * den) :
    ofRatio negative num den = ofRatio negative num' den' := by
  refine ofRatio_congr ?_
  rw [← roundUnits_mul_left hden', ← roundUnits_mul_left hden num', Nat.mul_comm den' num,
    Nat.mul_comm den num', h, Nat.mul_comm den' den]

theorem ofRatio_units (x : FiniteNumber) (den : Nat) (hden : 0 < den) :
    ofRatio x.negative (x.units * den) den = finite x := by
  have hunits := roundUnits_of_isSize x.isSize hden
  have hlt : roundUnits (x.units * den) den < sizeBound := by
    rw [hunits]
    exact x.isSize.1
  rw [ofRatio, dif_pos hlt]
  simp only [hunits]

end Number

end

namespace Decimal

variable {negative : Bool}

theorem length_toDigits_mul_pow {n : Nat} (hn : 0 < n) (k : Nat) :
    (Nat.toDigits 10 (n * 10 ^ k)).length = (Nat.toDigits 10 n).length + k := by
  induction k with
  | zero => simp
  | succ k ih =>
    have hpos : 0 < n * 10 ^ k := Nat.mul_pos hn (Nat.pow_pos (by decide))
    have happend := Nat.toDigits_append_toDigits (b := 10) (d := 0) (by decide) hpos (by decide)
    have hnext : n * 10 ^ (k + 1) = 10 * (n * 10 ^ k) + 0 := by ring
    rw [hnext, ← happend, List.length_append, ih]
    rfl

theorem length_toDigits_bounds {n a b : Nat} (ha : 0 < a) (hlow : Nat.pow 10 a ≤ n)
    (hhigh : n < Nat.pow 10 b) :
    a < (Nat.toDigits 10 n).length ∧ (Nat.toDigits 10 n).length ≤ b := by
  have hb : 0 < b := ha.trans ((Nat.pow_lt_pow_iff_right (by decide)).mp (hlow.trans_lt hhigh))
  have hle := Nat.length_toDigits_le_iff (b := 10) (n := n) (by decide) ha
  exact ⟨Nat.not_le.mp fun h => absurd (hle.mp h) (Nat.not_lt.mpr hlow),
    (Nat.length_toDigits_le_iff (by decide) hb).mpr hhigh⟩

theorem toNumber_shift (digits : Nat) (exponent : Int) (k : Nat) :
    (Decimal.mk (digits * 10 ^ k) exponent).toNumber negative =
      (Decimal.mk digits (exponent + k)).toNumber negative := by
  by_cases hzero : digits = 0
  · simp [toNumber, hzero]
  have hne : digits * 10 ^ k ≠ 0 := Nat.mul_ne_zero hzero (Nat.pow_pos (by decide)).ne'
  have hmagnitude : (Decimal.mk (digits * 10 ^ k) exponent).magnitude =
      (Decimal.mk digits (exponent + k)).magnitude := by
    simp only [magnitude, length_toDigits_mul_pow (Nat.pos_of_ne_zero hzero)]
    push_cast
    ring
  have hratio (scale : Nat) : digits * 10 ^ k * 10 ^ exponent.toNat * scale *
        10 ^ (-(exponent + k)).toNat =
      digits * 10 ^ (exponent + k).toNat * scale * 10 ^ (-exponent).toNat := by
    have hpowers : k + exponent.toNat + (-(exponent + k)).toNat =
        (exponent + k).toNat + (-exponent).toNat := by omega
    calc digits * 10 ^ k * 10 ^ exponent.toNat * scale * 10 ^ (-(exponent + k)).toNat
        = digits * scale * 10 ^ (k + exponent.toNat + (-(exponent + k)).toNat) := by ring
      _ = digits * 10 ^ (exponent + k).toNat * scale * 10 ^ (-exponent).toNat := by
        rw [hpowers]
        ring
  simp only [toNumber, hmagnitude, if_neg hzero, if_neg hne]
  split
  · rfl
  · split
    · rfl
    · exact Number.ofRatio_of_mul_eq (Nat.pow_pos (by decide)) (Nat.pow_pos (by decide))
        (hratio (Nat.pow 2 1074))

end Decimal

namespace FiniteNumber

/-- What matters of the power of five in exact numerals. -/
theorem exists_exact_eq (x : FiniteNumber) :
    ∃ p, x.exact = ⟨x.units * p, -1074⟩ ∧ 0 < p ∧ p * Nat.pow 2 1074 = Nat.pow 10 1074 ∧
      Nat.pow 10 750 ≤ p ∧ sizeBound * p ≤ Nat.pow 10 1383 :=
  ⟨Nat.pow 5 1074, rfl, by decide +kernel, by decide +kernel, by decide +kernel,
    by decide +kernel⟩

theorem toNumber_exact (x : FiniteNumber) : x.exact.toNumber x.negative = .finite x := by
  obtain ⟨p, hexact, hp, hratio, hlow, hhigh⟩ := x.exists_exact_eq
  rw [hexact]
  by_cases hzero : x.units = 0
  · obtain ⟨negative, units, hsize⟩ := x
    obtain rfl : units = 0 := hzero
    exact if_pos (Nat.zero_mul p)
  have hge : Nat.pow 10 750 ≤ x.units * p :=
    hlow.trans (Nat.le_mul_of_pos_left p (Nat.pos_of_ne_zero hzero))
  have hlt : x.units * p < Nat.pow 10 1383 :=
    (Nat.mul_lt_mul_of_pos_right x.isSize.1 hp).trans_le hhigh
  obtain ⟨hlong, hshort⟩ := Decimal.length_toDigits_bounds (by decide) hge hlt
  have hunits : x.units * p * Nat.pow 10 0 * Nat.pow 2 1074 = x.units * Nat.pow 10 1074 := by
    rw [← hratio, Nat.mul_assoc x.units, Nat.mul_assoc x.units]
    exact congrArg (x.units * ·) (congrArg (· * Nat.pow 2 1074) (Nat.mul_one p))
  rw [Decimal.toNumber, if_neg (Nat.mul_ne_zero hzero hp.ne'),
    if_neg (by simp only [Decimal.magnitude]; omega),
    if_neg (by simp only [Decimal.magnitude]; omega)]
  have hpos : (-1074 : Int).toNat = 0 := rfl
  have hneg : (- -1074 : Int).toNat = 1074 := rfl
  have hden : 0 < Nat.pow 10 1074 := by decide +kernel
  rw [hpos, hneg, hunits, Number.ofRatio_units x (Nat.pow 10 1074) hden]

/-- The numeral that is written stands for the number. -/
theorem toNumber_shortest (tie : Tie) (x : FiniteNumber) :
    (x.shortest tie).toNumber x.negative = .finite x := by
  unfold shortest
  dsimp only
  cases hfound : (List.range 17).findSome? fun n =>
      (x.exact.neighbours tie (n + 1)).find? x.isReadFrom with
  | none => exact toNumber_exact x
  | some d =>
    obtain ⟨n, -, hn⟩ := List.exists_of_findSome?_eq_some hfound
    have hread := List.find?_some hn
    exact beq_iff_eq.mp hread

end FiniteNumber

end Grounding
