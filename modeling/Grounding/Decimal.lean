import Grounding.Number.Rounding

/-! Decimal numerals: a whole number of digits and a power of ten. Every numeral stands for the
number nearest to it, and every finite number has an exact numeral. -/

namespace Grounding

/-- The numeral `digits * 10 ^ exponent`. -/
structure Decimal where
  digits : Nat
  exponent : Int
  deriving DecidableEq

namespace Decimal

/-- The power of ten just above a numeral that is not zero. -/
def magnitude (d : Decimal) : Int :=
  (Nat.toDigits 10 d.digits).length + d.exponent

/-- The number nearest to a numeral. Magnitudes far outside the range of finite numbers are settled
without computing the power of ten. -/
def toNumber (negative : Bool) (d : Decimal) : Number :=
  if d.digits = 0 then .finite ⟨negative, 0, isSize_zero⟩
  else if 309 < d.magnitude then .infinite negative
  else if d.magnitude < -323 then .finite ⟨negative, 0, isSize_zero⟩
  else
    .ofRatio negative (d.digits * Nat.pow 10 d.exponent.toNat * Nat.pow 2 1074)
      (Nat.pow 10 (-d.exponent).toNat)

end Decimal

/-- The numeral with exactly the size of a finite number. -/
def FiniteNumber.exact (x : FiniteNumber) : Decimal :=
  ⟨x.units * Nat.pow 5 1074, -1074⟩

end Grounding
