import Grounding.Decimal.Literal

/-! Reading a numeral in steps. Digits are taken as long as they fit 64 binary digits and rounded to
a number, which is then multiplied or divided by a power of ten that has been rounded as well. Where
more than the last step rounds, the result may be a neighbour of the number nearest to the
numeral. -/

namespace Grounding

/-- The size of one. -/
def oneUnits : Nat := Nat.pow 2 1074

/-- The size nearest to a whole number. -/
def wholeUnits (n : Nat) : Nat :=
  roundUnits (n * oneUnits) 1

namespace Decimal

/-- The exponent of the greatest power of ten that is in the range of finite numbers. -/
def greatestPower : Nat := 308

/-- A size divided by a power of ten, by the greatest one first as long as the power is larger. -/
def divided (negative : Bool) (units power : Nat) : Number :=
  if power ≤ greatestPower then
    .ofRatio negative (units * oneUnits) (wholeUnits (Nat.pow 10 power))
  else if units = 0 then .finite ⟨negative, 0, isSize_zero⟩
  else
    divided negative (roundUnits (units * oneUnits) (wholeUnits (Nat.pow 10 greatestPower)))
      (power - greatestPower)
termination_by power
decreasing_by
  simp only [greatestPower] at *
  omega

/-- A size multiplied by a power of ten; only zero can be multiplied by one out of range. -/
def multiplied (negative : Bool) (units power : Nat) : Number :=
  if power ≤ greatestPower then
    .ofRatio negative (units * wholeUnits (Nat.pow 10 power)) oneUnits
  else if units = 0 then .finite ⟨negative, 0, isSize_zero⟩
  else .infinite negative

/-- The number that is read for a numeral. -/
def readStepwise (negative : Bool) (d : Decimal) : Number :=
  if d.exponent < 0 then divided negative (wholeUnits d.digits) (-d.exponent).toNat
  else multiplied negative (wholeUnits d.digits) d.exponent.toNat

end Decimal

namespace Literal

/-- The digits that still fit 64 binary digits behind those that have been taken, and the digits
that are left. -/
def takeDigits (taken : Nat) : List Char → Nat × List Char
  | [] => (taken, [])
  | c :: rest =>
    let next := 10 * taken + (c.toNat - '0'.toNat)
    if next < 0x10000000000000000 then takeDigits next rest else (taken, c :: rest)

/-- The numeral without the digits that do not fit. Those of the whole part count as zeros. -/
def clipped (l : Literal) : Decimal :=
  let fraction := l.fraction.getD []
  let (whole, wholeLeft) := takeDigits 0 l.whole
  let (digits, fractionLeft) := takeDigits whole fraction
  ⟨digits, l.power + wholeLeft.length - (fraction.length - fractionLeft.length)⟩

end Literal

end Grounding
