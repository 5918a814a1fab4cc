import Grounding.Decimal

/-! The shortest numeral that stands for a given finite number, and the nearest one of those. -/

namespace Grounding

/-- Which of two numerals equally near to a number is preferred. -/
inductive Tie
  /-- The one whose last digit is even. -/
  | even
  /-- The larger one. -/
  | up

namespace Decimal

/-- The numerals with `places` digits on either side of a numeral, the nearer one first. -/
def neighbours (tie : Tie) (d : Decimal) (places : Nat) : List Decimal :=
  let dropped := (Nat.toDigits 10 d.digits).length - places
  let scale := Nat.pow 10 dropped
  let q := d.digits / scale
  let r := d.digits % scale
  let below : Decimal := ⟨q, d.exponent + dropped⟩
  let above : Decimal := ⟨q + 1, d.exponent + dropped⟩
  if r = 0 then [below]
  else if 2 * r < scale then [below, above]
  else if scale < 2 * r then [above, below]
  else
    match tie with
    | .even => if q % 2 = 0 then [below, above] else [above, below]
    | .up => [above, below]

end Decimal

namespace FiniteNumber

/-- Whether a numeral stands for the number. -/
def isReadFrom (x : FiniteNumber) (d : Decimal) : Bool :=
  d.toNumber x.negative == .finite x

/-- The first of the numerals of 1 to 17 digits that stands for the number. Seventeen digits are
enough; the exact numeral closes the search. -/
def shortest (tie : Tie) (x : FiniteNumber) : Decimal :=
  let exact := x.exact
  let found := (List.range 17).findSome? fun n =>
    (exact.neighbours tie (n + 1)).find? x.isReadFrom
  found.getD exact

end FiniteNumber

end Grounding
