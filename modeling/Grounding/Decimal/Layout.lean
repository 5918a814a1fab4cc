import Grounding.Decimal.Shortest

/-! How the digits of a number are laid out: where the point stands, when a power of ten is split
off, and whether whole numbers keep their point. -/

namespace Grounding

/-- The choices of an output format. -/
structure NumberLayout where
  /-- The least and the greatest power of ten of the leading digit that are written without an
  exponent; all of them when there are no bounds. -/
  positional : Option (Int × Int)
  /-- Whether a whole number ends in `.0`. -/
  keepsPoint : Bool
  tie : Tie

namespace NumberLayout

def isPositional (layout : NumberLayout) (power : Int) : Bool :=
  match layout.positional with
  | none => true
  | some (least, greatest) => least ≤ power && power ≤ greatest

def point (layout : NumberLayout) : List Char :=
  if layout.keepsPoint then ['.', '0'] else []

/-- Digits with a point, the first digit standing at the power of ten below `magnitude`. -/
def positionalText (layout : NumberLayout) (digits : List Char) (magnitude : Int) : List Char :=
  if magnitude ≤ 0 then
    '0' :: '.' :: (List.replicate (-magnitude).toNat '0' ++ digits)
  else if digits.length ≤ magnitude then
    digits ++ List.replicate (magnitude - digits.length).toNat '0' ++ layout.point
  else
    digits.take magnitude.toNat ++ '.' :: digits.drop magnitude.toNat

/-- Digits with a point after the first one, and the power of ten with its sign. -/
def exponentText (digits : List Char) (power : Int) : List Char :=
  let fraction := digits.drop 1
  digits.take 1 ++ (if fraction = [] then [] else '.' :: fraction) ++
    'e' :: (if power < 0 then '-' else '+') :: Nat.toDigits 10 power.natAbs

/-- The text of a numeral that is not zero; zeros at its end are not written. -/
def numeralText (layout : NumberLayout) (d : Decimal) : List Char :=
  let digits := ((Nat.toDigits 10 d.digits).reverse.dropWhile (· == '0')).reverse
  if layout.isPositional (d.magnitude - 1) then layout.positionalText digits d.magnitude
  else exponentText digits (d.magnitude - 1)

/-- The text of a finite number. -/
def text (layout : NumberLayout) (x : FiniteNumber) : List Char :=
  (if x.negative then ['-'] else []) ++
    if x.units = 0 then '0' :: layout.point else layout.numeralText (x.shortest layout.tie)

end NumberLayout

/-- In messages a number is written without exponent, and whole numbers have no point. -/
def messageLayout : NumberLayout :=
  ⟨none, false, .up⟩

/-- The text of a number in messages. -/
def Number.display : Number → String
  | .nan => "NaN"
  | .infinite true => "-inf"
  | .infinite false => "inf"
  | .finite x => String.ofList (messageLayout.text x)

end Grounding
