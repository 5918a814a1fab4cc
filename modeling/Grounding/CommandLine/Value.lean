import Grounding.Decimal.Literal

/-! Numbers given as arguments. -/

namespace Grounding.CommandLine

/-- A numeral that may lack the digits on one side of its point, or a name for what has none. Either
may have a sign. -/
def readNumber? (text : String) : Option Number :=
  let (negative, chars) := Literal.scanSign text.toList
  match String.ofList (chars.map Char.toLower) with
  | "inf" | "infinity" => some (.infinite negative)
  | "nan" => some .nan
  | _ =>
    let (literal, rest) := Literal.scan chars
    let digits := literal.whole ++ literal.fraction.getD []
    if digits = [] ∨ rest ≠ [] ∨ literal.exponent.map (·.2) = some [] then none
    else some (literal.toDecimal.toNumber negative)

/-- A count that fits 64 bits, with or without a plus sign. -/
def readCount? (text : String) : Option Nat :=
  let digits :=
    match text.toList with
    | '+' :: rest => rest
    | chars => chars
  let n := Nat.ofDigitChars 10 digits 0
  if digits = [] ∨ digits.all Char.isDigit = false ∨ 0x10000000000000000 ≤ n then none else some n

end Grounding.CommandLine
