import Grounding.Decimal

/-! Numerals as they are written: digits, a fraction after a point, and a power of ten. Which parts
may be missing is decided where numerals are read. -/

namespace Grounding

/-- The parts of a written numeral without its sign. -/
structure Literal where
  whole : List Char
  /-- The digits after the point, when there is one. -/
  fraction : Option (List Char)
  /-- The sign and the digits after the mark of the exponent, when there is one. -/
  exponent : Option (Bool × List Char)

namespace Literal

def scanFraction : List Char → Option (List Char) × List Char
  | '.' :: rest => (some (rest.takeWhile Char.isDigit), rest.dropWhile Char.isDigit)
  | rest => (none, rest)

/-- The sign of a number, which is positive when none is written. -/
def scanSign : List Char → Bool × List Char
  | '-' :: rest => (true, rest)
  | '+' :: rest => (false, rest)
  | rest => (false, rest)

def scanExponent : List Char → Option (Bool × List Char) × List Char
  | c :: rest =>
    if c = 'e' ∨ c = 'E' then
      let (negative, rest) := scanSign rest
      (some (negative, rest.takeWhile Char.isDigit), rest.dropWhile Char.isDigit)
    else (none, c :: rest)
  | [] => (none, [])

/-- The longest numeral at the start of a text, and what follows it. -/
def scan (chars : List Char) : Literal × List Char :=
  let (fraction, rest) := scanFraction (chars.dropWhile Char.isDigit)
  let (exponent, rest) := scanExponent rest
  (⟨chars.takeWhile Char.isDigit, fraction, exponent⟩, rest)

theorem scanFraction_length (chars : List Char) :
    (scanFraction chars).2.length ≤ chars.length := by
  unfold scanFraction
  split
  · have := (List.dropWhile_suffix (l := ‹List Char›) Char.isDigit).length_le
    simp only [List.length_cons]
    omega
  · simp

theorem scanSign_length (chars : List Char) : (scanSign chars).2.length ≤ chars.length := by
  unfold scanSign
  split <;> simp

theorem scanExponent_length (chars : List Char) :
    (scanExponent chars).2.length ≤ chars.length := by
  unfold scanExponent
  split
  · rename_i c rest
    split
    · have hdigits := (List.dropWhile_suffix (l := (scanSign rest).2) Char.isDigit).length_le
      have hsign := scanSign_length rest
      simp only [List.length_cons]
      omega
    · simp
  · simp

/-- What follows a numeral is no longer than the text without its leading digits. -/
theorem scan_length (chars : List Char) :
    (scan chars).2.length ≤ (chars.dropWhile Char.isDigit).length := by
  have hfraction := scanFraction_length (chars.dropWhile Char.isDigit)
  have hexponent := scanExponent_length (scanFraction (chars.dropWhile Char.isDigit)).2
  simp only [scan]
  omega

/-- The power of ten that is written out. -/
def power (l : Literal) : Int :=
  match l.exponent with
  | none => 0
  | some (negative, digits) =>
    let n := Nat.ofDigitChars 10 digits 0
    if negative then -(n : Int) else n

/-- The numeral that is written, its point moved behind the last digit. -/
def toDecimal (l : Literal) : Decimal :=
  let fraction := l.fraction.getD []
  ⟨Nat.ofDigitChars 10 (l.whole ++ fraction) 0, l.power - fraction.length⟩

/-- Whether each part that is announced by a mark has digits. -/
def isComplete (l : Literal) : Bool :=
  l.fraction != some [] && (l.exponent.map (·.2)) != some []

end Literal

end Grounding
