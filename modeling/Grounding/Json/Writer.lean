import Grounding.Decimal.Layout
import Grounding.Json

/-! Writing a JSON document, on one line or with each item and member on a line of its own. -/

namespace Grounding.Json

/-- Numbers keep their point, and get an exponent outside the powers from -5 to 15. -/
def numberLayout : NumberLayout :=
  ⟨some (-5, 15), true, .even⟩

def intText (n : Int) : List Char :=
  (if n < 0 then ['-'] else []) ++ Nat.toDigits 10 n.natAbs

/-- Quotes, backslashes and control characters are escaped, by a letter where there is one. -/
def escapedChar (c : Char) : List Char :=
  match c with
  | '"' => ['\\', '"']
  | '\\' => ['\\', '\\']
  | '\x08' => ['\\', 'b']
  | '\x0c' => ['\\', 'f']
  | '\n' => ['\\', 'n']
  | '\r' => ['\\', 'r']
  | '\t' => ['\\', 't']
  | c =>
    if c.toNat < 0x20 then
      ['\\', 'u', '0', '0', Nat.digitChar (c.toNat / 16), Nat.digitChar (c.toNat % 16)]
    else [c]

def stringText (s : String) : List Char :=
  '"' :: s.toList.flatMap escapedChar ++ ['"']

inductive Style
  | compact
  | pretty
  deriving DecidableEq

namespace Style

/-- The line end and the indent before an item at a depth. -/
def gap (style : Style) (depth : Nat) : List Char :=
  match style with
  | compact => []
  | pretty => '\n' :: List.replicate (2 * depth) ' '

def afterColon (style : Style) : List Char :=
  match style with
  | compact => []
  | pretty => [' ']

end Style

mutual

/-- The text of a value that starts at a depth. -/
def chars (style : Style) (depth : Nat) : Json → List Char
  | .null => ['n', 'u', 'l', 'l']
  | .bool true => ['t', 'r', 'u', 'e']
  | .bool false => ['f', 'a', 'l', 's', 'e']
  | .int n => intText n.value
  | .float x => numberLayout.text x
  | .string s => stringText s
  | .array [] => ['[', ']']
  | .array (v :: vs) =>
    '[' :: (style.gap (depth + 1) ++ chars style (depth + 1) v ++
      itemChars style (depth + 1) vs) ++ style.gap depth ++ [']']
  | .object [] => ['\x7b', '\x7d']
  | .object ((name, v) :: ms) =>
    '\x7b' :: (style.gap (depth + 1) ++ stringText name ++ ':' :: style.afterColon ++
      chars style (depth + 1) v ++ memberChars style (depth + 1) ms) ++ style.gap depth ++ ['\x7d']

/-- The items of an array after the first one. -/
def itemChars (style : Style) (depth : Nat) : List Json → List Char
  | [] => []
  | v :: vs => ',' :: (style.gap depth ++ chars style depth v ++ itemChars style depth vs)

/-- The members of an object after the first one. -/
def memberChars (style : Style) (depth : Nat) : List (String × Json) → List Char
  | [] => []
  | (name, v) :: ms =>
    ',' :: (style.gap depth ++ stringText name ++ ':' :: style.afterColon ++
      chars style depth v ++ memberChars style depth ms)

end

def write (style : Style) (v : Json) : String :=
  String.ofList (chars style 0 v)

end Grounding.Json
