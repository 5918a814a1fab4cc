import Grounding.Text.Case

/-! Lower case of a text. A capital sigma takes its final form at the end of a word; every other
letter is lowered on its own. -/

namespace Grounding.Text

/-- The lower case of one character. Only the dotted capital I becomes two characters. -/
def lowerChar (c : Char) : List Char :=
  if c.toNat = 0x130 then ['i', '\u0307']
  else
    match lowercaseRuns.find? fun run =>
        run.first ≤ c.toNat && c.toNat ≤ run.last && (c.toNat - run.first) % run.stride == 0 with
    | some run => [Char.ofNat (c.toNat + run.shift).toNat]
    | none => [c]

/-- Whether a letter comes first once the ignorable characters are skipped. -/
def meetsLetter (chars : List Char) : Bool :=
  match chars.dropWhile isCaseIgnorable with
  | c :: _ => isCased c
  | [] => false

/-- Lowers the characters after `before`, which is in reverse order. -/
def lowerAfter (before : List Char) : List Char → List Char
  | [] => []
  | c :: rest =>
    let lowered :=
      if c = 'Σ' then
        if meetsLetter before && !meetsLetter rest then ['ς'] else ['σ']
      else lowerChar c
    lowered ++ lowerAfter (c :: before) rest

def lowercase (text : String) : String :=
  String.ofList (lowerAfter [] text.toList)

end Grounding.Text
