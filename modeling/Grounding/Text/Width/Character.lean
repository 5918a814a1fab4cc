import Grounding.Text.CodePoint
import Grounding.Text.Width.Ranges

/-! The columns of a character that stands alone, and the invisible characters that change how
their neighbours are drawn. -/

namespace Grounding.Text

/-- The columns of one character; a control character takes one. -/
def charWidth (c : Char) : Nat :=
  if c.toNat ≤ 0xa0 then 1
  else if inRanges zeroWidthRanges c then 0
  else if inRanges doubleWidthRanges c then 2
  else if c = '\u17d8' then 3
  else 1

/-- The joiner that draws its two neighbours as one. -/
def joiner : Char := '\u200d'

/-- What a selector makes of the character before it. -/
inductive Selector
  | text
  | picture
  deriving DecidableEq

def Selector.ofChar? (c : Char) : Option Selector :=
  if c = '\ufe0e' then some .text
  else if c = '\ufe0f' then some .picture
  else none

/-- Marks that never show and do not keep letters apart. -/
def isIgnoredMark (c : Char) : Bool :=
  inRanges [(0x34f, 0x34f), (0x17b4, 0x17b5), (0x180b, 0x180d), (0x180f, 0x180f),
    (0xfe00, 0xfe0f), (0xe0100, 0xe01ef)] c

end Grounding.Text
