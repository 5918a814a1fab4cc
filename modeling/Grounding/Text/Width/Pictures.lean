import Grounding.Text.Width.Character
import Grounding.Text.Width.PictureRanges

/-! Emoji that are drawn as one picture with the characters after them: with a skin tone, as the
flag of two letters or of a tag, and with other pictures by a joiner. A line is read from its
end. -/

namespace Grounding.Text

/-- The part of a picture that has been read, from its end. -/
inductive PictureTail
  /-- A picture that is complete and may be joined to one before it. -/
  | picture
  /-- A skin tone. -/
  | tone
  /-- One flag letter. -/
  | flagLetter
  /-- Two flag letters or more. -/
  | flagLetters
  /-- A joiner and the picture after it. -/
  | joined
  /-- A keycap before a joined picture. -/
  | keycap
  /-- One flag letter before a joined picture. -/
  | joinedLetter
  /-- An even number of flag letters before a joined picture. -/
  | evenLetters
  /-- An odd number of flag letters, three or more, before a joined picture. -/
  | oddLetters
  /-- The end of the tag of a flag. -/
  | tagEnd
  /-- Letters at the end of a tag. -/
  | tagLetters (count : Nat)
  /-- Digits, and what letters stand after them, at the end of a tag. -/
  | tagDigits (count : Nat)
  deriving DecidableEq

namespace PictureTail

def isFlagLetter (c : Char) : Bool :=
  inRanges [(0x1f1e6, 0x1f1ff)] c

def isTone (c : Char) : Bool :=
  inRanges [(0x1f3fb, 0x1f3ff)] c

def isTagEnd (c : Char) : Bool :=
  inRanges [(0xe007f, 0xe007f)] c

def isTagLetter (c : Char) : Bool :=
  inRanges [(0xe0061, 0xe007a)] c

def isTagDigit (c : Char) : Bool :=
  inRanges [(0xe0030, 0xe0039)] c

/-- The flag that a tag gives its design. -/
def isBlackFlag (c : Char) : Bool :=
  inRanges [(0x1f3f4, 0x1f3f4)] c

def isSelectable (c : Char) : Bool :=
  inRanges selectableRanges c

/-- A picture that a selector can draw as text in one column; enclosed ideographs stay wide. -/
def isPlainAsText (c : Char) : Bool :=
  inRanges pictureRanges c && isSelectable c && !inRanges [(0x1f200, 0x1f2ff)] c

/-- The tail that a character begins. -/
def ofChar? (c : Char) : Option PictureTail :=
  if isFlagLetter c then some .flagLetter
  else if isTone c then some .tone
  else if inRanges pictureRanges c then some .picture
  else none

/-- Before these tails a picture made by a selector takes no columns of its own. -/
def awaitsPicture (t : PictureTail) : Bool :=
  t = joined || t = keycap

/-- What a character before the tail adds to the columns of the line when both are drawn as one
picture, and the tail that it makes. Flag letters pair from the first one on, so each letter read
before a joined picture changes all pairs: of an even number of letters the last pair is joined and
takes no columns, of an odd number the last letter stands alone and takes one. -/
def extend? (t : PictureTail) (c : Char) : Option (Int × PictureTail) :=
  match t with
  | picture => if c = joiner then some (0, joined) else none
  | tone =>
    if c = joiner then some (0, joined)
    else if inRanges toneBaseRanges c then some (0, picture)
    else none
  | flagLetter => if isFlagLetter c then some (1, flagLetters) else none
  | flagLetters =>
    if c = joiner then some (0, joined)
    else if isFlagLetter c then some (1, flagLetters)
    else none
  | joined =>
    if c = '\u20e3' then some (0, keycap)
    else if isFlagLetter c then some (1, joinedLetter)
    else if isTone c then some (0, tone)
    else if isTagEnd c then some (0, tagEnd)
    else if inRanges pictureRanges c then some (0, picture)
    else none
  | keycap => none
  | joinedLetter => if isFlagLetter c then some (-1, evenLetters) else none
  | evenLetters =>
    if c = joiner then some (0, joined)
    else if isFlagLetter c then some (3, oddLetters)
    else none
  | oddLetters =>
    if c = joiner then some (0, joined)
    else if isFlagLetter c then some (-1, evenLetters)
    else none
  | tagEnd =>
    if isTagLetter c then some (0, tagLetters 1)
    else if isTagDigit c then some (0, tagDigits 1)
    else none
  | tagLetters count =>
    if isTagLetter c ∧ count < 6 then some (0, tagLetters (count + 1))
    else if isTagDigit c ∧ count ≤ 4 then some (0, tagDigits 1)
    else if isBlackFlag c ∧ 3 ≤ count then some (0, picture)
    else none
  | tagDigits count =>
    if isTagDigit c ∧ count < 3 then some (0, tagDigits (count + 1))
    else if isBlackFlag c ∧ count = 3 then some (0, picture)
    else none

end PictureTail

end Grounding.Text
