import Grounding.Text.Width.Character

/-! Letters that are drawn as one sign with the letters after them. A line is read from its end, so
a sign is known first by its last letter; each letter before it either completes the sign, goes on
with it, or stands alone. -/

namespace Grounding.Text

/-- The part of a sign that has been read, from its end. A letter may need a joiner between itself
and the letter before it, and is then marked as joined once the joiner has been read. -/
inductive LetterTail
  /-- An Arabic alef, drawn together with a lam. -/
  | alef
  /-- A Hebrew lamed, drawn together with an alef. -/
  | lamed (joined : Bool)
  /-- A Buginese ya. -/
  | ya (joined : Bool)
  /-- A Buginese ya and the vowel sign joined to it. -/
  | vowelYa
  /-- A Tifinagh consonant. -/
  | consonant (joined : Bool)
  /-- A Tifinagh consonant and the sign that stacks it below another one. -/
  | stacked
  /-- The second of two Lisu tone letters. -/
  | tone
  /-- An Old Turkic vowel. -/
  | vowel (joined : Bool)
  /-- A Khmer letter that has a form below the line. -/
  | subscript
  deriving DecidableEq

namespace LetterTail

def alefRanges : List (Nat × Nat) :=
  [(0x622, 0x623), (0x625, 0x625), (0x627, 0x627), (0x671, 0x673), (0x675, 0x675),
   (0x773, 0x774), (0x870, 0x882)]

def lamRanges : List (Nat × Nat) :=
  [(0x644, 0x644), (0x6b5, 0x6b8), (0x76a, 0x76a), (0x8a6, 0x8a6), (0x8c7, 0x8c7)]

/-- Khmer letters that can stand below another one. -/
def subscriptRanges : List (Nat × Nat) :=
  [(0x1780, 0x1782), (0x1784, 0x1787), (0x1789, 0x178c), (0x178e, 0x1793), (0x1795, 0x1798),
   (0x179b, 0x179d), (0x17a0, 0x17a0), (0x17a2, 0x17a2), (0x17a7, 0x17a7), (0x17ab, 0x17ac),
   (0x17af, 0x17af)]

def consonantRanges : List (Nat × Nat) :=
  [(0x2d31, 0x2d65), (0x2d6f, 0x2d6f)]

/-- A mark on a letter that does not keep a lam and its alef apart. -/
def isLetterMark (c : Char) : Bool :=
  charWidth c == 0 && !inRanges separatorRanges c

/-- The tail that a letter begins. -/
def ofChar? (c : Char) : Option LetterTail :=
  if inRanges alefRanges c then some .alef
  else if c = '\u05dc' then some (.lamed false)
  else if c = '\u1a10' then some (.ya false)
  else if inRanges consonantRanges c then some (.consonant false)
  else if inRanges [(0xa4fc, 0xa4fd)] c then some .tone
  else if inRanges [(0x10c03, 0x10c03)] c then some (.vowel false)
  else if inRanges subscriptRanges c then some .subscript
  else none

/-- A tail after a joiner before it. -/
def join : LetterTail → LetterTail
  | lamed _ => lamed true
  | ya _ => ya true
  | consonant _ => consonant true
  | vowel _ => vowel true
  | t => t

/-- What a character before the tail adds to the columns of the line when both are drawn as one
sign, and what is left of the tail: nothing once the sign is complete. Joiners and ignored marks
stay within every sign but that of lam and alef, which only marks on the lam leave whole. -/
def extend? (t : LetterTail) (c : Char) : Option (Int × Option LetterTail) :=
  if t ≠ alef ∧ c = joiner then some (0, some t.join)
  else if t ≠ alef ∧ isIgnoredMark c then some (0, some t)
  else
    match t with
    | alef =>
      if inRanges lamRanges c then some (0, none)
      else if isLetterMark c then some (0, some alef)
      else none
    | lamed joined => if joined ∧ c = '\u05d0' then some (0, none) else none
    | ya joined => if joined ∧ c = '\u1a17' then some (0, some vowelYa) else none
    | vowelYa => if c = '\u1a15' then some (0, none) else none
    | consonant joined =>
      if c = '\u2d7f' then some (1, some stacked)
      else if joined ∧ inRanges consonantRanges c then some (0, none)
      else none
    | stacked => if inRanges consonantRanges c then some (-1, none) else none
    | tone => if inRanges [(0xa4f8, 0xa4fb)] c then some (0, none) else none
    | vowel joined =>
      if joined ∧ inRanges [(0x10c32, 0x10c32)] c then some (0, none) else none
    | subscript => if c = '\u17d2' then some (-1, none) else none

end LetterTail

end Grounding.Text
