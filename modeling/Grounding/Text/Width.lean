import Grounding.Text.Width.Letters
import Grounding.Text.Width.Pictures

/-! The number of columns a line of text takes on a fixed-width display. The line is read from its
end, because a sign that several characters share is recognised by its last one. -/

namespace Grounding.Text

/-- What stands after a character, as far as both can be drawn as one. -/
inductive Tail
  | plain
  | letters (t : LetterTail)
  | picture (t : PictureTail)
  deriving DecidableEq

namespace Tail

/-- The tail that a character begins. -/
def ofChar (c : Char) : Tail :=
  match LetterTail.ofChar? c with
  | some t => letters t
  | none =>
    match PictureTail.ofChar? c with
    | some t => picture t
    | none => plain

def extend? (t : Tail) (c : Char) : Option (Int × Tail) :=
  match t with
  | plain => none
  | letters t => (t.extend? c).map fun r => (r.1, r.2.elim plain letters)
  | picture t => (t.extend? c).map fun r => (r.1, picture r.2)

def awaitsPicture : Tail → Bool
  | picture t => t.awaitsPicture
  | _ => false

/-- The tail that outlasts a selector before it: letters are drawn together across any selector, a
picture waits only for the one that asks for a picture. -/
def before (s : Selector) (t : Tail) : Tail :=
  match t with
  | letters _ => t
  | _ => if s = .picture ∧ t.awaitsPicture then t else plain

/-- The tail once a selector has not found a character to change. -/
def released : Tail → Tail
  | letters t => letters t
  | _ => plain

end Tail

/-- What has been read of a line from its end. -/
structure Reading where
  columns : Int
  tail : Tail
  /-- The selector that the character before it obeys. -/
  selector : Option Selector

namespace Reading

def start : Reading := ⟨0, .plain, none⟩

/-- Reads a character that no selector changes. -/
def readPlain (c : Char) (columns : Int) (tail : Tail) : Reading :=
  match Selector.ofChar? c with
  | some s => ⟨columns, tail.before s, some s⟩
  | none =>
    match tail.extend? c with
    | some (added, tail) => ⟨columns + added, tail, none⟩
    | none => ⟨columns + charWidth c, .ofChar c, none⟩

/-- Reads the character before what has been read. A picture that a selector makes takes two
columns, but none when it is joined to another; a text that a selector makes takes one. -/
def read (c : Char) (r : Reading) : Reading :=
  match r.selector with
  | none => readPlain c r.columns r.tail
  | some .picture =>
    if PictureTail.isSelectable c then
      ⟨r.columns + if r.tail.awaitsPicture then 0 else 2, .picture .picture, none⟩
    else readPlain c r.columns r.tail.released
  | some .text =>
    if PictureTail.isPlainAsText c then ⟨r.columns + 1, .plain, none⟩
    else readPlain c r.columns r.tail.released

end Reading

/-- The columns of a line. -/
def width (line : List Char) : Nat :=
  (line.foldr Reading.read .start).columns.toNat

end Grounding.Text
