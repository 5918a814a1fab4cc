import Grounding.LabelSet
import Grounding.Segment

/-! Concepts: selections on a single field of the data. An ontology holds ranges, sets of labels and
ranges of a circle; the other shapes come from set operations. -/

namespace Grounding

inductive Concept
  /-- The numbers of an interval, with the unit they are given in. -/
  | scalar (field : String) (bounds : Segment) (unit : Option String)
  | categorical (field : String) (labels : LabelSet)
  /-- The numbers from `min` on to `max` on a circle whose length is `period`. -/
  | cyclic (field : String) (min max period : Number)
  /-- The numbers of any of several intervals. -/
  | multi (field : String) (segments : List Segment)
  /-- What `base` selects and `removed` does not. -/
  | difference (base removed : Concept)
  | union (left right : Concept)
  /-- Nothing. -/
  | empty (field : String)
  deriving DecidableEq

namespace Concept

inductive Kind
  | scalarRange
  | categorical
  | cyclicRange
  | multiRange
  | differenceResult
  | union
  | empty
  deriving DecidableEq

namespace Kind

/-- All kinds, in the order in which messages list them. -/
def all : List Kind :=
  [scalarRange, categorical, cyclicRange, multiRange, differenceResult, union, empty]

/-- The name of a kind in documents. -/
def tag : Kind → String
  | scalarRange => "scalar_range"
  | categorical => "categorical"
  | cyclicRange => "cyclic_range"
  | multiRange => "multi_range"
  | differenceResult => "difference_result"
  | union => "union"
  | empty => "empty"

def ofTag? (text : String) : Option Kind :=
  all.find? (·.tag == text)

end Kind

def kind : Concept → Kind
  | scalar .. => .scalarRange
  | categorical .. => .categorical
  | cyclic .. => .cyclicRange
  | multi .. => .multiRange
  | difference .. => .differenceResult
  | union .. => .union
  | empty _ => .empty

/-- The field a concept selects on. A union has one when both operands have the same one. -/
def field? : Concept → Option String
  | scalar field .. => some field
  | categorical field _ => some field
  | cyclic field .. => some field
  | multi field _ => some field
  | difference base _ => base.field?
  | union left right =>
    match left.field?, right.field? with
    | some l, some r => if l = r then some l else none
    | _, _ => none
  | empty field => some field

/-- The field in messages, where a union of several fields is named by its kind. -/
def fieldLabel (c : Concept) : String :=
  match c.field? with
  | some field => field
  | none => s!"<mixed {c.kind.tag}>"

def isEmpty : Concept → Bool
  | empty _ => true
  | _ => false

/-- The selection as a condition on its field. -/
def display : Concept → String
  | scalar field bounds unit =>
    s!"{field} in {bounds.display}" ++
      match unit with
      | some unit => " " ++ unit
      | none => ""
  | categorical field labels =>
    field ++ " in \x7b" ++ ", ".intercalate labels.labels ++ "\x7d"
  | cyclic field min max period =>
    s!"{field} in [{min.display}, {max.display}] mod {period.display}"
  | multi field segments =>
    s!"{field} in " ++ " | ".intercalate (segments.map Segment.display)
  | difference base removed => s!"({base.display}) minus ({removed.display})"
  | union left right => s!"({left.display}) or ({right.display})"
  | empty field => field ++ " in \x7b\x7d"

/-- The intervals of the line that a concept covers. A range of a circle always gives the part from
`min` to the period and the part from zero to `max`. -/
def unroll? : Concept → Option (List Segment)
  | scalar _ bounds _ => some [bounds]
  | cyclic _ min max period => some [⟨min, period⟩, ⟨.zero, max⟩]
  | multi _ segments => some segments
  | _ => none

end Concept

end Grounding
