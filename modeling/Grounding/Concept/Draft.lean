import Grounding.Concept
import Grounding.Json.Decode

/-! The attributes of a concept while its document is read. Attributes are taken in the order of
the document, so that the first wrong one is reported; what is missing shows at the end. -/

namespace Grounding

/-- The attributes whose values hold no other concept. -/
inductive Attribute
  | type
  | field
  | min
  | max
  | unit
  | values
  | rangeMax
  | ranges
  deriving DecidableEq

def Attribute.name : Attribute → String
  | type => "type"
  | field => "field"
  | min => "min"
  | max => "max"
  | unit => "unit"
  | values => "values"
  | rangeMax => "range_max"
  | ranges => "ranges"

/-- What has been read so far. -/
structure Draft where
  type : Option String
  field : Option String
  min : Option Number
  max : Option Number
  unit : Option String
  values : Option (List String)
  rangeMax : Option Number
  ranges : Option (List Segment)
  base : Option Concept
  removed : Option Concept
  operands : Option (Concept × Concept)

/-- The value of an attribute, which has to be there. -/
def required {α : Type} (name : String) : Option α → Except DecodeFault α
  | some v => .ok v
  | none => .error (.missing name)

namespace Segment

/-- Reads the bounds by name; other members are skipped. -/
def readMembers : List (String × Json) → Option Number → Option Number →
    Except DecodeFault (Option Number × Option Number)
  | [], min, max => .ok (min, max)
  | (name, v) :: rest, min, max =>
    if name = "min" then do
      let n ← v.asNumber
      readMembers rest (some n) max
    else if name = "max" then do
      let n ← v.asNumber
      readMembers rest min (some n)
    else readMembers rest min max

/-- An interval is an object with both bounds, or an array of them. -/
def ofJson : Json → Except DecodeFault Segment
  | .object members => do
    let (min, max) ← readMembers members none none
    let min ← required "min" min
    let max ← required "max" max
    .ok ⟨min, max⟩
  | .array [] => .error (.wrongLength 0 (.record "Segment" 2))
  | .array [min] => do
    let _ ← min.asNumber
    .error (.wrongLength 1 (.record "Segment" 2))
  | .array (min :: max :: rest) => do
    let min ← min.asNumber
    let max ← max.asNumber
    if rest = [] then .ok ⟨min, max⟩
    else .error (.wrongLength (rest.length + 2) (.sequence 2))
  | v => .error (.wrongType v (.record "Segment"))

def toJson (s : Segment) : Json :=
  .object [("min", .ofNumber s.min), ("max", .ofNumber s.max)]

end Segment

namespace Draft

def blank : Draft :=
  ⟨none, none, none, none, none, none, none, none, none, none, none⟩

/-- Takes the value of an attribute. -/
def read (a : Attribute) (v : Json) (d : Draft) : Except DecodeFault Draft :=
  match a with
  | .type => do
    let s ← v.asString
    .ok { d with type := some s }
  | .field => do
    let s ← v.asString
    .ok { d with field := some s }
  | .min => do
    let n ← v.asNumber
    .ok { d with min := some n }
  | .max => do
    let n ← v.asNumber
    .ok { d with max := some n }
  | .unit => do
    let s ← v.asString
    .ok { d with unit := some s }
  | .values => do
    let labels ← v.asList Json.asString
    .ok { d with values := some labels }
  | .rangeMax => do
    let n ← v.asNumber
    .ok { d with rangeMax := some n }
  | .ranges => do
    let segments ← v.asList Segment.ofJson
    .ok { d with ranges := some segments }

end Draft

end Grounding
