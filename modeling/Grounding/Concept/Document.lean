import Grounding.Concept.Draft

/-! Concepts as documents: an object that names its kind, or an array that starts with the kind and
goes on with the attributes in their order. A concept inside another may give its kind by number. -/

namespace Grounding

namespace Concept

/-- An attribute of a kind of concept, whose value may hold other concepts. -/
inductive Slot
  | plain (a : Attribute)
  | base
  | removed
  | operands
  deriving DecidableEq

def Slot.name : Slot → String
  | plain a => a.name
  | base => "base"
  | removed => "removed"
  | operands => "operands"

namespace Kind

/-- The attributes of a kind in their order. Only the last one of a scalar range is optional. -/
def slots : Kind → List Slot
  | scalarRange => [.plain .field, .plain .min, .plain .max, .plain .unit]
  | categorical => [.plain .field, .plain .values]
  | cyclicRange => [.plain .field, .plain .min, .plain .max, .plain .rangeMax]
  | multiRange => [.plain .field, .plain .ranges]
  | differenceResult => [.base, .removed]
  | union => [.operands]
  | empty => [.plain .field]

/-- The name of the record of attributes in messages. -/
def recordName : Kind → String
  | scalarRange => "ScalarRange"
  | categorical => "Categorical"
  | cyclicRange => "CyclicRange"
  | multiRange => "MultiRange"
  | differenceResult => "DifferenceResult"
  | union => "DeferredUnion"
  | empty => "EmptySet"

def slot? (kind : Kind) (name : String) : Option Slot :=
  kind.slots.find? (·.name == name)

/-- The kind a document names. -/
def ofJson : Option Json → Except DecodeFault Kind
  | none => .error (.missing "type")
  | some (.string tag) =>
    match ofTag? tag with
    | some kind => .ok kind
    | none => .error (.unknownTag tag (all.map Kind.tag))
  | some v => .error (.wrongType v .tag)

/-- The kind of a concept inside another: its name, or its place among all kinds. -/
def ofNestedJson : Option Json → Except DecodeFault Kind
  | some (.int n) =>
    if n.value < 0 then .error (.wrongType (.int n) .tag)
    else
      match all[n.value.toNat]? with
      | some kind => .ok kind
      | none => .error (.unknownIndex n all.length)
  | v => ofJson v

end Kind

/-- A unit may be null, which is the same as no unit. -/
def readPlain (a : Attribute) (v : Json) (d : Draft) : Except DecodeFault Draft :=
  match a, v with
  | .unit, .null => .ok { d with unit := none }
  | a, v => d.read a v

/-- The concept of a kind, once all its attributes are read. -/
def finish (kind : Kind) (d : Draft) : Except DecodeFault Concept :=
  match kind with
  | .scalarRange => do
    let field ← required "field" d.field
    let min ← required "min" d.min
    let max ← required "max" d.max
    .ok (scalar field ⟨min, max⟩ d.unit)
  | .categorical => do
    let field ← required "field" d.field
    let values ← required "values" d.values
    .ok (categorical field (.ofList values))
  | .cyclicRange => do
    let field ← required "field" d.field
    let min ← required "min" d.min
    let max ← required "max" d.max
    let period ← required "range_max" d.rangeMax
    .ok (cyclic field min max period)
  | .multiRange => do
    let field ← required "field" d.field
    let ranges ← required "ranges" d.ranges
    .ok (multi field ranges)
  | .differenceResult => do
    let base ← required "base" d.base
    let removed ← required "removed" d.removed
    .ok (difference base removed)
  | .union => do
    let (left, right) ← required "operands" d.operands
    .ok (union left right)
  | .empty => do
    let field ← required "field" d.field
    .ok (empty field)

mutual

/-- Reads a concept with a reader of its tag. -/
def readTagged (kindOf : Option Json → Except DecodeFault Kind) : Json → Except DecodeFault Concept
  | .object members => do
    let kind ← kindOf (Entries.find? "type" members)
    let d ← readMembers kind members .blank
    finish kind d
  | .array [] => .error (.missing "type")
  | .array (tag :: items) => do
    let kind ← kindOf (some tag)
    let d ← readItems kind items.length kind.slots items .blank
    finish kind d
  | v => .error (.wrongType v (.taggedRecord "Concept"))
termination_by structural v => v

/-- Reads the attributes of a kind by name; other members are skipped. -/
def readMembers (kind : Kind) : List (String × Json) → Draft → Except DecodeFault Draft
  | [], d => .ok d
  | (name, v) :: rest, d =>
    match kind.slot? name with
    | none => readMembers kind rest d
    | some (.plain a) => do
      let d ← readPlain a v d
      readMembers kind rest d
    | some .base => do
      let c ← readTagged Kind.ofNestedJson v
      readMembers kind rest { d with base := some c }
    | some .removed => do
      let c ← readTagged Kind.ofNestedJson v
      readMembers kind rest { d with removed := some c }
    | some .operands =>
      match v with
      | .array items => do
        let pair ← readPair items
        readMembers kind rest { d with operands := some pair }
      | v => .error (.wrongType v .pair)
termination_by structural members => members

/-- Reads the attributes of a kind by position, out of `length` values. -/
def readItems (kind : Kind) (length : Nat) :
    List Slot → List Json → Draft → Except DecodeFault Draft
  | [], [], d => .ok d
  | [], _ :: _, _ => .error (.wrongLength length (.sequence kind.slots.length))
  | slot :: _, [], d =>
    if slot = .plain .unit then .ok d
    else .error (.wrongLength length (.record kind.recordName kind.slots.length))
  | slot :: slots, v :: rest, d =>
    match slot with
    | .plain a => do
      let d ← readPlain a v d
      readItems kind length slots rest d
    | .base => do
      let c ← readTagged Kind.ofNestedJson v
      readItems kind length slots rest { d with base := some c }
    | .removed => do
      let c ← readTagged Kind.ofNestedJson v
      readItems kind length slots rest { d with removed := some c }
    | .operands =>
      match v with
      | .array items => do
        let pair ← readPair items
        readItems kind length slots rest { d with operands := some pair }
      | v => .error (.wrongType v .pair)
termination_by structural _ items => items

/-- Reads two operands. -/
def readPair : List Json → Except DecodeFault (Concept × Concept)
  | [] => .error (.wrongLength 0 .pair)
  | [left] => do
    let _ ← readTagged Kind.ofNestedJson left
    .error (.wrongLength 1 .pair)
  | left :: right :: rest => do
    let left ← readTagged Kind.ofNestedJson left
    let right ← readTagged Kind.ofNestedJson right
    if rest = [] then .ok (left, right)
    else .error (.wrongLength (rest.length + 2) (.sequence 2))
termination_by structural items => items

end

/-- Reads a whole document, which names its kind. -/
def ofJson (v : Json) : Except DecodeFault Concept :=
  readTagged Kind.ofJson v

def toJson : Concept → Json
  | scalar field bounds unit =>
    .object ([("type", .string Kind.scalarRange.tag), ("field", .string field),
      ("min", .ofNumber bounds.min), ("max", .ofNumber bounds.max)] ++
      match unit with
      | some unit => [("unit", .string unit)]
      | none => [])
  | categorical field labels =>
    .object [("type", .string Kind.categorical.tag), ("field", .string field),
      ("values", .array (labels.labels.map .string))]
  | cyclic field min max period =>
    .object [("type", .string Kind.cyclicRange.tag), ("field", .string field),
      ("min", .ofNumber min), ("max", .ofNumber max), ("range_max", .ofNumber period)]
  | multi field segments =>
    .object [("type", .string Kind.multiRange.tag), ("field", .string field),
      ("ranges", .array (segments.map Segment.toJson))]
  | difference base removed =>
    .object [("type", .string Kind.differenceResult.tag), ("base", base.toJson),
      ("removed", removed.toJson)]
  | union left right =>
    .object [("type", .string Kind.union.tag),
      ("operands", .array [left.toJson, right.toJson])]
  | empty field =>
    .object [("type", .string Kind.empty.tag), ("field", .string field)]

end Concept

end Grounding
