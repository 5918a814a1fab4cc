import Grounding.Ontology.Error

/-! Entries of an ontology: what a stored concept has to satisfy, and how an entry of the document
becomes a concept. -/

namespace Grounding

/-- A bound has to be finite. -/
def checkFinite (name : String) (bound : Attribute) (x : Number) : Except OntologyError Unit :=
  if x.isFinite then .ok () else .error (.invalidBounds name (.notFinite bound))

/-- A bound of a range of a circle has to be finite and to lie between zero and the period. -/
def checkWithin (name : String) (period : Number) (bound : Attribute) (x : Number) :
    Except OntologyError Unit := do
  checkFinite name bound x
  if x < .zero ∨ period < x then .error (.invalidBounds name (.outside bound x period))
  else .ok ()

/-- Whether a concept may be stored under a name. Only ranges, sets of labels and ranges of a circle
may, with a field that has a name and with bounds in order. -/
def Concept.validate (name : String) (c : Concept) : Except OntologyError Unit :=
  if c.field? = none ∨ c.field? = some "" then .error (.missingAttribute name .field)
  else
    match c with
    | .scalar _ bounds _ => do
      checkFinite name .min bounds.min
      checkFinite name .max bounds.max
      if bounds.max < bounds.min then
        .error (.invalidBounds name (.inverted bounds.min bounds.max))
      else .ok ()
    | .categorical _ _ => .ok ()
    | .cyclic _ min max period => do
      if period.isFinite = false ∨ period ≤ .zero then .error (.invalidPeriod name period)
      else
        checkWithin name period .min min
        checkWithin name period .max max
    | c => .error (.unknownType name c.kind.tag)

/-- A stored concept, and whether its period is the default one. -/
structure Entry where
  concept : Concept
  defaulted : Bool

namespace Entry

/-- The attributes of an entry in the order of its array form. -/
def slots : List Attribute :=
  [.type, .field, .min, .max, .unit, .values, .rangeMax]

/-- Takes the value of an attribute; null is the same as no value. -/
def readValue (d : Draft) (a : Attribute) (v : Json) : Except DecodeFault Draft :=
  match v with
  | .null => .ok d
  | v => d.read a v

/-- Reads the attributes by name; other members are skipped. -/
def readMember (d : Draft) (member : String × Json) : Except DecodeFault Draft :=
  match slots.find? (·.name == member.1) with
  | some a => readValue d a member.2
  | none => .ok d

/-- The attributes of an entry, given as an object or as an array of exactly seven values. -/
def draft : Json → Except DecodeFault Draft
  | .object members => members.foldlM readMember .blank
  | .array items => do
    let d ← (slots.zip items).foldlM (fun d slot => readValue d slot.1 slot.2) .blank
    if items.length < slots.length then
      .error (.wrongLength items.length (.record "RawEntry" slots.length))
    else if slots.length < items.length then .error (.wrongLength items.length .fewer)
    else .ok d
  | v => .error (.wrongType v (.record "RawEntry"))

/-- The value of an attribute, which has to be there. -/
def need {α : Type} (name : String) (a : Attribute) : Option α → Except OntologyError α
  | some v => .ok v
  | none => .error (.missingAttribute name a)

/-- The period of a range of a circle: the declared one, or else the default one. -/
def periodOf (name : String) (default? : Option Number) :
    Option Number → Except OntologyError (Number × Bool)
  | some period => .ok (period, false)
  | none =>
    match default? with
    | some period => .ok (period, true)
    | none => .error (.missingPeriod name)

/-- The concept of an entry before it is checked. -/
def ofDraft (name : String) (default? : Option Number) (d : Draft) :
    Except OntologyError Entry := do
  let tag ← need name .type d.type
  match Concept.Kind.ofTag? tag with
  | some .scalarRange => do
    let field ← need name .field d.field
    let min ← need name .min d.min
    let max ← need name .max d.max
    .ok ⟨.scalar field ⟨min, max⟩ d.unit, false⟩
  | some .categorical => do
    let field ← need name .field d.field
    let values ← need name .values d.values
    .ok ⟨.categorical field (.ofList values), false⟩
  | some .cyclicRange => do
    let field ← need name .field d.field
    let (period, defaulted) ← periodOf name default? d.rangeMax
    let min ← need name .min d.min
    let max ← need name .max d.max
    .ok ⟨.cyclic field min max period, defaulted⟩
  | some _ => do
    let _ ← need name .field d.field
    .error (.unknownType name tag)
  | none => .error (.unknownType name tag)

/-- The entry with a name. A range of a circle without a period takes the default one. -/
def read (name : String) (default? : Option Number) (v : Json) : Except OntologyError Entry := do
  let d ←
    match draft v with
    | .ok d => .ok d
    | .error fault => .error (.malformedEntry name fault)
  let entry ← ofDraft name default? d
  entry.concept.validate name
  .ok entry

end Entry

end Grounding
