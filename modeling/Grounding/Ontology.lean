import Grounding.Json.Reader
import Grounding.Ontology.Entry

/-! Ontologies: named concepts in the order of their document, and what plans can be grounded
against. -/

namespace Grounding

/-- What a plan can be grounded against: a concept for each of some names. -/
structure Source where
  lookup : String → Except OntologyError Concept
  names : List String

structure Ontology where
  entries : List (String × Concept)
  /-- The names whose periods are the default one. -/
  defaulted : List String

namespace Ontology

def empty : Ontology :=
  ⟨[], []⟩

/-- Reads the entries of a document one after the other, up to the first wrong one. -/
def ofMembers (default? : Option Number) : List (String × Json) → Except OntologyError Ontology
  | [] => .ok empty
  | (name, v) :: rest => do
    let entry ← Entry.read name default? v
    let o ← ofMembers default? rest
    .ok ⟨(name, entry.concept) :: o.entries,
      if entry.defaulted then name :: o.defaulted else o.defaulted⟩

/-- The ontology of a document. A repeated name has its first place and its last value. -/
def ofJson (default? : Option Number) : Json → Except OntologyError Ontology
  | .object members => ofMembers default? (Entries.ofList members)
  | v => .error (.notObject v)

/-- The ontology of a text. -/
def ofText (default? : Option Number) (text : String) : Except OntologyError Ontology :=
  match Json.read Json.deepestNesting text with
  | .ok v => ofJson default? v
  | .error fault => .error (.notJson fault)

/-- The ontology of concepts that are checked one after the other. A repeated name has its first
place and its last concept. -/
def ofConcepts (concepts : List (String × Concept)) : Except OntologyError Ontology := do
  concepts.forM fun entry => entry.2.validate entry.1
  .ok ⟨Entries.ofList concepts, []⟩

def lookup (o : Ontology) (name : String) : Except OntologyError Concept :=
  match Entries.find? name o.entries with
  | some c => .ok c
  | none => .error (.unknownConcept name)

def contains (o : Ontology) (name : String) : Bool :=
  (Entries.find? name o.entries).isSome

def names (o : Ontology) : List String :=
  Entries.names o.entries

/-- The names in one text. -/
def vocabulary (o : Ontology) (separator : String) : String :=
  separator.intercalate o.names

def size (o : Ontology) : Nat :=
  o.entries.length

def isEmpty (o : Ontology) : Bool :=
  o.entries.isEmpty

def toSource (o : Ontology) : Source :=
  ⟨o.lookup, o.names⟩

end Ontology

/-- Concepts of any shape by name, unchecked, in ascending order of their names. -/
structure ConceptMap where
  entries : List (String × Concept)

namespace ConceptMap

def empty : ConceptMap :=
  ⟨[]⟩

def insertEntry (name : String) (c : Concept) :
    List (String × Concept) → List (String × Concept)
  | [] => [(name, c)]
  | (n, d) :: rest =>
    if name < n then (name, c) :: (n, d) :: rest
    else if name = n then (n, c) :: rest
    else (n, d) :: insertEntry name c rest

def insert (m : ConceptMap) (name : String) (c : Concept) : ConceptMap :=
  ⟨insertEntry name c m.entries⟩

def ofList (concepts : List (String × Concept)) : ConceptMap :=
  concepts.foldl (fun m entry => m.insert entry.1 entry.2) empty

def lookup (m : ConceptMap) (name : String) : Except OntologyError Concept :=
  match Entries.find? name m.entries with
  | some c => .ok c
  | none => .error (.unknownConcept name)

def size (m : ConceptMap) : Nat :=
  m.entries.length

def toSource (m : ConceptMap) : Source :=
  ⟨m.lookup, Entries.names m.entries⟩

end ConceptMap

end Grounding
