import Grounding.Concept.Draft
import Grounding.Disk
import Grounding.Json.Fault
import Grounding.Report

/-! What goes wrong when an ontology is loaded or searched. -/

namespace Grounding

/-- What is wrong with the bounds of a range. -/
inductive BoundsFault
  | inverted (min max : Number)
  | notFinite (bound : Attribute)
  | outside (bound : Attribute) (value period : Number)
  | other (text : String)
  deriving DecidableEq

/-- Why a file cannot be read. -/
inductive AccessFault
  | file (location : String) (error : FileError)
  | other (text : String)
  deriving DecidableEq

/-- Why a file is not taken for an ontology. -/
inductive FormatFault
  | extension (found : Option String)
  | other (text : String)
  deriving DecidableEq

inductive OntologyError
  | unknownConcept (name : String)
  | unreadable (fault : AccessFault)
  /-- The text is no JSON document. -/
  | notJson (fault : Json.Fault)
  /-- The document is not an object. -/
  | notObject (found : Json)
  /-- An entry has no attributes of the right types. -/
  | malformedEntry (concept : String) (fault : DecodeFault)
  | unsupportedFormat (fault : FormatFault)
  | unknownType (concept : String) (tag : String)
  | missingAttribute (concept : String) (a : Attribute)
  | invalidBounds (concept : String) (fault : BoundsFault)
  | missingPeriod (concept : String)
  | invalidPeriod (concept : String) (period : Number)

def BoundsFault.message : BoundsFault → String
  | inverted min max => s!"min {min.display} exceeds max {max.display}"
  | notFinite bound => s!"{bound.name} is not a finite number"
  | outside bound value period =>
    s!"{bound.name} {value.display} is outside [0, {period.display}]"
  | other text => text

def AccessFault.message : AccessFault → String
  | file location error => s!"{location}: {error.message}"
  | other text => text

def FormatFault.message : FormatFault → String
  | extension (some found) => s!"Unsupported file extension: .{found}. Expected .json"
  | extension none => "No file extension found. Expected .json"
  | other text => text

namespace OntologyError

def message : OntologyError → String
  | unknownConcept name => s!"Concept '{name}' not found in ontology"
  | unreadable fault => s!"I/O error: {fault.message}"
  | notJson fault => s!"Parse error: {fault.message}"
  | notObject found => s!"Parse error: invalid type: {found.found}, expected a map"
  | malformedEntry concept fault => s!"Parse error: concept '{concept}': {fault.message}"
  | unsupportedFormat fault => s!"Unsupported ontology format: {fault.message}"
  | unknownType concept tag => s!"Concept '{concept}' has unknown type '{tag}'"
  | missingAttribute concept a => s!"Concept '{concept}' is missing attribute '{a.name}'"
  | invalidBounds concept fault => s!"Concept '{concept}' has invalid bounds: {fault.message}"
  | missingPeriod concept =>
    s!"Cyclic concept '{concept}' has no range_max and no default period is configured"
  | invalidPeriod concept period =>
    s!"Cyclic concept '{concept}' has invalid period {period.display}"

def code : OntologyError → Code
  | unknownConcept _ => .unknownConcept
  | unreadable .. => .fileAccess
  | notJson _ => .ontologyDocument
  | notObject _ => .ontologyDocument
  | malformedEntry .. => .ontologyDocument
  | unsupportedFormat _ => .ontologyFormat
  | unknownType .. => .unknownType
  | missingAttribute .. => .missingAttribute
  | invalidBounds .. => .invalidBounds
  | missingPeriod _ => .missingPeriod
  | invalidPeriod .. => .invalidPeriod

/-- The concept the error is about, when there is one. -/
def concept? : OntologyError → Option String
  | unknownConcept name => some name
  | unknownType concept _ => some concept
  | missingAttribute concept _ => some concept
  | invalidBounds concept _ => some concept
  | missingPeriod concept => some concept
  | invalidPeriod concept _ => some concept
  | _ => none

def toReport (e : OntologyError) : Report :=
  match e with
  | unreadable .. => .system e.code e.message none
  | _ => .ontology e.code e.message e.concept? none

end OntologyError

end Grounding
