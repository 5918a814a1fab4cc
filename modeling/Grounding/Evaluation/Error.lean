import Grounding.Ontology
import Grounding.Plan.Document

/-! What goes wrong when a plan is grounded. -/

namespace Grounding

inductive EvaluationError
  | unknownConcept (name : String)
  | malformedPlan (error : ShapeError)
  /-- Two concepts on different fields, by the labels of their fields. -/
  | fieldMismatch (left right : String)
  | unsupportedKinds (op : Operator) (left right : Concept.Kind)
  | depthExceeded (limit : Nat)
  /-- Any other error of the source. -/
  | source (error : OntologyError)

def ShapeError.code (e : ShapeError) : Code :=
  match e.fault with
  | .unknownOperator _ => .unknownOperator
  | .operatorNotString _ => .operatorNotString
  | .arity _ => .arity
  | .invalidLeaf _ => .invalidLeaf

namespace EvaluationError

def message : EvaluationError → String
  | unknownConcept name => s!"Concept '{name}' not found in ontology"
  | malformedPlan error => s!"Malformed expression: {error.message}"
  | fieldMismatch left right => s!"Field mismatch: {left} vs {right}"
  | unsupportedKinds op left right =>
    s!"Unsupported operand types for {op.token}: {left.tag} and {right.tag}"
  | depthExceeded limit => s!"Maximum expression depth of {limit} exceeded"
  | source error => error.message

def code : EvaluationError → Code
  | unknownConcept _ => .unknownConcept
  | malformedPlan error => error.code
  | fieldMismatch .. => .fieldMismatch
  | unsupportedKinds .. => .unsupportedKinds
  | depthExceeded _ => .depthLimit
  | source error => error.code

/-- An unknown concept is the same error wherever it is noticed. -/
def ofOntologyError : OntologyError → EvaluationError
  | .unknownConcept name => unknownConcept name
  | e => source e

def toReport (e : EvaluationError) : Report :=
  match e with
  | unknownConcept name => .ontology e.code e.message (some name) none
  | malformedPlan error => .expression e.code e.message (some error.path) none
  | source error => error.toReport
  | fieldMismatch .. => .evaluation e.code e.message none
  | unsupportedKinds .. => .evaluation e.code e.message none
  | depthExceeded _ => .evaluation e.code e.message none

end EvaluationError

end Grounding
