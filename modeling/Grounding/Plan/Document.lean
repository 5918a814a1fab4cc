import Grounding.Json
import Grounding.Path
import Grounding.Plan

/-! Plans as documents: a string is the name of a concept, and an array of three elements is an
operator with its operands. What is wrong with any other value is reported with its position. -/

namespace Grounding

/-- What is wrong with the value at a position. -/
inductive ShapeFault
  | unknownOperator (token : String)
  | operatorNotString (found : Json.Kind)
  | arity (length : Nat)
  | invalidLeaf (found : Json.Kind)
  deriving DecidableEq

structure ShapeError where
  fault : ShapeFault
  path : Path
  deriving DecidableEq

def Json.Kind.description : Json.Kind → String
  | .null => "null"
  | .boolean => "a boolean"
  | .number => "a number"
  | .string => "a string"
  | .array => "an array"
  | .object => "an object"

def ShapeFault.message : ShapeFault → String
  | .unknownOperator token => s!"unknown operator '{token}'"
  | .operatorNotString found => s!"operator must be a string, found {found.description}"
  | .arity length => s!"operator application has {length} elements, expected 3"
  | .invalidLeaf found =>
    s!"expected a concept name or an operator application, found {found.description}"

def ShapeError.message (e : ShapeError) : String :=
  s!"{e.fault.message} at {e.path.display}"

namespace Plan

/-- The operator at the head of an application. -/
def operatorOf (path : Path) : Json → Except ShapeError Operator
  | .string token =>
    match Operator.ofToken? token with
    | some op => .ok op
    | none => .error ⟨.unknownOperator token, path.child 0⟩
  | v => .error ⟨.operatorNotString v.kind, path.child 0⟩

/-- The plan at a position. The node is checked before its operator, and the operator before the
operands from left to right. -/
def ofJsonAt (path : Path) : Json → Except ShapeError Plan
  | .string name => .ok (.concept name)
  | .array [op, left, right] => do
    let op ← operatorOf path op
    let left ← ofJsonAt (path.child 1) left
    let right ← ofJsonAt (path.child 2) right
    .ok (.apply op left right)
  | .array items => .error ⟨.arity items.length, path⟩
  | v => .error ⟨.invalidLeaf v.kind, path⟩
termination_by structural v => v

def ofJson (v : Json) : Except ShapeError Plan :=
  ofJsonAt .root v

def toJson : Plan → Json
  | concept name => .string name
  | apply op left right => .array [.string op.token, left.toJson, right.toJson]

end Plan

end Grounding
