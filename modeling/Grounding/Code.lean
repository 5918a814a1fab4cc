/-! Numbered codes of diagnostics. Numbers below 100 concern plans, those from 100 ontologies, those
from 200 evaluation, and those from 400 the system. -/

namespace Grounding

structure Code where
  number : Nat
  deriving DecidableEq

namespace Code

/-- The number with at least four digits. -/
def display (c : Code) : String :=
  let digits := Nat.toDigits 10 c.number
  "LUM" ++ String.ofList (List.replicate (4 - digits.length) '0' ++ digits)

def description (c : Code) : String :=
  match c.number with
  | 1 => "Malformed expression"
  | 2 => "Unknown operator"
  | 3 => "Invalid operator arity"
  | 4 => "Invalid expression leaf"
  | 5 => "Invalid expression document"
  | 100 => "Unknown concept"
  | 101 => "Unknown concept type"
  | 102 => "Missing concept attribute"
  | 103 => "Invalid concept bounds"
  | 104 => "Missing cyclic period"
  | 105 => "Invalid cyclic period"
  | 106 => "Ontology parse failed"
  | 107 => "Unsupported ontology format"
  | 201 => "Field mismatch"
  | 202 => "Unsupported concept type for operator"
  | 203 => "Recursion limit exceeded"
  | 401 => "I/O error"
  | 402 => "Configuration error"
  | 406 => "Invalid format"
  | _ => "Unknown error"

/-- What helps against every error with this code. -/
def help? (c : Code) : Option String :=
  match c.number with
  | 2 => some "Operators are INTERSECT, UNION and DIFFERENCE"
  | 3 => some "An operator application is exactly [operator, left, right]"
  | 100 => some "Concept names are matched exactly; run `lumin concepts` to list them"
  | 104 => some "Set range_max on the entry or pass --default-period"
  | 201 => some "Only concepts on the same field can be intersected"
  | 402 => some "Pass --ontology <file> or set LUMIN_ONTOLOGY"
  | _ => none

def operatorNotString : Code := ⟨1⟩
def unknownOperator : Code := ⟨2⟩
def arity : Code := ⟨3⟩
def invalidLeaf : Code := ⟨4⟩
def planDocument : Code := ⟨5⟩
def unknownConcept : Code := ⟨100⟩
def unknownType : Code := ⟨101⟩
def missingAttribute : Code := ⟨102⟩
def invalidBounds : Code := ⟨103⟩
def missingPeriod : Code := ⟨104⟩
def invalidPeriod : Code := ⟨105⟩
def ontologyDocument : Code := ⟨106⟩
def ontologyFormat : Code := ⟨107⟩
def fieldMismatch : Code := ⟨201⟩
def unsupportedKinds : Code := ⟨202⟩
def depthLimit : Code := ⟨203⟩
def fileAccess : Code := ⟨401⟩
def configuration : Code := ⟨402⟩
def outputFormat : Code := ⟨406⟩

end Code

end Grounding
