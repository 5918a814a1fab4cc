import Grounding.Algebra

/-! Grounding of plans: names are looked up in a source and operators are applied to what their
operands give, from left to right and up to a depth. -/

namespace Grounding

/-- The depth up to which plans are grounded unless another one is asked for. -/
def defaultDepth : Nat := 64

namespace Plan

/-- Grounds a plan that stands at a depth. The first error ends the evaluation. -/
def groundAt (limit : Nat) (source : Source) (depth : Nat) :
    Plan → Except EvaluationError Concept
  | concept name =>
    if limit < depth then .error (.depthExceeded limit)
    else (source.lookup name).mapError .ofOntologyError
  | apply op left right =>
    if limit < depth then .error (.depthExceeded limit)
    else do
      let left ← left.groundAt limit source (depth + 1)
      let right ← right.groundAt limit source (depth + 1)
      op.apply left right

/-- Grounds a plan whose root is at depth one. -/
def ground (limit : Nat) (source : Source) (plan : Plan) : Except EvaluationError Concept :=
  plan.groundAt limit source 1

end Plan

/-- Grounds a plan that is given as a document. -/
def groundJson (limit : Nat) (source : Source) (v : Json) : Except EvaluationError Concept := do
  let plan ← (Plan.ofJson v).mapError .malformedPlan
  plan.ground limit source

end Grounding
