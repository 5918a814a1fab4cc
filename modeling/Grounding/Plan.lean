import Grounding.Operator

/-! Plans: names of concepts, and operators applied to two plans. -/

namespace Grounding

inductive Plan
  | concept (name : String)
  | apply (op : Operator) (left right : Plan)
  deriving DecidableEq

namespace Plan

def display : Plan → String
  | concept name => s!"'{name}'"
  | apply op left right => s!"{op.token}({left.display}, {right.display})"

/-- The number of levels; a name alone has one. -/
def depth : Plan → Nat
  | concept _ => 1
  | apply _ left right => Nat.max left.depth right.depth + 1

/-- The names in a plan, from left to right. -/
def leaves : Plan → List String
  | concept name => [name]
  | apply _ left right => left.leaves ++ right.leaves

end Plan

end Grounding
