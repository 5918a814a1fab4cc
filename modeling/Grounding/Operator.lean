/-! The set operations a plan may apply. -/

namespace Grounding

inductive Operator
  | intersect
  | union
  | difference
  deriving DecidableEq

namespace Operator

def all : List Operator :=
  [intersect, union, difference]

/-- The token of an operator in plans. -/
def token : Operator → String
  | intersect => "INTERSECT"
  | union => "UNION"
  | difference => "DIFFERENCE"

/-- The operator with exactly this token. -/
def ofToken? (text : String) : Option Operator :=
  all.find? (·.token == text)

end Operator

end Grounding
