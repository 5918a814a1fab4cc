/-! Positions in a plan: the indices that lead from the root to a node. -/

namespace Grounding

structure Path where
  indices : List Nat
  deriving DecidableEq

namespace Path

def root : Path :=
  ⟨[]⟩

def child (p : Path) (index : Nat) : Path :=
  ⟨p.indices ++ [index]⟩

/-- Each index after a slash, and a slash alone for the root. -/
def display (p : Path) : String :=
  if p.indices = [] then "/"
  else String.join (p.indices.map fun index => s!"/{index}")

end Path

end Grounding
