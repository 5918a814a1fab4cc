/-! Named entries in the order in which their names first appear. A name that is assigned again
keeps its place and takes the new value. -/

namespace Grounding.Entries

variable {α : Type}

def names (entries : List (String × α)) : List String :=
  entries.map (·.1)

def find? (name : String) : List (String × α) → Option α
  | [] => none
  | (n, v) :: rest => if n = name then some v else find? name rest

def assign (name : String) (value : α) : List (String × α) → List (String × α)
  | [] => [(name, value)]
  | (n, v) :: rest => if n = name then (n, value) :: rest else (n, v) :: assign name value rest

/-- The entries of a list, each repeated name once. -/
def ofList (entries : List (String × α)) : List (String × α) :=
  entries.foldl (fun done entry => assign entry.1 entry.2 done) []

end Grounding.Entries
