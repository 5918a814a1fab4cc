import Grounding.Code
import Grounding.Json
import Grounding.Path

/-! Diagnostics: what is wrong, how badly, where in a plan, and what helps. -/

namespace Grounding

inductive Severity
  | error
  | warning
  deriving DecidableEq

def Severity.display : Severity → String
  | error => "error"
  | warning => "warning"

structure Diagnostic where
  severity : Severity
  code : Code
  message : String
  path : Option Path
  help : Option String
  deriving DecidableEq

namespace Diagnostic

/-- The help of the diagnostic, or else the one for its code. -/
def effectiveHelp? (d : Diagnostic) : Option String :=
  d.help.or d.code.help?

def display (d : Diagnostic) : String :=
  s!"{d.severity.display}: {d.code.display} - {d.message}" ++
    match d.path with
    | some path => " at " ++ path.display
    | none => ""

/-- A diagnostic as a document. -/
def toJson (d : Diagnostic) : Json :=
  .object
    [("severity", .string (match d.severity with | .error => "Error" | .warning => "Warning")),
      ("code", .ofInt d.code.number),
      ("message", .string d.message),
      ("path",
        match d.path with
        | some path => .array (path.indices.map fun (index : Nat) => .ofInt index)
        | none => .null),
      ("help",
        match d.help with
        | some help => .string help
        | none => .null)]

def indexOfJson? : Json → Option Nat
  | .int n => if 0 ≤ n.value then some n.value.toNat else none
  | _ => none

/-- The diagnostic that a document of this form stands for. -/
def ofJson? (v : Json) : Option Diagnostic := do
  let severity ←
    match ← v.member? "severity" with
    | .string "Error" => some Severity.error
    | .string "Warning" => some Severity.warning
    | _ => none
  let number ← indexOfJson? (← v.member? "code")
  let message ←
    match ← v.member? "message" with
    | .string s => some s
    | _ => none
  let path ←
    match v.member? "path" with
    | some (.array items) => do
      let indices ← items.mapM indexOfJson?
      some (some ⟨indices⟩)
    | some .null | none => some none
    | _ => none
  let help ←
    match v.member? "help" with
    | some (.string s) => some (some s)
    | some .null | none => some none
    | _ => none
  some ⟨severity, ⟨number⟩, message, path, help⟩

end Diagnostic

end Grounding
