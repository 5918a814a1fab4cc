import Grounding.Report

/-! Failures of commands: a cause, and notes on what was being done, the outermost one first. -/

namespace Grounding

inductive Cause
  | report (r : Report)
  | plain (message : String)
  deriving DecidableEq

def Cause.display : Cause → String
  | report r => r.display
  | plain message => message

structure Failure where
  cause : Cause
  notes : List String
  deriving DecidableEq

namespace Failure

def ofReport (r : Report) : Failure :=
  ⟨.report r, []⟩

def ofMessage (message : String) : Failure :=
  ⟨.plain message, []⟩

/-- Adds what was being done around the failure. -/
def note (note : String) (f : Failure) : Failure :=
  ⟨f.cause, note :: f.notes⟩

/-- The notes and the cause, one behind the other. -/
def message (f : Failure) : String :=
  ": ".intercalate (f.notes ++ [f.cause.display])

/-- The outermost note, or else the cause. -/
def headline (f : Failure) : String :=
  f.notes.head?.getD f.cause.display

end Failure

end Grounding
