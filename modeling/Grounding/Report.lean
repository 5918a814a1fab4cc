import Grounding.Diagnostic

/-! Reports: errors as the command line presents them, with a code and in one of four families.
Only reports on plans have a position, and only those on ontologies name a concept. -/

namespace Grounding

inductive Report
  | expression (code : Code) (message : String) (path : Option Path) (context : Option String)
  | ontology (code : Code) (message : String) (concept : Option String) (context : Option String)
  | evaluation (code : Code) (message : String) (context : Option String)
  | system (code : Code) (message : String) (context : Option String)
  deriving DecidableEq

namespace Report

inductive Family
  | expression
  | ontology
  | evaluation
  | system
  deriving DecidableEq

def family : Report → Family
  | expression .. => .expression
  | ontology .. => .ontology
  | evaluation .. => .evaluation
  | system .. => .system

def code : Report → Code
  | expression code .. => code
  | ontology code .. => code
  | evaluation code .. => code
  | system code .. => code

def message : Report → String
  | expression _ message .. => message
  | ontology _ message .. => message
  | evaluation _ message _ => message
  | system _ message _ => message

def path? : Report → Option Path
  | expression _ _ path _ => path
  | _ => none

def display (r : Report) : String :=
  s!"{r.code.display}: {r.message}"

/-- What the report itself says of its circumstances. -/
def help? : Report → Option String
  | expression _ _ _ context => context
  | ontology _ _ concept context =>
    context.or (concept.map fun name => s!"while reading concept '{name}'")
  | evaluation _ _ context => context
  | system _ _ context => context

def toDiagnostic (r : Report) : Diagnostic :=
  ⟨.error, r.code, r.message, r.path?, r.help?⟩

end Report

end Grounding
