import Grounding.Command
import Grounding.CommandLine.Arguments

/-! The program: arguments are read, the command is run on a host, and the exit status tells whether
it succeeded (0), failed (1), or could not be understood (2). -/

namespace Grounding

namespace CommandLine

/-- What the surroundings of the program settle. -/
structure Environment where
  /-- The location of the ontology when no argument gives one. -/
  ontology : Option String
  /-- Whether text is written to a terminal. -/
  terminal : Bool

/-- The arguments before and after a command. -/
structure Invocation where
  before : Arguments
  command : Subcommand
  after : Arguments

namespace Invocation

/-- What follows the command prevails. -/
def value? (i : Invocation) (o : Opt) : Option String :=
  (i.after.value? o).or (i.before.value? o)

def has (i : Invocation) (s : Switch) : Bool :=
  i.after.has s || i.before.has s

def defaultPeriod (i : Invocation) : Number :=
  ((i.value? .defaultPeriod).bind readNumber?).getD (.ofInt 24)

def maxDepth (i : Invocation) : Nat :=
  ((i.value? .maxDepth).bind readCount?).getD defaultDepth

def palette (i : Invocation) (terminal : Bool) : Palette :=
  .ofMode ((i.value? .color).getD "auto") terminal

/-- The plan given as a word or in a file; a dash stands for the input. -/
def plan (i : Invocation) : Command.PlanSource :=
  match i.after.words, i.value? .planFile with
  | text :: _, _ => .inline text
  | [], some location => if location = "-" then .input else .file location
  | [], none => .input

end Invocation

def readArguments (arguments : List String) : Except Stop Invocation := do
  let (before, command, after) ← readBefore arguments .none
  if after.words ≠ [] ∧ (after.value? .planFile).isSome then
    .error (.misuse "a plan is given twice")
  else .ok ⟨before, command, after⟩

variable {m : Type → Type} [Monad m]

/-- Runs the command of an invocation. The output format is settled first. -/
def execute (host : Host m) (env : Environment) (i : Invocation) : ExceptT Failure m Unit := do
  let format ← MonadExcept.ofExcept (OutputFormat.ofRequest (i.value? .format))
  let settings : Command.Settings :=
    ⟨i.palette env.terminal, env.ontology, some i.defaultPeriod, i.has .verbose, format,
      i.value? .output⟩
  match i.command with
  | .ground => Command.ground host settings (i.value? .ontology) i.plan i.maxDepth
  | .concepts =>
    Command.concepts host settings (i.value? .ontology)
      (if i.has .namesOnly then some ((i.value? .separator).getD ", ") else none)
  | .validate =>
    Command.validate host settings.palette settings.defaultPeriod (i.has .strict) settings.verbose
      i.after.words

def usage : String :=
  "Usage: lumin [OPTIONS] <ground|concepts|validate>\n"

/-- Runs the program and gives its exit status. -/
def run (host : Host m) (env : Environment) (arguments : List String) : m Nat := do
  match readArguments arguments with
  | .error .version => do
    host.print "lumin 0.1.0\n"
    pure 0
  | .error .help => do
    host.print usage
    pure 0
  | .error (.misuse reason) => do
    host.printError s!"error: {reason}\n\n{usage}"
    pure 2
  | .ok i => do
    match ← (execute host env i).run with
    | .ok () => pure 0
    | .error f => do
      host.printError ((i.palette env.terminal).failure f ++ "\n")
      pure 1

end CommandLine

end Grounding
