import Grounding.Evaluation
import Grounding.Host
import Grounding.Output.Format

/-! The commands: grounding a plan, listing the concepts of an ontology, and validating ontologies.
A command writes a file only after all else has succeeded. -/

namespace Grounding

variable {m : Type → Type} [Monad m]

/-- The location of the ontology: the one that is asked for, or else a setting that is not empty. -/
def ontologyLocation (explicit? setting? : Option String) : Except Failure String :=
  match explicit?, setting? with
  | some location, _ => .ok location
  | none, some location =>
    if location = "" then .error noOntology else .ok location
  | none, none => .error noOntology
where
  noOntology : Failure :=
    .ofReport (.system .configuration
      "No ontology given; pass --ontology <file> or set LUMIN_ONTOLOGY" none)

namespace Ontology

/-- The ontology in a file with any name. -/
def ofFile (host : Host m) (default? : Option Number) (location : String) :
    m (Except OntologyError Ontology) := do
  match ← host.readText location with
  | .ok text => pure (ofText default? text)
  | .error e => pure (.error (.unreadable (.file location e)))

/-- The ontology at a location, whose name has to end in `.json`. -/
def ofLocation (host : Host m) (default? : Option Number) (location : String) :
    m (Except OntologyError Ontology) :=
  match Location.extension? location with
  | some "json" => ofFile host default? location
  | extension? => pure (.error (.unsupportedFormat (.extension extension?)))

end Ontology

namespace Command

def loadOntology (host : Host m) (default? : Option Number) (location : String) :
    ExceptT Failure m Ontology := do
  match ← ExceptT.lift (Ontology.ofLocation host default? location) with
  | .ok o => pure o
  | .error e => throw ((Failure.ofReport e.toReport).note s!"Failed to load ontology {location}")

/-- Where a plan comes from. -/
inductive PlanSource
  | inline (text : String)
  | file (location : String)
  | input

def planOfText (text : String) : Except Failure Json :=
  match Json.read Json.deepestNesting text with
  | .ok v => .ok v
  | .error fault =>
    .error (.ofReport (.expression .planDocument
      s!"Plan is not valid JSON: {fault.message}" none none))

def readPlan (host : Host m) (plan : PlanSource) : ExceptT Failure m Json := do
  let text ←
    match plan with
    | .inline text => pure text
    | .file location =>
      match ← host.readText location with
      | .ok text => pure text
      | .error e =>
        throw ((Failure.ofMessage e.message).note s!"Failed to read plan file: {location}")
    | .input =>
      match textOfBytes (← host.readInput) with
      | .ok text => pure text
      | .error e =>
        throw ((Failure.ofMessage e.message).note "Failed to read plan from stdin")
  MonadExcept.ofExcept (planOfText text)

/-- Prints a text with a line end, or makes it the content of a file. -/
def deliver (host : Host m) (palette : Palette) (output? : Option String) (text : String) :
    ExceptT Failure m Unit := do
  match output? with
  | none => host.print (text ++ "\n")
  | some location =>
    match ← host.writeFile location text.toUTF8 with
    | .ok () => host.printError (palette.success s!"Output written to {location}" ++ "\n")
    | .error e =>
      throw ((Failure.ofMessage e.message).note s!"Failed to create output file: {location}")

/-- What the commands that print a result have in common. -/
structure Settings where
  palette : Palette
  /-- The location of the ontology when none is asked for. -/
  ontology : Option String
  defaultPeriod : Option Number
  verbose : Bool
  format : OutputFormat
  output : Option String

/-- Grounds a plan and delivers the concept. -/
def ground (host : Host m) (settings : Settings) (ontology? : Option String) (plan : PlanSource)
    (limit : Nat) : ExceptT Failure m Unit := do
  let location ← MonadExcept.ofExcept (ontologyLocation ontology? settings.ontology)
  let o ← loadOntology host settings.defaultPeriod location
  if settings.verbose then
    host.printError s!"Loaded {o.size} concepts from {location}\n"
  let v ← readPlan host plan
  match groundJson limit o.toSource v with
  | .ok c => deliver host settings.palette settings.output (settings.format.render c.toJson)
  | .error e => throw (.ofReport e.toReport)

/-- Lists the concepts of an ontology, or only their names in one text. -/
def concepts (host : Host m) (settings : Settings) (ontology? : Option String)
    (separator? : Option String) : ExceptT Failure m Unit := do
  let location ← MonadExcept.ofExcept (ontologyLocation ontology? settings.ontology)
  let o ← loadOntology host settings.defaultPeriod location
  let text :=
    match separator? with
    | some separator => o.vocabulary separator
    | none => o.renderListing settings.format
  deliver host settings.palette settings.output text

/-- What validating one file has found. -/
structure Findings where
  location : String
  concepts : Nat
  errors : List Failure
  warnings : List Diagnostic

namespace Findings

def isSuccess (f : Findings) : Bool :=
  f.errors.isEmpty

def defaultedWarning (name : String) : Diagnostic :=
  ⟨.warning, .missingPeriod,
    s!"Concept '{name}' has no range_max and uses the default period", none, none⟩

/-- The lines about one file. -/
def summary (palette : Palette) (verbose : Bool) (f : Findings) : String :=
  let head :=
    if f.isSuccess then
      palette.paint .boldGreen "✓" ++ s!" {f.location} ({f.concepts} concepts)\n"
    else palette.paint .boldRed "✗" ++ s!" {f.location}\n"
  let errors := f.errors.map fun e => s!"  {palette.failure e}\n"
  let warnings :=
    if verbose || !f.isSuccess then
      f.warnings.map fun w =>
        "  " ++ palette.warning s!"{w.code.display} - {w.message}" ++ "\n"
    else if f.warnings.isEmpty then []
    else [s!"  {f.warnings.length} warning(s), use --verbose to show\n"]
  head ++ String.join errors ++ String.join warnings

end Findings

/-- Loads one file. A strict validation loads it without a default period. -/
def inspect (host : Host m) (default? : Option Number) (strict : Bool) (location : String) :
    m Findings := do
  match ← (loadOntology host (if strict then none else default?) location).run with
  | .ok o => pure ⟨location, o.size, [], o.defaulted.map Findings.defaultedWarning⟩
  | .error e => pure ⟨location, 0, [e], []⟩

/-- Validates files and prints what was found in each of them, then the totals. -/
def validate (host : Host m) (palette : Palette) (default? : Option Number) (strict verbose : Bool)
    (locations : List String) : ExceptT Failure m Unit := do
  if locations.isEmpty then
    throw (.ofMessage "No files specified for validation")
  let all ← locations.mapM fun location => ExceptT.lift (inspect host default? strict location)
  host.print (String.join (all.map (Findings.summary palette verbose)) ++ "\n")
  let errors := (all.flatMap (·.errors)).length
  let warnings := (all.flatMap (·.warnings)).length
  if errors = 0 ∧ warnings = 0 then
    host.print (palette.success s!"All {all.length} file(s) valid" ++ "\n")
  else
    host.print (s!"Found {palette.paint .red (toString errors)} error(s) and " ++
      s!"{palette.paint .yellow (toString warnings)} warning(s) in {all.length} file(s)\n")
  if 0 < errors then throw (.ofMessage "Validation failed")

end Command

end Grounding
