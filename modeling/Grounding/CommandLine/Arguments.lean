import Grounding.CommandLine.Value

/-! Arguments of the program. Switches stand alone, options take a value, and words are commands or
operands. The options of the program may also follow a command, and what follows the command
prevails. -/

namespace Grounding.CommandLine

inductive Switch
  | verbose
  | namesOnly
  | strict
  | version
  | help
  deriving DecidableEq

inductive Opt
  | format
  | output
  | color
  | defaultPeriod
  | planFile
  | ontology
  | maxDepth
  | separator
  deriving DecidableEq

inductive Subcommand
  | ground
  | concepts
  | validate
  deriving DecidableEq

def Subcommand.ofName? : String → Option Subcommand
  | "ground" => some .ground
  | "concepts" => some .concepts
  | "validate" => some .validate
  | _ => none

/-- Something that is announced by a dash. -/
inductive Mark
  | switch (s : Switch)
  | opt (o : Opt)
  deriving DecidableEq

/-- A long name, perhaps a letter, and what they announce. -/
structure Spelling where
  name : String
  letter : Option Char
  mark : Mark

/-- Understood before and after a command. -/
def common : List Spelling :=
  [⟨"verbose", some 'v', .switch .verbose⟩, ⟨"format", some 'f', .opt .format⟩,
    ⟨"output", some 'o', .opt .output⟩, ⟨"color", none, .opt .color⟩,
    ⟨"default-period", none, .opt .defaultPeriod⟩, ⟨"help", some 'h', .switch .help⟩]

/-- What is understood before a command, or after this one. -/
def spellings : Option Subcommand → List Spelling
  | none => ⟨"version", some 'V', .switch .version⟩ :: common
  | some .ground =>
    [⟨"plan", some 'p', .opt .planFile⟩, ⟨"ontology", some 'O', .opt .ontology⟩,
      ⟨"max-depth", none, .opt .maxDepth⟩] ++ common
  | some .concepts =>
    [⟨"ontology", some 'O', .opt .ontology⟩, ⟨"names-only", some 'n', .switch .namesOnly⟩,
      ⟨"separator", some 's', .opt .separator⟩] ++ common
  | some .validate => ⟨"strict", some 's', .switch .strict⟩ :: common

/-- The number of words a command takes, if there is a bound. -/
def wordBound : Subcommand → Option Nat
  | .ground => some 1
  | .concepts => some 0
  | .validate => none

/-- Whether an option can have a value. Locations are not empty. -/
def accepts : Opt → String → Bool
  | .output, value => value ≠ ""
  | .planFile, value => value ≠ ""
  | .ontology, value => value ≠ ""
  | .defaultPeriod, value => (readNumber? value).isSome
  | .maxDepth, value => (readCount? value).isSome
  | _, _ => true

/-- Why the arguments lead to no command. -/
inductive Stop
  | version
  | help
  | misuse (reason : String)
  deriving DecidableEq

/-- What has been read before a command or after it. -/
structure Arguments where
  switches : List Switch
  values : List (Opt × String)
  words : List String
  deriving DecidableEq

namespace Arguments

def none : Arguments :=
  ⟨[], [], []⟩

def has (a : Arguments) (s : Switch) : Bool :=
  a.switches.contains s

def value? (a : Arguments) (o : Opt) : Option String :=
  (a.values.find? (·.1 == o)).map (·.2)

/-- A switch stands once; those that ask for information end the reading. -/
def addSwitch (a : Arguments) (s : Switch) : Except Stop Arguments :=
  match s with
  | .version => .error .version
  | .help => .error .help
  | s =>
    if a.has s then .error (.misuse "a switch is repeated")
    else .ok { a with switches := s :: a.switches }

/-- An option is given once. -/
def addValue (a : Arguments) (o : Opt) (value : String) : Except Stop Arguments :=
  if accepts o value = false then .error (.misuse s!"invalid value '{value}'")
  else if (a.value? o).isSome then .error (.misuse "an option is repeated")
  else .ok { a with values := (o, value) :: a.values }

def addWord (command : Subcommand) (a : Arguments) (word : String) : Except Stop Arguments :=
  if command = .validate ∧ word = "" then .error (.misuse "a file name is empty")
  else
    match wordBound command with
    | some bound =>
      if bound ≤ a.words.length then .error (.misuse s!"unexpected argument '{word}'")
      else .ok { a with words := a.words ++ [word] }
    | .none => .ok { a with words := a.words ++ [word] }

end Arguments

/-- What has to be read next after an argument. -/
inductive Pending
  | nothing
  | valueOf (o : Opt)

def findName (command? : Option Subcommand) (name : String) : Option Mark :=
  ((spellings command?).find? (·.name == name)).map (·.mark)

def findLetter (command? : Option Subcommand) (letter : Char) : Option Mark :=
  ((spellings command?).find? (·.letter == some letter)).map (·.mark)

/-- An argument that starts with two dashes, after which a value may follow an equals sign. -/
def readLong (command? : Option Subcommand) (body : List Char) (a : Arguments) :
    Except Stop (Arguments × Pending) := do
  let name := String.ofList (body.takeWhile (· ≠ '='))
  let attached? : Option String :=
    match body.dropWhile (· ≠ '=') with
    | _ :: value => some (String.ofList value)
    | [] => none
  match findName command? name, attached? with
  | some (.switch s), none => do
    let a ← a.addSwitch s
    .ok (a, .nothing)
  | some (.switch _), some _ => .error (.misuse s!"'--{name}' takes no value")
  | some (.opt o), some value => do
    let a ← a.addValue o value
    .ok (a, .nothing)
  | some (.opt o), none => .ok (a, .valueOf o)
  | none, _ => .error (.misuse s!"unexpected argument '--{name}'")

/-- The letters after a single dash. The first option among them takes the rest as its value. -/
def readLetters (command? : Option Subcommand) :
    List Char → Arguments → Except Stop (Arguments × Pending)
  | [], a => .ok (a, .nothing)
  | letter :: rest, a =>
    match findLetter command? letter with
    | some (.switch s) => do
      let a ← a.addSwitch s
      readLetters command? rest a
    | some (.opt o) =>
      match rest with
      | [] => .ok (a, .valueOf o)
      | '=' :: value => do
        let a ← a.addValue o (String.ofList value)
        .ok (a, .nothing)
      | value => do
        let a ← a.addValue o (String.ofList value)
        .ok (a, .nothing)
    | none => .error (.misuse s!"unexpected argument '-{letter}'")

/-- An argument that starts with a dash and is more than that. -/
def readDashed (command? : Option Subcommand) (argument : String) (a : Arguments) :
    Option (Except Stop (Arguments × Pending)) :=
  match argument.toList with
  | '-' :: '-' :: body => some (readLong command? body a)
  | '-' :: c :: letters => some (readLetters command? (c :: letters) a)
  | _ => none

def isDashed (argument : String) : Bool :=
  match argument.toList with
  | '-' :: _ :: _ => true
  | _ => false

/-- All that follows is words. -/
def readWords (command : Subcommand) : List String → Arguments → Except Stop Arguments
  | [], a => .ok a
  | word :: rest, a => do
    let a ← a.addWord command word
    readWords command rest a

/-- The arguments after a command. -/
def readAfter (command : Subcommand) : List String → Arguments → Except Stop Arguments
  | [], a => .ok a
  | "--" :: rest, a => readWords command rest a
  | argument :: rest, a =>
    match readDashed (some command) argument a with
    | none => do
      let a ← a.addWord command argument
      readAfter command rest a
    | some (.error stop) => .error stop
    | some (.ok (a, .nothing)) => readAfter command rest a
    | some (.ok (a, .valueOf o)) =>
      match rest with
      | [] => .error (.misuse "a value is missing")
      | value :: rest =>
        if isDashed value then .error (.misuse "a value is missing")
        else do
          let a ← a.addValue o value
          readAfter command rest a

/-- What a request for help leads to. It may name one command, or be about itself. -/
def helpOn : List String → Stop
  | [] => .help
  | [word] =>
    if word = "help" ∨ (Subcommand.ofName? word).isSome then .help
    else .misuse s!"unknown command '{word}'"
  | _ => .misuse "help is given on one command"

/-- The arguments up to a command, the command, and those after it. -/
def readBefore : List String → Arguments → Except Stop (Arguments × Subcommand × Arguments)
  | [], _ => .error (.misuse "a command is missing")
  | argument :: rest, a =>
    if argument = "--" then .error (.misuse "a command is missing")
    else
      match readDashed none argument a with
      | none =>
        match Subcommand.ofName? argument with
        | some command => do
          let after ← readAfter command rest .none
          .ok (a, command, after)
        | none =>
          if argument = "help" then .error (helpOn rest)
          else .error (.misuse s!"unknown command '{argument}'")
      | some (.error stop) => .error stop
      | some (.ok (a, .nothing)) => readBefore rest a
      | some (.ok (a, .valueOf o)) =>
        match rest with
        | [] => .error (.misuse "a value is missing")
        | value :: rest =>
          if isDashed value then .error (.misuse "a value is missing")
          else do
            let a ← a.addValue o value
            readBefore rest a

end Grounding.CommandLine
