import Grounding.CommandLine

/-! The program on the system it runs on: its files, its channels and its environment. -/

namespace Grounding

/-- An error of the system, described by its name and its number. -/
def describeSystemError (details : String) (code : UInt32) : String :=
  let number := if code.toNat < 0x80000000 then code.toNat else 0x100000000 - code.toNat
  s!"{details.capitalize} (os error {number})"

def fileErrorOfSystem : IO.Error → FileError
  | .noFileOrDirectory .. => .notFound
  | .inappropriateType _ code details =>
    if details = "is a directory" then .isFolder
    else if details = "not a directory" then .notFolder
    else .other (describeSystemError details code)
  | .permissionDenied _ code details => .other (describeSystemError details code)
  | .invalidArgument _ code details => .other (describeSystemError details code)
  | .resourceExhausted _ code details => .other (describeSystemError details code)
  | .alreadyExists _ code details => .other (describeSystemError details code)
  | .otherError code details => .other (describeSystemError details code)
  | e => .other (toString e)

def systemHost : Host IO where
  readFile location := do
    match ← (IO.FS.readBinFile location).toBaseIO with
    | .ok bytes => pure (.ok bytes)
    | .error e => pure (.error (fileErrorOfSystem e))
  writeFile location content := do
    match ← (IO.FS.writeBinFile location content).toBaseIO with
    | .ok () => pure (.ok ())
    | .error e => pure (.error (fileErrorOfSystem e))
  readInput := do (← IO.getStdin).readBinToEnd
  print text := IO.print text
  printError text := IO.eprint text

end Grounding

/-- Runs the program with its arguments and gives its exit status. -/
def main (arguments : List String) : IO UInt32 := do
  let ontology ← IO.getEnv "LUMIN_ONTOLOGY"
  let terminal ← (← IO.getStdout).isTty
  let status ← Grounding.CommandLine.run Grounding.systemHost ⟨ontology, terminal⟩ arguments
  pure (UInt32.ofNat status)
