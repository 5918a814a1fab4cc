import Grounding.Disk

/-! What a command needs from its surroundings: files, an input, and two channels for text. A
session keeps all of it in memory. -/

namespace Grounding

structure Host (m : Type → Type) where
  readFile : String → m (Except FileError ByteArray)
  writeFile : String → ByteArray → m (Except FileError Unit)
  readInput : m ByteArray
  print : String → m Unit
  printError : String → m Unit

/-- The text that bytes encode. -/
def textOfBytes (bytes : ByteArray) : Except FileError String :=
  match String.fromUTF8? bytes with
  | some text => .ok text
  | none => .error .notText

namespace Host

variable {m : Type → Type} [Monad m]

def readText (host : Host m) (location : String) : m (Except FileError String) := do
  match ← host.readFile location with
  | .ok bytes => pure (textOfBytes bytes)
  | .error e => pure (.error e)

end Host

/-- A disk and what has been written to the two channels. -/
structure Session where
  disk : Disk
  input : ByteArray
  output : String
  errors : String

namespace Session

def start (disk : Disk) (input : ByteArray) : Session :=
  ⟨disk, input, "", ""⟩

def readFile (location : String) : StateM Session (Except FileError ByteArray) := do
  pure ((← get).disk.read location)

def writeFile (location : String) (content : ByteArray) :
    StateM Session (Except FileError Unit) := do
  match (← get).disk.create location content with
  | .ok disk => do
    modify fun s => { s with disk }
    pure (.ok ())
  | .error e => pure (.error e)

def print (text : String) : StateM Session Unit :=
  modify fun s => { s with output := s.output ++ text }

def printError (text : String) : StateM Session Unit :=
  modify fun s => { s with errors := s.errors ++ text }

def host : Host (StateM Session) :=
  ⟨readFile, writeFile, do pure (← get).input, print, printError⟩

end Session

end Grounding
