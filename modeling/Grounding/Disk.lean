/-! Files and folders, the places that locations written with slashes lead to, and what goes wrong
on the way. -/

namespace Grounding

inductive FileError
  | notFound
  | isFolder
  | notFolder
  | notText
  /-- An error that only the system can name. -/
  | other (text : String)
  deriving DecidableEq

def FileError.message : FileError → String
  | notFound => "No such file or directory (os error 2)"
  | isFolder => "Is a directory (os error 21)"
  | notFolder => "Not a directory (os error 20)"
  | notText => "stream did not contain valid UTF-8"
  | other text => text

namespace Location

/-- The names in a location, with an empty one on either side of a slash that stands alone. -/
def steps (location : String) : List String :=
  (location.toList.splitOn '/').map String.ofList

/-- The name a location ends in, unless it is a folder seen from inside. -/
def fileName? (location : String) : Option String :=
  match ((steps location).filter fun step => step ≠ "" ∧ step ≠ ".").getLast? with
  | some ".." => none
  | name? => name?

/-- What follows the last dot of the name; a dot at the start of a name divides nothing. -/
def extension? (location : String) : Option String :=
  match fileName? location with
  | none => none
  | some name =>
    let reversed := name.toList.reverse
    match reversed.dropWhile (· ≠ '.') with
    | [] | [_] => none
    | _ => some (String.ofList (reversed.takeWhile (· ≠ '.')).reverse)

end Location

inductive Node
  | file (content : ByteArray)
  | folder

/-- Files and folders by the names that lead to them from the root, and the folder in which a
command works. -/
structure Disk where
  nodes : List (List String × Node)
  current : List String

namespace Disk

/-- A command works in a folder without files. -/
def empty : Disk :=
  ⟨[(["work"], .folder)], ["work"]⟩

/-- The root is always there. -/
def node? (disk : Disk) (path : List String) : Option Node :=
  if path = [] then some .folder
  else (disk.nodes.find? (·.1 == path)).map (·.2)

/-- The content of the file with exactly this path. -/
def content? (disk : Disk) (path : List String) : Option ByteArray :=
  match disk.node? path with
  | some (.file content) => some content
  | _ => none

def putNode (path : List String) (node : Node) :
    List (List String × Node) → List (List String × Node)
  | [] => [(path, node)]
  | (p, n) :: rest => if p = path then (p, node) :: rest else (p, n) :: putNode path node rest

def put (disk : Disk) (path : List String) (node : Node) : Disk :=
  { disk with nodes := putNode path node disk.nodes }

/-- Puts a node, below the folder in which a command works, and the folders above it. -/
def install (disk : Disk) (path : List String) (node : Node) : Disk :=
  let path := disk.current ++ path
  let folders := (List.range path.length).map path.take
  (folders.foldl (fun d folder => if (d.node? folder).isSome then d else d.put folder .folder)
    disk).put path node

def isFolder (disk : Disk) (path : List String) : Bool :=
  match disk.node? path with
  | some .folder => true
  | _ => false

/-- One step of a location, which only a folder can take. Nothing is above the root, so that a step
up from there stays. -/
def step (disk : Disk) (path : List String) (name : String) : Except FileError (List String) :=
  if disk.isFolder path = false then .error .notFolder
  else if name = "" ∨ name = "." then .ok path
  else if name = ".." then .ok path.dropLast
  else if (disk.node? (path ++ [name])).isSome then .ok (path ++ [name])
  else .error .notFound

/-- Where a location starts, and its steps. One with a slash in front starts at the root. -/
def start (disk : Disk) (location : String) : Except FileError (List String × List String) :=
  match Location.steps location with
  | [""] => .error .notFound
  | "" :: steps => .ok ([], steps)
  | steps => .ok (disk.current, steps)

def walk (disk : Disk) (path : List String) : List String → Except FileError (List String)
  | [] => .ok path
  | name :: rest =>
    match disk.step path name with
    | .ok path => disk.walk path rest
    | .error e => .error e

def read (disk : Disk) (location : String) : Except FileError ByteArray := do
  let (path, steps) ← disk.start location
  match disk.node? (← disk.walk path steps) with
  | some (.file content) => .ok content
  | _ => .error .isFolder

/-- Gives a file its content, and creates it if its folder is there. -/
def create (disk : Disk) (location : String) (content : ByteArray) : Except FileError Disk := do
  let (path, steps) ← disk.start location
  let named := (steps.reverse.dropWhile (· == "")).reverse
  match named.getLast? with
  | none => .error .isFolder
  | some name =>
    let folder ← disk.walk path named.dropLast
    if disk.isFolder folder = false then .error .notFolder
    else if name = "." ∨ name = ".." ∨ named.length < steps.length then .error .isFolder
    else
      match disk.node? (folder ++ [name]) with
      | some .folder => .error .isFolder
      | _ => .ok (disk.put (folder ++ [name]) (.file content))

end Disk

end Grounding
