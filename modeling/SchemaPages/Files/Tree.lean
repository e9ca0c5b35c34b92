import SchemaPages.Files.Path

/-!
Directories and files below a root. A path is walked name by name, from the root or from the
working directory; each step leaves a directory that must be there. To make a directory or to write
a file puts one node where the path leads, or changes nothing.
-/

namespace SchemaPages.Files

inductive Node where
  | file (content : ByteArray)
  | directory

/-- The names that lead to an entry from the root, the last one first. -/
abbrev Location := List String

/-- The entries below the root, and where the working directory is. -/
structure Tree where
  entries : List (Location × Node) := []
  working : Location := []

/-- What a path leads to: something is there, or it could be put there. -/
inductive Target where
  | there (location : Location)
  | free (location : Location)

namespace Tree

/-- The node at a location. The working directory and those above it are always there. -/
def node? (tree : Tree) (location : Location) : Option Node :=
  if location <:+ tree.working then some .directory else tree.entries.lookup location

def put (tree : Tree) (location : Location) (node : Node) : Tree :=
  { tree with entries := (location, node) :: tree.entries.filter (·.1 ≠ location) }

def files (tree : Tree) : List (Location × ByteArray) :=
  tree.entries.filterMap fun (location, node) =>
    match node with
    | .file content => some (location, content)
    | .directory => none

/-- The longest name that an entry can have, in bytes. -/
def nameLimit : Nat := 255

/-- One step of a walk. The root is above itself. -/
def step (tree : Tree) (location : Location) (name : String) : Except FileError Location :=
  match tree.node? location with
  | none => .error .noEntry
  | some (.file _) => .error .notDirectory
  | some .directory =>
    if name = "." then .ok location
    else if name = ".." then .ok location.tail
    else if nameLimit < name.utf8ByteSize then .error .nameTooLong
    else
      match tree.node? (name :: location) with
      | none => .error .noEntry
      | some _ => .ok (name :: location)

def walk (tree : Tree) (start : Location) (names : List String) : Except FileError Location :=
  names.foldlM tree.step start

def start (tree : Tree) (path : Path) : Location :=
  if path.isAbsolute then [] else tree.working

def find (tree : Tree) (path : Path) : Except FileError Location :=
  match path.refusal? with
  | some error => .error error
  | none => tree.walk (tree.start path) path.names

/-- What a path leads to if its last name need not be there. -/
def target (tree : Tree) (path : Path) : Except FileError Target :=
  match path.refusal? with
  | some error => .error error
  | none =>
    match path.names.reverse with
    | [] => .ok (.there (tree.start path))
    | name :: up =>
      match tree.walk (tree.start path) up.reverse with
      | .error error => .error error
      | .ok location =>
        match tree.step location name with
        | .ok found => .ok (.there found)
        | .error .noEntry => .ok (.free (name :: location))
        | .error error => .error error

def isDirectory (tree : Tree) (path : Path) : Bool :=
  match tree.find path with
  | .error _ => false
  | .ok location =>
    match tree.node? location with
    | some .directory => true
    | _ => false

def readBytes (tree : Tree) (path : Path) : Except FileError ByteArray :=
  match tree.find path with
  | .error error => .error error
  | .ok location =>
    match tree.node? location with
    | some (.file content) => if path.endsInSlash then .error .notDirectory else .ok content
    | _ => .error .isDirectory

def readText (tree : Tree) (path : Path) : Except FileError String :=
  match tree.readBytes path with
  | .error error => .error error
  | .ok content =>
    match String.fromUTF8? content with
    | none => .error .notText
    | some text => .ok text

def makeDirectory (tree : Tree) (path : Path) : Except FileError Tree :=
  match tree.target path with
  | .error error => .error error
  | .ok (.there _) => .error .alreadyExists
  | .ok (.free location) => .ok (tree.put location .directory)

def writeFile (tree : Tree) (path : Path) (content : ByteArray) : Except FileError Tree :=
  match tree.target path with
  | .error error => .error error
  | .ok (.there location) =>
    match tree.node? location with
    | some (.file _) =>
      if path.endsInSlash then .error .isDirectory else .ok (tree.put location (.file content))
    | _ => .error .isDirectory
  | .ok (.free location) =>
    if path.endsInSlash then .error .isDirectory else .ok (tree.put location (.file content))

end Tree

end SchemaPages.Files
