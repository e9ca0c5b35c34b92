import SchemaPages.Files.Tree

/-!
What programs do with files, whether these are on a disk or in a tree. A directory is made with
those above it: what was made of them stays if one of them cannot be made.
-/

namespace SchemaPages.Files

class Storage (m : Type → Type) where
  /-- The text of a file. -/
  readText : Path → ExceptT FileError m String
  /-- Makes one directory, where nothing is. -/
  makeDirectory : Path → ExceptT FileError m Unit
  isDirectory : Path → m Bool
  /-- Writes a whole file. -/
  write : Path → ByteArray → ExceptT FileError m Unit

namespace Storage

variable {m : Type → Type} [Monad m] [Storage m]

def ensureDirectory (path : Path) : ExceptT FileError m Unit :=
  tryCatch (makeDirectory path) fun error => do
    let found ← (isDirectory path : m Bool)
    if error = .alreadyExists ∧ found then pure () else throw error

/-- Makes the first of some paths a directory. Only if that cannot be done for want of those above
it, which are the other paths, these are made before. -/
def ensureDirectories : List Path → ExceptT FileError m Unit
  | [] => pure ()
  | path :: above =>
    tryCatch (ensureDirectory path) fun error => do
      if error = .noEntry then
        ensureDirectories above
        ensureDirectory path
      else throw error

def createDirectory (path : Path) : ExceptT FileError m Unit :=
  if path = "" then pure () else ensureDirectories (path :: path.above)

end Storage

abbrev Work (ε : Type) := ExceptT ε (StateM Tree)

namespace Work

def change (result : Tree → Except FileError Tree) : Work FileError Unit := do
  match result (← get) with
  | .ok tree => set tree
  | .error error => throw error

def makeDirectory (path : Path) : Work FileError Unit := change (·.makeDirectory path)

def write (path : Path) (content : ByteArray) : Work FileError Unit :=
  change (·.writeFile path content)

end Work

instance : Storage (StateM Tree) where
  readText path := do MonadExcept.ofExcept ((← get).readText path)
  makeDirectory := Work.makeDirectory
  isDirectory path := do return (← get).isDirectory path
  write := Work.write

def Work.createDirectory (path : Path) : Work FileError Unit := Storage.createDirectory path

end SchemaPages.Files
