import SchemaPages.Command.Trouble
import SchemaPages.Files.Storage
import SchemaPages.Introspection.Load
import SchemaPages.Options.Plugin
import SchemaPages.Toml.Reader

/-!
Loading what a command works on: the schema, and the options of the host from a configuration file
together with what the command line sets over them.
-/

namespace SchemaPages.Command

open Files (Path Storage)
open Introspection (Schema)
open Options (HostOptions Overrides)

def parseSchema (path : Path) (text : String) : Except Trouble Schema :=
  Trouble.attempt (.parseSchema path) (Schema.ofText text)

/-- The value that a configuration text holds. The extension of the file tells how it is written. -/
def parseConfig (path : Path) (text : String) : Except Trouble Json.Value :=
  if path.extension? = some "toml" then
    match Toml.read text with
    | some v => .ok v
    | none => .error (.ofFailure (.argument (.badConfigToml path)))
  else
    match Json.read text with
    | .ok v => .ok v
    | .error error => .error (.ofFailure (.argument (.badConfigJson path error)))

def parseHostOptions (path : Path) (text : String) : Except Trouble HostOptions := do
  Trouble.attempt (.takeHostOptions path) (HostOptions.ofJson (← parseConfig path text))

variable {m : Type → Type} [Monad m] [Storage m]

def readFor (task : Task) (path : Path) : ExceptT Trouble m String :=
  ExceptT.adapt (fun error => ⟨[task], .file error⟩) (Storage.readText path)

def loadSchema (path : Path) : ExceptT Trouble m Schema := do
  MonadExcept.ofExcept (parseSchema path (← readFor (.readSchema path) path))

def loadHostOptions : Option Path → ExceptT Trouble m HostOptions
  | none => pure {}
  | some path => do
    MonadExcept.ofExcept (parseHostOptions path (← readFor (.readConfig path) path))

/-- The options in a configuration file with what the command line sets over them. -/
def resolveHostOptions (config : Option Path) (overrides : Overrides) :
    ExceptT Trouble m HostOptions :=
  overrides.apply <$> loadHostOptions config

end SchemaPages.Command
