import SchemaPages.Command.Trouble
import SchemaPages.Options.Plugin
import SchemaPages.Report.Format

/-!
What a command line says once it has been understood, and why it may not be understood.
-/

namespace SchemaPages.Command

open Files (Path)
open Options (Overrides)

inductive Request where
  /-- Show the names of a schema. -/
  | list (schema : Path)
  /-- Make the documents of names. -/
  | render (schema : Path) (names : List String) (config : Option Path) (overrides : Overrides)
  /-- Show the assets, and write them if there is a directory for them. -/
  | assets (schema : Path) (config : Option Path) (noAssets : Bool) (out : Option Path)
deriving DecidableEq

/-- A command, and the options that go with all of them. The format is a text that may turn out
not to name one. -/
structure Line where
  verbose : Bool := false
  format : String := Report.Format.default.name
  request : Request
deriving DecidableEq

/-- Why a command line ends without a command: it asks for something else, or it is wrong. -/
inductive Stop where
  | helpWanted
  | versionWanted
  /-- There is nothing on the line. -/
  | empty
  | missingCommand
  | unknownCommand
  | missingArgument
  | unknownArgument
  /-- An option or a switch is given twice. -/
  | repeated
  /-- An option has no value, or an empty path. -/
  | badValue
  /-- A switch has a value. -/
  | valueOnSwitch
deriving DecidableEq

def Stop.status : Stop → ExitStatus
  | .helpWanted | .versionWanted => .success
  | _ => .invalidInput

def versionText : String := "schema-docs 0.1.0\n"

end SchemaPages.Command
