import SchemaPages.Command.Arguments
import SchemaPages.Command.Run

/-!
The program: it runs a command line on the files of the disk.
-/

namespace SchemaPages.Program

open Command (Stop Outcome)
open Files (FileError Storage)

def usage : String :=
  "\n".intercalate [
    "Usage: schema-docs [OPTIONS] <COMMAND>",
    "",
    "Commands:",
    "  list <SCHEMA>              show the types and directives of a schema",
    "  render <SCHEMA> <NAMES>... render the documents of names",
    "  assets <SCHEMA>            show the page headers and asset files",
    "",
    "Options of every command:",
    "  -v, --verbose              accepted, without effect on what is printed",
    "      --format <FORMAT>      json, text or pretty",
    "  -h, --help                 show this text",
    "",
    "Options of render and assets:",
    "  -c, --config <CONFIG>      file with host options",
    "      --title <TITLE>        title of the documents, for render",
    "      --no-assets            leave out stylesheet headers and assets",
    "  -o, --out <OUT>            directory for the asset files, for assets",
    ""]

def explain : Stop → String
  | .helpWanted | .versionWanted | .empty => ""
  | .missingCommand => "error: a command is missing\n"
  | .unknownCommand => "error: there is no such command\n"
  | .missingArgument => "error: an argument is missing\n"
  | .unknownArgument => "error: an argument is not known here\n"
  | .repeated => "error: an argument is given twice\n"
  | .badValue => "error: an argument has no value\n"
  | .valueOnSwitch => "error: an argument takes no value\n"

/-- The outcome of a command line that leads to no command. -/
def stopped (stop : Stop) : Outcome :=
  match stop with
  | .helpWanted => { status := stop.status, output := usage }
  | .versionWanted => { status := stop.status, output := Command.versionText }
  | _ => { status := stop.status, complaint := explain stop ++ usage }

def onDisk {α : Type} (action : IO α) : ExceptT FileError IO α :=
  ExceptT.mk do
    try
      return .ok (← action)
    catch error =>
      return .error <|
        match error with
        | .noFileOrDirectory .. => .noEntry
        | .alreadyExists .. => .alreadyExists
        | .inappropriateType _ 21 _ => .isDirectory
        | .inappropriateType .. => .notDirectory
        | error => .reported (toString error)

instance : Storage IO where
  readText path := do
    match String.fromUTF8? (← onDisk (IO.FS.readBinFile path)) with
    | some text => return text
    | none => throw .notText
  makeDirectory path := onDisk (IO.FS.createDir path)
  isDirectory path := do
    try (← IO.FS.realPath path).isDir
    catch _ => return false
  write path content := onDisk (IO.FS.writeBinFile path content)

/-- The environment and the terminal decide whether output is coloured. -/
def wantsColor : IO Bool := do
  let forced ← IO.getEnv "CLICOLOR_FORCE"
  let refused ← IO.getEnv "NO_COLOR"
  let allowed ← IO.getEnv "CLICOLOR"
  return Report.wantsColor forced refused allowed (← (← IO.getStdout).isTty)

end SchemaPages.Program

open SchemaPages in
def main (arguments : List String) : IO UInt32 := do
  let outcome ←
    match Command.Line.read arguments with
    | .ok line => line.run (← Program.wantsColor)
    | .error stop => pure (Program.stopped stop)
  IO.print outcome.output
  IO.eprint outcome.complaint
  return outcome.status.code.toUInt32
