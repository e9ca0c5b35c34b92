import SchemaPages.Command.Line
import SchemaPages.Command.Load
import SchemaPages.Command.Reports
import SchemaPages.Report.Write

/-!
Running a command: its format is looked at first, then what it works on is loaded, then its report
is made and written. What goes wrong is told instead of the report.
-/

namespace SchemaPages.Command

open Files (Storage)
open Json (Value)
open Report (Format)

variable {m : Type → Type} [Monad m] [Storage m]

def Request.report : Request → ExceptT Trouble m Value
  | .list schema => do
    let entities ← MonadExcept.ofExcept (listEntities (← loadSchema schema))
    return entities.encode
  | .render schema names config overrides => do
    let schema ← loadSchema schema
    let host ← resolveHostOptions config overrides
    let rendered ← MonadExcept.ofExcept (renderNames schema host names)
    return Report.encodeRendered rendered
  | .assets schema config noAssets out => do
    let schema ← loadSchema schema
    let host ← resolveHostOptions config ⟨none, noAssets⟩
    let report ← collectAssets schema host out
    return report.encode

def Line.format? (line : Line) : Except Trouble Format :=
  (Format.ofText line.format).mapError Trouble.ofFailure

def Line.text (line : Line) (color : Bool) : ExceptT Trouble m String := do
  let format ← MonadExcept.ofExcept line.format?
  return Report.write format color (← line.request.report)

/-- What a run leaves: a status, and a text for each of the streams of the program. -/
structure Outcome where
  status : ExitStatus
  output : String := ""
  complaint : String := ""
deriving DecidableEq

def Outcome.ofResult : Except Trouble String → Outcome
  | .ok text => { status := .success, output := text ++ "\n" }
  | .error trouble => {
      status := ExitStatus.ofTrouble trouble
      complaint := "error: " ++ trouble.message ++ "\n" }

def Line.run (line : Line) (color : Bool) : m Outcome :=
  Outcome.ofResult <$> (line.text color).run

end SchemaPages.Command
