import SchemaPages.Proofs.Command.Listing
import SchemaPages.Proofs.Command.Progress
import SchemaPages.Proofs.Introspection.RoundTrip

/-!
How a run ends: with the status of the first stage that fails, or else with its report.
-/

namespace SchemaPages.Command

open Files (Path Tree Work Storage)
open Introspection (Schema)
open Json (Value)
open Options (HostOptions Overrides)
open Report (Format)

/-! ### The report of a request -/

section Request

variable (line : Line) (tree : Tree)

end Request

/-! ### The whole run -/

/-- The text is a report on the request in the format that the line names. -/
def Line.Writes (line : Line) (color : Bool) (tree : Tree) (text : String) : Prop :=
  ∃ (format : Format) (report : Value), Text.lowerCase line.format = format.name ∧
    Reports tree line.request report ∧ text = Report.write format color report

/-- The outcome is that of a run whose first stage to fail is the given one. -/
def Shows (line : Line) (color : Bool) (tree : Tree) (outcome : Outcome) : Option Stage → Prop
  | some stage => outcome.status.code = stage.code ∧ outcome.output = ""
  | none => outcome.status.code = 0 ∧
      ∃ text, line.Writes color tree text ∧ outcome.output = text ++ "\n"

def Line.outcome (line : Line) (color : Bool) (tree : Tree) : Outcome :=
  ((line.run color : StateM Tree Outcome).run tree).1

section Run

variable (line : Line) (color : Bool) (tree : Tree)

end Run

/-- Two files at the root, next to the working directory: a schema, and a list. -/
def served : Tree where
  entries := [
    (["schema.json"], .file clashing.encode.compact.toUTF8),
    (["list.json"], .file (Value.arr []).compact.toUTF8)]
  working := ["home"]

def listed : Line where
  request := .list "./../schema.json"

end SchemaPages.Command
