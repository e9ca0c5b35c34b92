import SchemaPages.Failure
import SchemaPages.Text.LowerCase

/-!
The formats that reports are written in.
-/

namespace SchemaPages.Report

inductive Format where
  | json
  | text
  | pretty
deriving DecidableEq

namespace Format

def default : Format := .pretty

def name : Format → String
  | .json => "json"
  | .text => "text"
  | .pretty => "pretty"

/-- The format with a name, which may be written in any case. -/
def ofText (text : String) : Except Failure Format :=
  match Text.lowerCase text with
  | "json" => .ok .json
  | "text" => .ok .text
  | "pretty" => .ok .pretty
  | _ => .error (.argument (.unknownFormat text))

end Format

end SchemaPages.Report
