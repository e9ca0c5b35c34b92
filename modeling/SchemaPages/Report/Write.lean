import SchemaPages.Report.Flat
import SchemaPages.Report.Format
import SchemaPages.Report.Outline

/-!
Writing a report in the format that was asked for.
-/

namespace SchemaPages.Report

/-- The text of a report. Only the format for programs keeps the order of the members. -/
def write (format : Format) (color : Bool) (v : Json.Value) : String :=
  match format with
  | .json => v.pretty
  | .text => flat v
  | .pretty => outline color v

end SchemaPages.Report
