import SchemaPages.Json.Printer
import SchemaPages.Report.Style
import SchemaPages.Text.Blank
import SchemaPages.Text.Lines

/-!
Reports as an outline for readers. Every member and every item has a label; a scalar stands beside
its label, and what has lines or parts of its own stands below it, two blanks deeper. White space
at the end of the whole outline is taken off.
-/

namespace SchemaPages.Report

open Json (Value)

def margin (depth : Nat) : List Char := List.replicate (2 * depth) ' '

def paintScalar (color : Bool) : Value → List Char
  | .str s => Style.green.paint color s.toList
  | .bool b => Style.yellow.paint color (Value.bool b).scalarText.toList
  | .num n => Style.cyan.paint color n.text.toList
  | v => Style.dimmed.paint color v.scalarText.toList

def placeholder (color : Bool) (depth : Nat) (text : String) : List Char :=
  margin depth ++ Style.dimmed.paint color text.toList ++ ['\n']

def keyLabel (color : Bool) (key : String) : List Char :=
  Style.bold.paint color key.toList

def itemLabel (color : Bool) : List Char :=
  Style.dimmed.paint color ['-']

def textBlock (color : Bool) (depth : Nat) (s : List Char) : List Char :=
  (Text.lines s).flatMap fun line => margin depth ++ Style.green.paint color line ++ ['\n']

mutual

def outlineValue (color : Bool) (depth : Nat) : Value → List Char
  | .obj members =>
    if members.isEmpty then placeholder color depth "(empty)"
    else outlineMembers color depth members
  | .arr items =>
    if items.isEmpty then placeholder color depth "(none)"
    else outlineItems color depth items
  | v => margin depth ++ paintScalar color v ++ ['\n']

def outlineMembers (color : Bool) (depth : Nat) : List (String × Value) → List Char
  | [] => []
  | (key, v) :: rest =>
    outlineEntry color depth (keyLabel color key) v ++ outlineMembers color depth rest

def outlineItems (color : Bool) (depth : Nat) : List Value → List Char
  | [] => []
  | v :: rest => outlineEntry color depth (itemLabel color) v ++ outlineItems color depth rest

def outlineEntry (color : Bool) (depth : Nat) (label : List Char) : Value → List Char
  | .obj members =>
    margin depth ++ label ++ '\n' ::
      if members.isEmpty then placeholder color (depth + 1) "(empty)"
      else outlineMembers color (depth + 1) members
  | .arr items =>
    margin depth ++ label ++ '\n' ::
      if items.isEmpty then placeholder color (depth + 1) "(none)"
      else outlineItems color (depth + 1) items
  | .str s =>
    if s.toList.contains '\n' then
      margin depth ++ label ++ '\n' :: textBlock color (depth + 1) s.toList
    else margin depth ++ label ++ ' ' :: paintScalar color (.str s) ++ ['\n']
  | v => margin depth ++ label ++ ' ' :: paintScalar color v ++ ['\n']

end

/-- The outline of a report, members in the order of their keys. -/
def outline (color : Bool) (v : Value) : String :=
  String.ofList (Text.trimEnd (outlineValue color 0 v.sorted))

end SchemaPages.Report
