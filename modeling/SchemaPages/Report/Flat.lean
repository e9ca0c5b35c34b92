import SchemaPages.Json.Printer

/-!
Reports as lines of text: one line for every scalar, after the path that leads to it. A path names
a member after a dot and an item by its index in brackets.
-/

namespace SchemaPages.Report

open Json (Value)

/-- A scalar as it stands in a line: a string without its quotes. -/
def bareText : Value → String
  | .str s => s
  | v => v.scalarText

/-- The line for a scalar. The path of a report that is itself a scalar is empty and left out. -/
def leafLine (path : String) (v : Value) : String :=
  if path = "" then bareText v else path ++ ": " ++ bareText v

def memberPath (path key : String) : String :=
  if path = "" then key else path ++ "." ++ key

def itemPath (path : String) (index : Nat) : String :=
  path ++ "[" ++ toString index ++ "]"

mutual

def flatten (path : String) : Value → List String
  | .obj members => flattenMembers path members
  | .arr items => flattenItems path 0 items
  | v => [leafLine path v]

def flattenMembers (path : String) : List (String × Value) → List String
  | [] => []
  | (key, v) :: rest => flatten (memberPath path key) v ++ flattenMembers path rest

def flattenItems (path : String) (index : Nat) : List Value → List String
  | [] => []
  | v :: rest => flatten (itemPath path index) v ++ flattenItems path (index + 1) rest

end

/-- The lines of a report, members in the order of their keys. -/
def flat (v : Value) : String :=
  "\n".intercalate (flatten "" v.sorted)

end SchemaPages.Report
