import SchemaPages.Json.Value

/-!
Tables under construction. What may still be added to a table depends on how it came to be: a
header may open a table that was only passed through on the way to another one, and a key with
dots may go on in a table that such a key began; a value is closed once it has been assigned.
-/

namespace SchemaPages.Toml

open Json (Value)

inductive Origin where
  /-- Passed through by a header. -/
  | passed
  /-- Begun by a key with dots. -/
  | dotted
  /-- Opened by a header of its own. -/
  | opened
deriving DecidableEq

inductive Item where
  | value (v : Value)
  | table (origin : Origin) (entries : List (String × Item))
  /-- A list of tables, to the last of which is added. -/
  | tables (earlier : List Value) (latest : List (String × Item))

abbrev Entries := Keyed Item

mutual

def Item.toJson : Item → Value
  | .value v => v
  | .table _ entries => .obj (jsonEntries entries)
  | .tables earlier latest => .arr (earlier ++ [.obj (jsonEntries latest)])

def jsonEntries : List (String × Item) → Json.Members
  | [] => []
  | (key, item) :: rest => (key, item.toJson) :: jsonEntries rest

end

namespace Entries

/-- Assigns a value to a key with dots. `isOpen` tells whether the table takes a plain key. -/
def assign (isOpen : Bool) (entries : Entries) (v : Value) : List String → Option Entries
  | [] => none
  | [key] =>
    if isOpen && (Keyed.get? key entries).isNone then some (Keyed.insert key (.value v) entries)
    else none
  | key :: more =>
    match Keyed.get? key entries with
    | none => do
      return Keyed.insert key (.table .dotted (← assign true [] v more)) entries
    | some (.table .opened _) => none
    | some (.table origin inner) => do
      let inner ← assign (origin = .dotted) inner v more
      return Keyed.insert key (.table origin inner) entries
    | some (.tables earlier latest) => do
      return Keyed.insert key (.tables earlier (← assign false latest v more)) entries
    | some (.value _) => none

/-- Changes the table that a path leads to. Tables that are missing are passed through. -/
def atPath (change : Entries → Option Entries) (entries : Entries) :
    List String → Option Entries
  | [] => change entries
  | key :: more =>
    match Keyed.get? key entries with
    | none => do
      return Keyed.insert key (.table .passed (← atPath change [] more)) entries
    | some (.table origin inner) => do
      return Keyed.insert key (.table origin (← atPath change inner more)) entries
    | some (.tables earlier latest) => do
      return Keyed.insert key (.tables earlier (← atPath change latest more)) entries
    | some (.value _) => none

def openTable (key : String) (entries : Entries) : Option Entries :=
  match Keyed.get? key entries with
  | none => some (Keyed.insert key (.table .opened []) entries)
  | some (.table .passed inner) => some (Keyed.insert key (.table .opened inner) entries)
  | _ => none

def openElement (key : String) (entries : Entries) : Option Entries :=
  match Keyed.get? key entries with
  | none => some (Keyed.insert key (.tables [] []) entries)
  | some (.tables earlier latest) =>
    some (Keyed.insert key (.tables (earlier ++ [.obj (jsonEntries latest)]) []) entries)
  | _ => none

end Entries

end SchemaPages.Toml
