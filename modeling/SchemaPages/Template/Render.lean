import SchemaPages.Html.Escape
import SchemaPages.Json.Printer
import SchemaPages.Template.Syntax

/-!
Filling templates. A gap and a repetition ask for a member of the value in scope, and it is a
fault if that member is not there or cannot be repeated; nothing is looked up further out. A part
that depends on a member is left out, without a fault, if the member is missing.
-/

namespace SchemaPages.Template

open Json (Value)

inductive FaultKind where
  /-- The member is not there, or it is not what a block needs. -/
  | unresolved (name : String)
  /-- A member is asked of a list. -/
  | memberOfList (name : String)
deriving DecidableEq

/-- What is wrong with a context, and the place of the tag that finds it. -/
structure Fault where
  kind : FaultKind
  place : Place
deriving DecidableEq

def FaultKind.message : FaultKind → String
  | .unresolved name => "Failed to access variable in strict mode Some(\"" ++ name ++ "\")"
  | .memberOfList name => "Cannot access array/vector with string index, " ++ name

def Fault.message (fault : Fault) (template : String) : String :=
  "Error rendering \"" ++ template ++ "\"" ++
    s!" line {fault.place.line}, col {fault.place.column}: " ++ fault.kind.message

mutual

/-- A value as the filling of a gap: strings as they are, nothing for null, and only a hint at an
object. -/
def fill : Value → String
  | .null => ""
  | .str s => s
  | .arr items => "[" ++ fillItems items ++ "]"
  | .obj _ => "[object]"
  | v => v.scalarText

def fillItems : List Value → String
  | [] => ""
  | [v] => fill v
  | v :: rest => fill v ++ ", " ++ fillItems rest

end

/-- The value holds something: neither null, false, zero nor empty. Numbers too small for the
full precision count as zero. -/
def isSet : Value → Bool
  | .null => false
  | .bool b => b
  | .num (.int n) => n ≠ 0
  | .num (.binary b) => Number.normalPlace ≤ b.place
  | .str s => s ≠ ""
  | .arr items => !items.isEmpty
  | .obj members => !members.isEmpty

def member? (v : Value) (name : String) : Except FaultKind Value :=
  match v with
  | .obj members =>
    match Keyed.get? name members with
    | some found => .ok found
    | none => .error (.unresolved name)
  | .arr _ => .error (.memberOfList name)
  | _ => .error (.unresolved name)

def Term.value? (scope : Value) : Term → Except FaultKind Value
  | .this => .ok scope
  | .member name => member? scope name

def elements? (scope : Value) (name : String) : Except FaultKind (List Value) :=
  match member? scope name with
  | .ok (.arr items) => .ok items
  | .ok (.obj members) => .ok (members.map (·.2))
  | .ok _ => .error (.unresolved name)
  | .error kind => .error kind

def isSetMember (scope : Value) (name : String) : Bool :=
  match member? scope name with
  | .ok v => isSet v
  | .error _ => false

/-- Appends the texts of what a repetition gives for its elements, telling it which is the
last. -/
def repeatFor {ε : Type} (body : Value → Bool → Except ε String) :
    List Value → Except ε String
  | [] => .ok ""
  | v :: rest => do
    let first ← body v rest.isEmpty
    let others ← repeatFor body rest
    return first ++ others

mutual

/-- Fills one item that starts at `place`, for the value in scope. `last` tells whether it is the
last element of the repetition around it. -/
def renderItem (scope : Value) (last : Bool) (place : Place) : Item → Except Fault String
  | .text content => .ok content
  | .escaped term =>
    match term.value? scope with
    | .ok v => .ok (Html.escape (fill v))
    | .error kind => .error ⟨kind, place⟩
  | .raw term =>
    match term.value? scope with
    | .ok v => .ok (fill v)
    | .error kind => .error ⟨kind, place⟩
  | .each name body =>
    match elements? scope name with
    | .ok items =>
      repeatFor (fun v last => render v last (place.after (opening ("each " ++ name))) body) items
    | .error kind => .error ⟨kind, place⟩
  | .whenSet name body =>
    if isSetMember scope name then
      render scope last (place.after (opening ("if " ++ name))) body
    else .ok ""
  | .unlessLast body =>
    if last then .ok "" else render scope last (place.after (opening "unless @last")) body

def render (scope : Value) (last : Bool) (place : Place) : List Item → Except Fault String
  | [] => .ok ""
  | item :: rest => do
    let first ← renderItem scope last place item
    let others ← render scope last (place.after item.source) rest
    return first ++ others

end

def fillTemplate (template : List Item) (context : Value) : Except Fault String :=
  render context false Place.start template

end SchemaPages.Template
