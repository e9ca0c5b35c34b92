/-!
Templates: texts with gaps to be filled from a context, and with parts that are repeated or left
out. `source` writes a template in its own notation, where gaps and blocks stand in doubled
braces; the place of a tag in that text is what messages refer to.
-/

namespace SchemaPages.Template

/-- What a gap is filled with: the value in scope, or one of its members. -/
inductive Term where
  | this
  | member (name : String)
deriving DecidableEq

inductive Item where
  /-- Text that stands as it is. -/
  | text (content : String)
  /-- A gap whose filling is escaped. -/
  | escaped (term : Term)
  /-- A gap that is filled with markup. -/
  | raw (term : Term)
  /-- Repeated for every element of a member. -/
  | each (name : String) (body : List Item)
  /-- Left out unless a member holds something. -/
  | whenSet (name : String) (body : List Item)
  /-- Left out for the last element of a repetition. -/
  | unlessLast (body : List Item)

def Term.source : Term → String
  | .this => "this"
  | .member name => name

def opening (words : String) : String := "\x7b\x7b#" ++ words ++ "\x7d\x7d"

def closing (word : String) : String := "\x7b\x7b/" ++ word ++ "\x7d\x7d"

mutual

def Item.source : Item → String
  | .text content => content
  | .escaped term => "\x7b\x7b" ++ term.source ++ "\x7d\x7d"
  | .raw term => "\x7b\x7b\x7b" ++ term.source ++ "\x7d\x7d\x7d"
  | .each name body => opening ("each " ++ name) ++ source body ++ closing "each"
  | .whenSet name body => opening ("if " ++ name) ++ source body ++ closing "if"
  | .unlessLast body => opening "unless @last" ++ source body ++ closing "unless"

def source : List Item → String
  | [] => ""
  | item :: rest => item.source ++ source rest

end

/-- A place in a text, counted from 1. -/
structure Place where
  line : Nat
  column : Nat
deriving DecidableEq

namespace Place

def start : Place := ⟨1, 1⟩

def step (place : Place) (c : Char) : Place :=
  if c = '\n' then ⟨place.line + 1, 1⟩ else ⟨place.line, place.column + 1⟩

def after (place : Place) (text : String) : Place :=
  text.toList.foldl step place

end Place

end SchemaPages.Template
