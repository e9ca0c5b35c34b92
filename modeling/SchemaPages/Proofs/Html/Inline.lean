import SchemaPages.Html.Layout

/-!
Markup as a tree. A tree can only hold spans of the known styles, links, schema text, which is
escaped where it is written, and punctuation, which is free of everything that would have to be
escaped. `write` gives the markup, `content` what a reader sees of it, and `linked` the names that
can be followed from it.
-/

namespace SchemaPages.Html

/-- What a span shows. -/
inductive Style where
  | comment
  | keyword
  | identifier
  | indented
  | member
  | literal
  | constant
  | parameter
  | typeName
deriving DecidableEq

def Style.text : Style → String
  | .comment => "comment line"
  | .keyword => "keyword operator ts"
  | .identifier => "identifier"
  | .indented => "tab"
  | .member => "meta"
  | .literal => "string"
  | .constant => "constant"
  | .parameter => "variable parameter"
  | .typeName => "support type"

/-- No character of the text belongs to markup. -/
def IsPlain (text : String) : Prop :=
  ∀ c ∈ text.toList, c ≠ '<' ∧ c ≠ '>' ∧ c ≠ '&'

instance (text : String) : Decidable (IsPlain text) :=
  List.decidableBAll (fun c => c ≠ '<' ∧ c ≠ '>' ∧ c ≠ '&') text.toList

inductive Inline where
  | empty
  /-- Punctuation, written as it is. -/
  | plain (text : String) (isPlain : IsPlain text)
  /-- Text of the schema. -/
  | text (text : String)
  | span (style : Style) (body : Inline)
  /-- The name of a type, linked to its page. -/
  | link (address name : String)
  | append (first second : Inline)

/-- The tag that opens the link to a type. -/
def linkOpen (address : String) : String :=
  "<a class=\"support type\" href=\"" ++ escape address ++ "\">"

def linkClose : String := "</a>"

namespace Inline

instance : Append Inline := ⟨append⟩

def write : Inline → String
  | .empty => ""
  | .plain mark _ => mark
  | .text words => escape words
  | .span style body => spanOpen style.text ++ body.write ++ spanClose
  | .link address name => linkOpen address ++ escape name ++ linkClose
  | .append first second => first.write ++ second.write

def content : Inline → String
  | .empty => ""
  | .plain mark _ => mark
  | .text words => words
  | .span _ body => body.content
  | .link _ name => name
  | .append first second => first.content ++ second.content

def linked : Inline → List String
  | .empty | .plain _ _ | .text _ => []
  | .span _ body => body.linked
  | .link _ name => [name]
  | .append first second => first.linked ++ second.linked

@[simp] theorem write_append (first second : Inline) :
    (first ++ second).write = first.write ++ second.write := rfl

@[simp] theorem content_append (first second : Inline) :
    (first ++ second).content = first.content ++ second.content := rfl

@[simp] theorem linked_append (first second : Inline) :
    (first ++ second).linked = first.linked ++ second.linked := rfl

def mark (sign : String) (isPlain : IsPlain sign := by decide) : Inline := .plain sign isPlain

@[simp] theorem write_mark (sign : String) (h : IsPlain sign) : (mark sign h).write = sign := rfl

@[simp] theorem content_mark (sign : String) (h : IsPlain sign) : (mark sign h).content = sign :=
  rfl

@[simp] theorem linked_mark (sign : String) (h : IsPlain sign) : (mark sign h).linked = [] := rfl

def space : Inline := mark " "

@[simp] theorem write_space : space.write = " " := rfl

@[simp] theorem content_space : space.content = " " := rfl

@[simp] theorem linked_space : space.linked = [] := rfl

def word (letters : String) (isPlain : IsPlain letters := by decide) : Inline :=
  .span .keyword (mark letters isPlain)

def between (sign : Inline) : Inline := space ++ .span .keyword sign ++ space

theorem linked_between (sign : Inline) : (between sign).linked = sign.linked := by
  simp [between, linked]

def joined (separator : Inline) : List Inline → Inline
  | [] => .empty
  | element :: rest =>
    element ++ (if rest.isEmpty then .empty else separator) ++ joined separator rest

/-- Whatever is read off markup part by part is read off joined elements one by one. -/
theorem map_joined {f : Inline → String} (hempty : f .empty = "")
    (happend : ∀ first second : Inline, f (first ++ second) = f first ++ f second)
    (separator : Inline) (elements : List Inline) :
    f (joined separator elements) = (f separator).intercalate (elements.map f) := by
  induction elements with
  | nil => simpa [joined] using hempty
  | cons element rest ih =>
      rw [joined, happend, happend, ih]
      cases rest with
      | nil => simp [hempty]
      | cons other rest =>
          simp [String.intercalate_cons_cons]

theorem write_joined (separator : Inline) (elements : List Inline) :
    (joined separator elements).write = separator.write.intercalate (elements.map write) :=
  map_joined rfl write_append separator elements

theorem content_joined (separator : Inline) (elements : List Inline) :
    (joined separator elements).content =
      separator.content.intercalate (elements.map content) :=
  map_joined rfl content_append separator elements

theorem linked_joined {separator : Inline} (hseparator : separator.linked = [])
    (elements : List Inline) : (joined separator elements).linked = elements.flatMap linked := by
  induction elements with
  | nil => rfl
  | cons element rest ih =>
      have hbetween : (if rest.isEmpty then Inline.empty else separator).linked = [] := by
        split
        · rfl
        · exact hseparator
      rw [joined, linked_append, linked_append, hbetween, List.append_nil, ih,
        List.flatMap_cons]

end Inline

def writeLine (line : Inline) : String := "<li>" ++ line.write ++ "</li>\n"

def writeLines (lines : List Inline) : String := String.join (lines.map writeLine)

theorem writeLines_cons (line : Inline) (lines : List Inline) :
    writeLines (line :: lines) = writeLine line ++ writeLines lines := by
  simp [writeLines]

theorem writeLines_append (lines rest : List Inline) :
    writeLines (lines ++ rest) = writeLines lines ++ writeLines rest := by
  simp [writeLines]

end SchemaPages.Html
