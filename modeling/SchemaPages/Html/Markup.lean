import SchemaPages.Html.Layout
import SchemaPages.Introspection.Schema
import SchemaPages.Text.Blank
import SchemaPages.Text.Lines
import SchemaPages.Text.LowerCase

/-!
Markup for the parts of a line: type references, arguments, default values and deprecations. It
goes into the templates as it is, so all text of the schema is escaped here. A type is linked to
its page if it is one of the known types.
-/

namespace SchemaPages.Html

open Introspection (TypeRef InputValue)

structure Linker where
  baseUrl : String
  known : List String

namespace Linker

def url (linker : Linker) (name : String) : String :=
  linker.baseUrl ++ Text.lowerCase name ++ ".doc.html"

def named (linker : Linker) (name : String) : String :=
  if linker.known.contains name then
    "<a class=\"support type\" href=\"" ++ escape (linker.url name) ++ "\">" ++ escape name ++
      "</a>"
  else spanOpen "support type" ++ escape name ++ spanClose

def typeRef (linker : Linker) (ref : TypeRef) : String :=
  ref.write linker.named

end Linker

def defaultValue : Option String → String
  | none => ""
  | some value => " = " ++ spanOpen "constant" ++ escape value ++ spanClose

namespace Linker

def argument (linker : Linker) (arg : InputValue) : String :=
  spanOpen "variable parameter" ++ escape arg.name ++ spanClose ++ ": " ++
    linker.typeRef arg.type ++ defaultValue arg.defaultValue

/-- The arguments in parentheses, or nothing if there are none. -/
def arguments (linker : Linker) (args : List InputValue) : String :=
  if args.isEmpty then ""
  else "(" ++ ", ".intercalate (args.map linker.argument) ++ ")"

end Linker

/-- The mark of what is deprecated, with the reason unless that is empty. -/
def deprecation (isDeprecated : Bool) (reason : Option String) : String :=
  if !isDeprecated then ""
  else
    " " ++ spanOpen "keyword operator ts" ++ "@deprecated" ++ spanClose ++
      match reason with
      | none | some "" => ""
      | some reason =>
        "(reason: " ++ spanOpen "string" ++ "\"" ++ escape reason ++ "\"" ++ spanClose ++ ")"

/-- The lines of a description, without blanks around it or at the end of a line. -/
def commentLines : Option String → List String
  | none => []
  | some description =>
    (Text.lines (Text.trim description.toList)).map fun line =>
      String.ofList (Text.trimEnd line)

end SchemaPages.Html
