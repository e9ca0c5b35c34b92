import SchemaPages.Html.Markup
import SchemaPages.Introspection.Schema

/-!
What the templates are filled with. A view of a type has every member that any template of a type
asks for; those that its own template does not ask for are empty.
-/

namespace SchemaPages.Html

open Introspection (TypeDef Field InputValue EnumValue Directive)
open Json (Value)

structure FieldView where
  name : String
  description : List String
  arguments : String := ""
  typeHtml : String
  defaultValue : String := ""
  deprecation : String := ""

structure EnumValueView where
  name : String
  description : List String
  deprecation : String

structure TypeView where
  keyword : String := ""
  name : String
  description : List String
  interfaces : List String := []
  fields : List FieldView := []
  members : List String := []
  values : List EnumValueView := []

structure DirectiveView where
  name : String
  description : List String
  arguments : String
  repeatable : Bool
  locations : List String

def texts (items : List String) : Value := .arr (items.map Value.str)

def FieldView.context (view : FieldView) : Value :=
  .obj [
    ("name", .str view.name),
    ("description", texts view.description),
    ("arguments", .str view.arguments),
    ("type_html", .str view.typeHtml),
    ("default_value", .str view.defaultValue),
    ("deprecation", .str view.deprecation)]

def EnumValueView.context (view : EnumValueView) : Value :=
  .obj [
    ("name", .str view.name),
    ("description", texts view.description),
    ("deprecation", .str view.deprecation)]

def TypeView.context (view : TypeView) : Value :=
  .obj [
    ("keyword", .str view.keyword),
    ("name", .str view.name),
    ("description", texts view.description),
    ("interfaces", texts view.interfaces),
    ("fields", .arr (view.fields.map FieldView.context)),
    ("members", texts view.members),
    ("values", .arr (view.values.map EnumValueView.context))]

def DirectiveView.context (view : DirectiveView) : Value :=
  .obj [
    ("name", .str view.name),
    ("description", texts view.description),
    ("arguments", .str view.arguments),
    ("repeatable", .bool view.repeatable),
    ("locations", texts view.locations)]

/-- The view of a type that shows only its name and its description. -/
def TypeView.ofType (type : TypeDef) : TypeView where
  name := type.name
  description := commentLines type.description

def EnumValueView.ofValue (value : EnumValue) : EnumValueView where
  name := value.name
  description := commentLines value.description
  deprecation := Html.deprecation value.isDeprecated value.deprecationReason

def TypeView.ofEnum (type : TypeDef) : TypeView :=
  { TypeView.ofType type with
    values := (type.enumValues.getD []).map EnumValueView.ofValue }

namespace Linker

def outputField (linker : Linker) (field : Field) : FieldView where
  name := field.name
  description := commentLines field.description
  arguments := linker.arguments field.args
  typeHtml := linker.typeRef field.type
  deprecation := Html.deprecation field.isDeprecated field.deprecationReason

def inputField (linker : Linker) (field : InputValue) : FieldView where
  name := field.name
  description := commentLines field.description
  typeHtml := linker.typeRef field.type
  defaultValue := Html.defaultValue field.defaultValue

def fieldsView (linker : Linker) (keyword : String) (type : TypeDef) (fields : List FieldView) :
    TypeView :=
  { TypeView.ofType type with
    keyword := keyword
    interfaces := (type.interfaces.getD []).map linker.typeRef
    fields := fields }

def unionView (linker : Linker) (type : TypeDef) : TypeView :=
  { TypeView.ofType type with members := (type.possibleTypes.getD []).map linker.typeRef }

def directiveView (linker : Linker) (directive : Directive) : DirectiveView where
  name := directive.name
  description := commentLines directive.description
  arguments := linker.arguments directive.args
  repeatable := directive.isRepeatable
  locations := directive.locations

end Linker

end SchemaPages.Html
