import SchemaPages.Files.Storage
import SchemaPages.Html.Stylesheet
import SchemaPages.Html.View
import SchemaPages.Options.Context
import SchemaPages.Page.Renderer

/-!
The renderer that writes types and directives as highlighted code of the schema language. It links
to the types of its schema. The stylesheet is an asset once it has been written into a directory.
-/

namespace SchemaPages.Html

open Files (Path Storage)
open Introspection (Schema TypeDef Directive)
open Options (Context)
open Page (Renderer)

structure Builder where
  linker : Linker
  assets : List String := []

def Layout.fill (layout : Layout) (context : Json.Value) : Except Failure String :=
  match Template.fillTemplate layout.template context with
  | .ok fragment => .ok fragment
  | .error fault => .error (.template (.badContext layout.name fault))

namespace Builder

def ofSchema (schema : Schema) (context : Context) : Builder where
  linker := { baseUrl := context.baseUrl, known := schema.types.map TypeDef.name }

def scalar (_ : Builder) (type : TypeDef) : Except Failure String :=
  Layout.scalar.fill (TypeView.ofType type).context

def object (builder : Builder) (type : TypeDef) : Except Failure String :=
  let fields := (type.fields.getD []).map builder.linker.outputField
  Layout.fields.fill (builder.linker.fieldsView "type" type fields).context

def interface (builder : Builder) (type : TypeDef) : Except Failure String :=
  let fields := (type.fields.getD []).map builder.linker.outputField
  Layout.fields.fill (builder.linker.fieldsView "interface" type fields).context

def union (builder : Builder) (type : TypeDef) : Except Failure String :=
  Layout.union.fill (builder.linker.unionView type).context

def enumeration (_ : Builder) (type : TypeDef) : Except Failure String :=
  Layout.enumeration.fill (TypeView.ofEnum type).context

def inputObject (builder : Builder) (type : TypeDef) : Except Failure String :=
  let fields := (type.inputFields.getD []).map builder.linker.inputField
  Layout.fields.fill (builder.linker.fieldsView "input" type fields).context

def directive (builder : Builder) (directive : Directive) : Except Failure String :=
  Layout.directive.fill (builder.linker.directiveView directive).context

def stylesheetHeader (builder : Builder) : String :=
  "<link type=\"text/css\" rel=\"stylesheet\" href=\"" ++
    escape (builder.linker.baseUrl ++ "assets/" ++ stylesheetName) ++ "\" />"

def headers (builder : Builder) : List String :=
  [fontHeader, builder.stylesheetHeader]

def renderer (builder : Builder) : Renderer (Except Failure) where
  scalar := builder.scalar
  object := builder.object
  interface := builder.interface
  union := builder.union
  enumeration := builder.enumeration
  inputObject := builder.inputObject
  directive := builder.directive
  headers := builder.headers
  assets := builder.assets

/-- Writes the stylesheet into a directory, which is made if it is missing, and counts it among
the assets. -/
def writeAssets {m : Type → Type} [Monad m] [Storage m] (builder : Builder) (directory : Path) :
    ExceptT Failure m Builder := do
  let path := directory.join stylesheetName
  ExceptT.adapt (Failure.asset directory) (Storage.createDirectory directory)
  ExceptT.adapt (Failure.asset path) (Storage.write path stylesheet.toUTF8)
  return { builder with assets := [path] }

end Builder

end SchemaPages.Html
