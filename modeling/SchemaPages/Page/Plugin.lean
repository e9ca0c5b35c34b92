import SchemaPages.Options.Context
import SchemaPages.Options.Plugin
import SchemaPages.Page.Document
import SchemaPages.Page.Renderer

/-!
The plugin that a host asks for the documents of a name. It looks the name up among the types,
then among the directives; of several with one name the last counts. A type that has no page hides
a directive of its name.
-/

namespace SchemaPages.Page

open Introspection (Schema TypeDef Directive)
open Options (HostOptions PluginOptions Context)

structure Plugin (m : Type → Type) where
  types : Keyed TypeDef
  directives : Keyed Directive
  options : PluginOptions
  renderer : Renderer m

namespace Plugin

variable {m : Type → Type}

def ofRenderer (schema : Schema) (options : PluginOptions) (renderer : Renderer m) : Plugin m where
  types := Keyed.ofList TypeDef.name schema.types
  directives := Keyed.ofList Directive.name schema.directives
  options := options
  renderer := renderer

/-- A plugin for a schema and the options of a host. The renderer is made only once the options
are known to be right. -/
def create {n : Type → Type} [Monad n] [MonadExceptOf Failure n] (schema : Schema)
    (host : HostOptions) (makeRenderer : n (Renderer m)) : n (Plugin m) := do
  match PluginOptions.resolve host with
  | .error failure => throw failure
  | .ok options => return ofRenderer schema options (← makeRenderer)

variable [Monad m]

def document (plugin : Plugin m) (fragment : m String) : m (List Document) := do
  return [Document.wrap plugin.options.documentTitle (← fragment)]

/-- The documents of a name: one, or none. -/
def documents (plugin : Plugin m) (name : String) : m (List Document) :=
  match Keyed.get? name plugin.types with
  | some type =>
    match plugin.renderer.operation? type.kind with
    | some operation => plugin.document (operation type)
    | none => pure []
  | none =>
    match Keyed.get? name plugin.directives with
    | some directive => plugin.document (plugin.renderer.directive directive)
    | none => pure []

omit [Monad m] in
def headers? (plugin : Plugin m) : Option (List String) :=
  if plugin.options.enableAssets then some plugin.renderer.headers else none

omit [Monad m] in
def assets? (plugin : Plugin m) : Option (List String) :=
  if plugin.options.enableAssets then some plugin.renderer.assets else none

end Plugin

end SchemaPages.Page
