import SchemaPages.Command.Trouble
import SchemaPages.Report.Entities

/-!
Making the reports from a schema and the options of a host.
-/

namespace SchemaPages.Command

open Files (Path Storage)
open Html (Builder)
open Introspection (Schema TypeDef Operation)
open Options (HostOptions PluginOptions Context)
open Page (Plugin)
open Report (TypeEntry EntityList RenderedEntity AssetReport disabledNotice)

abbrev HtmlPlugin := Plugin (Except Failure)

def builder (schema : Schema) (host : HostOptions) : Builder :=
  Builder.ofSchema schema (Context.ofHost host)

def createPlugin (schema : Schema) (host : HostOptions) : Except Trouble HtmlPlugin :=
  Trouble.attempt .createPlugin (Plugin.create schema host (.ok (builder schema host).renderer))

variable {m : Type → Type} [Monad m] [Storage m]

/-- The plugin, once the stylesheet is written into the directory, if one is given. -/
def createPluginWithAssets (schema : Schema) (host : HostOptions) (out : Option Path) :
    ExceptT Trouble m HtmlPlugin :=
  let made : ExceptT Failure m Builder :=
    match out with
    | some directory => (builder schema host).writeAssets directory
    | none => pure (builder schema host)
  ExceptT.adapt (fun failure => (Trouble.ofFailure failure).during .createPlugin)
    (Plugin.create schema host (Builder.renderer <$> made))

def typeEntry (schema : Schema) (type : TypeDef) : TypeEntry where
  name := type.name
  kind := type.kind.tag
  renderable := type.kind.isDocumented
  root := (schema.rootOperation type.name).map Operation.text

def listEntities (schema : Schema) : Except Trouble EntityList := do
  let plugin ← createPlugin schema {}
  return {
    types := plugin.types.map fun entry => typeEntry schema entry.2
    directives := plugin.directives.map (·.1) }

def renderName (plugin : HtmlPlugin) (name : String) : Except Trouble RenderedEntity :=
  (RenderedEntity.mk name) <$> Trouble.attempt (.render name) (plugin.documents name)

def renderNames (schema : Schema) (host : HostOptions) (names : List String) :
    Except Trouble (List RenderedEntity) := do
  let plugin ← createPlugin schema host
  names.mapM (renderName plugin)

def assetReport (plugin : HtmlPlugin) : AssetReport :=
  match plugin.headers?, plugin.assets? with
  | some headers, some assets => ⟨true, headers, assets, none⟩
  | _, _ => ⟨false, [], [], some disabledNotice⟩

def wantsAssets (host : HostOptions) : Bool :=
  match PluginOptions.resolve host with
  | .ok options => options.enableAssets
  | .error _ => false

/-- The assets of the pages. They are written into the directory, if one is given and they are
wanted. -/
def collectAssets (schema : Schema) (host : HostOptions) (out : Option Path) :
    ExceptT Trouble m AssetReport :=
  assetReport <$> createPluginWithAssets schema host (out.filter fun _ => wantsAssets host)

end SchemaPages.Command
