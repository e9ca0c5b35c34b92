import SchemaPages.Options.Host

/-!
The options of this plugin, which are the defaults with whatever its section sets, and the options
that a command line may set over those of a file.
-/

namespace SchemaPages.Options

open Json (Value Decoder RecordShape)

structure PluginOptions where
  documentTitle : String := "Definition"
  enableAssets : Bool := true
deriving DecidableEq

/-- Options as a section gives them. What is absent is not set. -/
structure PluginOverride where
  documentTitle : Option String := none
  enableAssets : Option Bool := none
deriving DecidableEq

namespace PluginOptions

def shape : RecordShape := ⟨"PluginOptions", ["documentTitle", "enableAssets"]⟩

def decode : Decoder PluginOptions :=
  shape.decode fun fields =>
    PluginOptions.mk <$> fields.required "documentTitle" Decoder.text
      <*> fields.required "enableAssets" Decoder.flag

def encode (options : PluginOptions) : Value :=
  .obj [("documentTitle", .str options.documentTitle), ("enableAssets", .bool options.enableAssets)]

end PluginOptions

namespace PluginOverride

def shape : RecordShape := ⟨"PluginOptionsOverride", ["documentTitle", "enableAssets"]⟩

def decode : Decoder PluginOverride :=
  shape.decode fun fields =>
    PluginOverride.mk <$> fields.optional "documentTitle" Decoder.text
      <*> fields.optional "enableAssets" Decoder.flag

def encode (options : PluginOverride) : Value :=
  .obj [
    ("documentTitle", (options.documentTitle.map Value.str).getD .null),
    ("enableAssets", (options.enableAssets.map Value.bool).getD .null)]

def apply (options : PluginOverride) (base : PluginOptions) : PluginOptions where
  documentTitle := options.documentTitle.getD base.documentTitle
  enableAssets := options.enableAssets.getD base.enableAssets

end PluginOverride

def PluginOptions.resolve (host : HostOptions) : Except Failure PluginOptions :=
  match host.get? pluginKey with
  | none | some .null => .ok {}
  | some v =>
    match PluginOverride.decode v with
    | .ok options => .ok (options.apply {})
    | .error error => .error (.invalidOptions pluginKey error)

structure Overrides where
  title : Option String := none
  noAssets : Bool := false
deriving DecidableEq

def Overrides.apply (overrides : Overrides) (host : HostOptions) : HostOptions :=
  let titled :=
    match overrides.title with
    | some title => host.setField pluginKey "documentTitle" (.str title)
    | none => host
  if overrides.noAssets then titled.setField pluginKey "enableAssets" (.bool false) else titled

end SchemaPages.Options
