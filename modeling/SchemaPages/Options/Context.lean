import SchemaPages.Options.Host

/-!
What the host tells every plugin besides the schema and the options.
-/

namespace SchemaPages.Options

open Json (Value Decoder RecordShape)

/-- Where the pages and the stylesheet are found: this comes before every address. -/
structure Context where
  baseUrl : String := "./"
deriving DecidableEq

namespace Context

def shape : RecordShape := ⟨"PluginContext", ["baseUrl"]⟩

def decode : Decoder Context :=
  shape.decode fun fields => Context.mk <$> fields.required "baseUrl" Decoder.text

def encode (context : Context) : Value := .obj [("baseUrl", .str context.baseUrl)]

/-- The context that the section of the host gives. Anything but a text is passed over. -/
def ofHost (host : HostOptions) : Context :=
  match (host.get? hostKey).bind (·.get? "baseUrl") with
  | some (.str url) => ⟨url⟩
  | _ => {}

end Context

end SchemaPages.Options
