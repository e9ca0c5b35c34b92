import SchemaPages.Introspection.Schema
import SchemaPages.Json.Value

/-!
Schemas as JSON. Every field is written, an absent one as null.
-/

namespace SchemaPages.Introspection

open Json (Value)

/-- An optional part, null where it is absent. -/
def encodeOption {α : Type} (encode : α → Value) : Option α → Value
  | none => .null
  | some a => encode a

def encodeList {α : Type} (encode : α → Value) (items : List α) : Value :=
  .arr (items.map encode)

def Kind.encode (kind : Kind) : Value := .str kind.tag

def TypeRef.encode : TypeRef → Value
  | .plain kind name =>
    .obj [("kind", kind.encode), ("name", encodeOption .str name), ("ofType", .null)]
  | .wrapping kind name inner =>
    .obj [("kind", kind.encode), ("name", encodeOption .str name), ("ofType", inner.encode)]

def InputValue.encode (v : InputValue) : Value :=
  .obj [
    ("name", .str v.name),
    ("description", encodeOption .str v.description),
    ("type", v.type.encode),
    ("defaultValue", encodeOption .str v.defaultValue)]

def Field.encode (f : Field) : Value :=
  .obj [
    ("name", .str f.name),
    ("description", encodeOption .str f.description),
    ("args", encodeList InputValue.encode f.args),
    ("type", f.type.encode),
    ("isDeprecated", .bool f.isDeprecated),
    ("deprecationReason", encodeOption .str f.deprecationReason)]

def EnumValue.encode (v : EnumValue) : Value :=
  .obj [
    ("name", .str v.name),
    ("description", encodeOption .str v.description),
    ("isDeprecated", .bool v.isDeprecated),
    ("deprecationReason", encodeOption .str v.deprecationReason)]

def TypeDef.encode (t : TypeDef) : Value :=
  .obj [
    ("name", .str t.name),
    ("kind", t.kind.encode),
    ("description", encodeOption .str t.description),
    ("fields", encodeOption (encodeList Field.encode) t.fields),
    ("inputFields", encodeOption (encodeList InputValue.encode) t.inputFields),
    ("interfaces", encodeOption (encodeList TypeRef.encode) t.interfaces),
    ("enumValues", encodeOption (encodeList EnumValue.encode) t.enumValues),
    ("possibleTypes", encodeOption (encodeList TypeRef.encode) t.possibleTypes)]

def Directive.encode (d : Directive) : Value :=
  .obj [
    ("name", .str d.name),
    ("description", encodeOption .str d.description),
    ("locations", encodeList .str d.locations),
    ("args", encodeList InputValue.encode d.args),
    ("isRepeatable", .bool d.isRepeatable)]

def RootType.encode (r : RootType) : Value := .obj [("name", .str r.name)]

def Schema.encode (s : Schema) : Value :=
  .obj [
    ("types", encodeList TypeDef.encode s.types),
    ("directives", encodeList Directive.encode s.directives),
    ("queryType", encodeOption RootType.encode s.queryType),
    ("mutationType", encodeOption RootType.encode s.mutationType),
    ("subscriptionType", encodeOption RootType.encode s.subscriptionType)]

end SchemaPages.Introspection
