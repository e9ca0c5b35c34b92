import SchemaPages.Introspection.Schema
import SchemaPages.Json.Record

/-!
Schemas read from JSON. Keys that a record does not have are passed over, and a key that may be
missing may also be null unless it holds a list or a flag with a default of its own.
-/

namespace SchemaPages.Introspection

open Json (Value DecodeError Decoder Fields Reading RecordShape)

def Kind.decode (v : Value) : Except DecodeError Kind :=
  (Decoder.text v).map Kind.ofTag

def TypeRef.shape : RecordShape := ⟨"TypeRef", ["kind", "name", "ofType"]⟩

/-- The reading of a reference from what decoding its inner reference gave. -/
def TypeRef.reading (fields : Fields) (inner : Option (Except DecodeError (Option TypeRef))) :
    Reading TypeRef :=
  TypeRef.ofParts <$> fields.required "kind" Kind.decode
    <*> fields.optional "name" Decoder.text
    <*> fields.reading "ofType" inner (.read none)

mutual

def TypeRef.decode : Value → Except DecodeError TypeRef
  | .obj members => (TypeRef.reading ⟨TypeRef.shape, .members members⟩ (innerMember members)).settle
  | .arr items =>
    TypeRef.shape.settleItems items
      (TypeRef.reading ⟨TypeRef.shape, .items items⟩ (innerItem items))
  | v => .error (.invalidType v (.record TypeRef.shape.name))

def innerMember : List (String × Value) → Option (Except DecodeError (Option TypeRef))
  | [] => none
  | (key, v) :: rest =>
    if "ofType" = key then
      some (if v = .null then .ok none else (TypeRef.decode v).map some)
    else innerMember rest

def innerItem : List Value → Option (Except DecodeError (Option TypeRef))
  | _ :: _ :: v :: _ => some (if v = .null then .ok none else (TypeRef.decode v).map some)
  | _ => none

end

def InputValue.shape : RecordShape :=
  ⟨"InputValueDescriptor", ["name", "description", "type", "defaultValue"]⟩

def InputValue.decode : Decoder InputValue :=
  InputValue.shape.decode fun fields =>
    InputValue.mk <$> fields.required "name" Decoder.text
      <*> fields.optional "description" Decoder.text
      <*> fields.required "type" TypeRef.decode
      <*> fields.optional "defaultValue" Decoder.text

def Field.shape : RecordShape :=
  ⟨"FieldDescriptor",
    ["name", "description", "args", "type", "isDeprecated", "deprecationReason"]⟩

def Field.decode : Decoder Field :=
  Field.shape.decode fun fields =>
    Field.mk <$> fields.required "name" Decoder.text
      <*> fields.optional "description" Decoder.text
      <*> fields.defaulted "args" [] (Decoder.list InputValue.decode)
      <*> fields.required "type" TypeRef.decode
      <*> fields.defaulted "isDeprecated" false Decoder.flag
      <*> fields.optional "deprecationReason" Decoder.text

def EnumValue.shape : RecordShape :=
  ⟨"EnumValueDescriptor", ["name", "description", "isDeprecated", "deprecationReason"]⟩

def EnumValue.decode : Decoder EnumValue :=
  EnumValue.shape.decode fun fields =>
    EnumValue.mk <$> fields.required "name" Decoder.text
      <*> fields.optional "description" Decoder.text
      <*> fields.defaulted "isDeprecated" false Decoder.flag
      <*> fields.optional "deprecationReason" Decoder.text

def TypeDef.shape : RecordShape :=
  ⟨"TypeDescriptor",
    ["name", "kind", "description", "fields", "inputFields", "interfaces", "enumValues",
      "possibleTypes"]⟩

def TypeDef.decode : Decoder TypeDef :=
  TypeDef.shape.decode fun fields =>
    TypeDef.mk <$> fields.required "name" Decoder.text
      <*> fields.required "kind" Kind.decode
      <*> fields.optional "description" Decoder.text
      <*> fields.optional "fields" (Decoder.list Field.decode)
      <*> fields.optional "inputFields" (Decoder.list InputValue.decode)
      <*> fields.optional "interfaces" (Decoder.list TypeRef.decode)
      <*> fields.optional "enumValues" (Decoder.list EnumValue.decode)
      <*> fields.optional "possibleTypes" (Decoder.list TypeRef.decode)

def Directive.shape : RecordShape :=
  ⟨"DirectiveDescriptor", ["name", "description", "locations", "args", "isRepeatable"]⟩

def Directive.decode : Decoder Directive :=
  Directive.shape.decode fun fields =>
    Directive.mk <$> fields.required "name" Decoder.text
      <*> fields.optional "description" Decoder.text
      <*> fields.defaulted "locations" [] (Decoder.list Decoder.text)
      <*> fields.defaulted "args" [] (Decoder.list InputValue.decode)
      <*> fields.defaulted "isRepeatable" false Decoder.flag

def RootType.shape : RecordShape := ⟨"RootTypeRef", ["name"]⟩

def RootType.decode : Decoder RootType :=
  RootType.shape.decode fun fields => RootType.mk <$> fields.required "name" Decoder.text

def Schema.shape : RecordShape :=
  ⟨"Schema", ["types", "directives", "queryType", "mutationType", "subscriptionType"]⟩

def Schema.decode : Decoder Schema :=
  Schema.shape.decode fun fields =>
    Schema.mk <$> fields.defaulted "types" [] (Decoder.list TypeDef.decode)
      <*> fields.defaulted "directives" [] (Decoder.list Directive.decode)
      <*> fields.optional "queryType" RootType.decode
      <*> fields.optional "mutationType" RootType.decode
      <*> fields.optional "subscriptionType" RootType.decode

/-- A response holds the schema under `data`, and either may hold it under `__schema`. A member
that is there is taken whatever it holds. -/
def unwrapEnvelope (v : Value) : Value :=
  let body := (v.get? "data").getD v
  (body.get? "__schema").getD body

end SchemaPages.Introspection
