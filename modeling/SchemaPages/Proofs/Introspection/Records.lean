import SchemaPages.Introspection.Load
import SchemaPages.Proofs.Introspection.RoundTrip

/-!
What is read of the records of a schema. A table gives the fields of every record, which of them may
be null, and which hold records again. The reading of a record depends on nothing but these fields,
and not even on whether an optional one is missing or null: two values whose fields come to the same
are read the same, with the same error if there is one.
-/

namespace SchemaPages.Introspection

open Json (Value Decoder DecodeError Fields Reading RecordShape)

/-! ### Envelopes -/

namespace Schema

def ofBody : Value → Except Failure Schema
  | .obj members =>
    match Schema.decode (.obj members) with
    | .ok schema => .ok schema
    | .error error => .error (.schema (.badShape error))
  | _ => .error (.schema .notObject)

def ofData (v : Value) : Except Failure Schema := ofBody ((v.get? "__schema").getD v)

theorem ofJson_eq (v : Value) : ofJson v = ofData ((v.get? "data").getD v) := rfl

theorem ofBody_congr {members others : List (String × Value)}
    (h : Schema.decode (.obj others) = Schema.decode (.obj members)) :
    ofBody (.obj others) = ofBody (.obj members) := by
  rw [ofBody, ofBody, h]

end Schema

/-! ### Tables of fields -/

inductive Record where
  | response
  | data
  | schema
  | typeDef
  | field
  | inputValue
  | enumValue
  | typeRef
  | directive
  | rootType
deriving DecidableEq

inductive Content where
  | plain
  | record (record : Record)
  | records (record : Record)
deriving DecidableEq

/-- A field of a record. An optional one may be null. -/
structure FieldRule where
  key : String
  isOptional : Bool
  content : Content
deriving DecidableEq

namespace Record

/-- The fields of a record in the order of declaration. What is around a schema may be the schema
itself. -/
def rules : Record → List FieldRule
  | .response => ⟨"data", false, .record .data⟩ :: schemaRule :: schemaRules
  | .data => ⟨"data", false, .plain⟩ :: schemaRule :: schemaRules
  | .schema => schemaRules
  | .typeDef => [
    ⟨"name", false, .plain⟩,
    ⟨"kind", false, .plain⟩,
    ⟨"description", true, .plain⟩,
    ⟨"fields", true, .records .field⟩,
    ⟨"inputFields", true, .records .inputValue⟩,
    ⟨"interfaces", true, .records .typeRef⟩,
    ⟨"enumValues", true, .records .enumValue⟩,
    ⟨"possibleTypes", true, .records .typeRef⟩]
  | .field => [
    ⟨"name", false, .plain⟩,
    ⟨"description", true, .plain⟩,
    ⟨"args", false, .records .inputValue⟩,
    ⟨"type", false, .record .typeRef⟩,
    ⟨"isDeprecated", false, .plain⟩,
    ⟨"deprecationReason", true, .plain⟩]
  | .inputValue => [
    ⟨"name", false, .plain⟩,
    ⟨"description", true, .plain⟩,
    ⟨"type", false, .record .typeRef⟩,
    ⟨"defaultValue", true, .plain⟩]
  | .enumValue => [
    ⟨"name", false, .plain⟩,
    ⟨"description", true, .plain⟩,
    ⟨"isDeprecated", false, .plain⟩,
    ⟨"deprecationReason", true, .plain⟩]
  | .typeRef => [
    ⟨"kind", false, .plain⟩,
    ⟨"name", true, .plain⟩,
    ⟨"ofType", true, .record .typeRef⟩]
  | .directive => [
    ⟨"name", false, .plain⟩,
    ⟨"description", true, .plain⟩,
    ⟨"locations", false, .plain⟩,
    ⟨"args", false, .records .inputValue⟩,
    ⟨"isRepeatable", false, .plain⟩]
  | .rootType => [⟨"name", false, .plain⟩]
where
  schemaRule : FieldRule := ⟨"__schema", false, .record .schema⟩
  schemaRules : List FieldRule := [
    ⟨"types", false, .records .typeDef⟩,
    ⟨"directives", false, .records .directive⟩,
    ⟨"queryType", true, .record .rootType⟩,
    ⟨"mutationType", true, .record .rootType⟩,
    ⟨"subscriptionType", true, .record .rootType⟩]

def keys (record : Record) : List String := record.rules.map FieldRule.key

theorem nodup_keys (record : Record) : record.keys.Nodup := by
  cases record <;> decide

theorem rule_eq {record : Record} {rule other : FieldRule} (h : rule ∈ record.rules)
    (hother : other ∈ record.rules) (hkey : rule.key = other.key) : rule = other :=
  List.inj_on_of_nodup_map record.nodup_keys h hother hkey

def Result : Record → Type
  | .response | .data | .schema => Except Failure Schema
  | .typeDef => Except DecodeError TypeDef
  | .field => Except DecodeError Field
  | .inputValue => Except DecodeError InputValue
  | .enumValue => Except DecodeError EnumValue
  | .typeRef => Except DecodeError TypeRef
  | .directive => Except DecodeError Directive
  | .rootType => Except DecodeError RootType

def read : (record : Record) → Value → record.Result
  | .response => Schema.ofJson
  | .data => Schema.ofData
  | .schema => Schema.ofBody
  | .typeDef => TypeDef.decode
  | .field => Field.decode
  | .inputValue => InputValue.decode
  | .enumValue => EnumValue.decode
  | .typeRef => TypeRef.decode
  | .directive => Directive.decode
  | .rootType => RootType.decode

end Record

/-! ### Values that come to the same -/

/-- The values are read the same as what a field holds. -/
def Content.Alike : Content → Value → Value → Prop
  | .plain, _, _ => False
  | .record inner, v, w => v ≠ .null ∧ w ≠ .null ∧ inner.read w = inner.read v
  | .records inner, v, w =>
    ∃ items others, v = .arr items ∧ w = .arr others ∧
      others.map inner.read = items.map inner.read

/-- What two values have in a field comes to the same. -/
inductive FieldRule.Alike (rule : FieldRule) : Option Value → Option Value → Prop
  | same (found : Option Value) : rule.Alike found found
  | null : rule.isOptional = true → rule.Alike none (some .null)
  | inside {v w : Value} : rule.content.Alike v w → rule.Alike (some v) (some w)

/-- The fields of two values come to the same, be they members or items. -/
inductive Record.Alike (record : Record) : Value → Value → Prop
  | obj {members others : List (String × Value)} :
      (∀ rule ∈ record.rules,
        rule.Alike (Keyed.get? rule.key members) (Keyed.get? rule.key others)) →
      record.Alike (.obj members) (.obj others)
  | arr {items others : List Value} : items.length = others.length →
      (∀ (index : Nat) (rule : FieldRule), record.rules[index]? = some rule →
        rule.Alike items[index]? others[index]?) →
      record.Alike (.arr items) (.arr others)

structure FieldsAlike (record : Record) (fields others : Fields) : Prop where
  turn_eq : ∀ key, others.turn key = fields.turn key
  missing_eq : ∀ (α : Type) (key : String),
    (others.missing key : Reading α) = fields.missing key
  alike : ∀ rule ∈ record.rules, rule.Alike (fields.value? rule.key) (others.value? rule.key)

/-- The decoder does not tell values that are read the same from each other. -/
def Content.Respects {α : Type} (content : Content) (decode : Decoder α) : Prop :=
  ∀ v w, content.Alike v w → decode w = decode v

section Readings

variable {α : Type} {decode : Decoder α}

theorem Content.respects_plain (decode : Decoder α) : Content.plain.Respects decode :=
  fun _ _ h => h.elim

theorem Content.Alike.ne_null {content : Content} {v w : Value} (h : content.Alike v w) :
    v ≠ .null ∧ w ≠ .null := by
  cases content with
  | plain => exact h.elim
  | record inner => exact ⟨h.1, h.2.1⟩
  | records inner =>
      obtain ⟨items, others, rfl, rfl, -⟩ := h
      exact ⟨by simp, by simp⟩

theorem Content.Respects.nullable {content : Content} (h : content.Respects decode) :
    content.Respects (Decoder.nullable decode) := by
  intro v w hvw
  obtain ⟨hv, hw⟩ := hvw.ne_null
  have hmap {v : Value} (hv : v ≠ .null) : Decoder.nullable decode v = (decode v).map some := by
    cases v with
    | null => exact absurd rfl hv
    | _ => rfl
  rw [hmap hv, hmap hw, h v w hvw]

theorem Content.respects_records {record : Record} (decode : Decoder α)
    (h : ∀ items others : List Value, others.map record.read = items.map record.read →
      others.map decode = items.map decode) :
    (Content.records record).Respects (Decoder.list decode) := by
  rintro _ _ ⟨items, others, rfl, rfl, hitems⟩
  have hmapM (items : List Value) : items.mapM decode = (items.map decode).mapM id := by
    rw [List.mapM_map]
    rfl
  change others.mapM decode = items.mapM decode
  rw [hmapM, hmapM, h items others hitems]

namespace FieldsAlike

variable {record : Record} {fields others : Fields} (h : FieldsAlike record fields others)

include h

theorem reading_eq (key : String) (found : Option (Except DecodeError α)) (absent : Reading α) :
    others.reading key found absent = fields.reading key found absent := by
  unfold Fields.reading
  rw [h.turn_eq]

theorem map_value?_eq (key : String) (content : Content)
    (hrule : ⟨key, false, content⟩ ∈ record.rules) (hdecode : content.Respects decode) :
    (others.value? key).map decode = (fields.value? key).map decode := by
  have halike := h.alike _ hrule
  generalize fields.value? key = found, others.value? key = other at halike ⊢
  cases halike with
  | same => rfl
  | null hoptional => cases hoptional
  | inside hvw => rw [Option.map_some, Option.map_some, hdecode _ _ hvw]

theorem required (key : String) (content : Content)
    (hrule : ⟨key, false, content⟩ ∈ record.rules) (hdecode : content.Respects decode) :
    others.required key decode = fields.required key decode := by
  rw [Fields.required, h.map_value?_eq key content hrule hdecode, h.missing_eq, h.reading_eq]
  rfl

theorem defaulted (key : String) (content : Content)
    (hrule : ⟨key, false, content⟩ ∈ record.rules) (hdecode : content.Respects decode)
    (absent : α) : others.defaulted key absent decode = fields.defaulted key absent decode := by
  rw [Fields.defaulted, h.map_value?_eq key content hrule hdecode, h.reading_eq]
  rfl

theorem optional (key : String) (content : Content)
    (hrule : ⟨key, true, content⟩ ∈ record.rules) (hdecode : content.Respects decode) :
    others.optional key decode = fields.optional key decode := by
  have halike := h.alike _ hrule
  rw [Fields.optional, Fields.optional, Fields.defaulted, Fields.defaulted, h.reading_eq]
  generalize fields.value? key = found, others.value? key = other at halike ⊢
  cases halike with
  | same => rfl
  | null _ => rfl
  | inside hvw => rw [Option.map_some, Option.map_some, hdecode.nullable _ _ hvw]

end FieldsAlike

end Readings

/-! ### Records that come to the same -/

namespace Record.Alike

variable {record : Record} {shape : RecordShape} {v w : Value}

/-- The fields under the keys of a shape come to the same. -/
theorem fieldsAlike_members {members others : List (String × Value)}
    (h : ∀ rule ∈ record.rules,
      rule.Alike (Keyed.get? rule.key members) (Keyed.get? rule.key others)) :
    FieldsAlike record ⟨shape, .members members⟩ ⟨shape, .members others⟩ where
  turn_eq _ := rfl
  missing_eq _ _ := rfl
  alike := h

theorem fieldsAlike_items {items others : List Value} (hkeys : shape.keys = record.keys)
    (h : ∀ (index : Nat) (rule : FieldRule), record.rules[index]? = some rule →
      rule.Alike items[index]? others[index]?) :
    FieldsAlike record ⟨shape, .items items⟩ ⟨shape, .items others⟩ where
  turn_eq _ := rfl
  missing_eq _ _ := rfl
  alike rule hrule := by
    obtain ⟨index, hindex, rfl⟩ := List.getElem_of_mem hrule
    have hfind : shape.keys.idxOf record.rules[index].key = index := by
      have hlength : index < record.keys.length := by simpa [keys] using hindex
      have hget : record.keys[index] = record.rules[index].key := List.getElem_map _
      rw [hkeys, ← hget, record.nodup_keys.idxOf_getElem index hlength]
    have halike := h index _ (List.getElem?_eq_getElem hindex)
    change FieldRule.Alike _ items[shape.keys.idxOf _]? others[shape.keys.idxOf _]?
    rwa [hfind]

theorem decode_eq {α : Type} {build : Fields → Reading α} (h : record.Alike v w)
    (hkeys : shape.keys = record.keys)
    (hbuild : ∀ fields others, FieldsAlike record fields others → build others = build fields) :
    shape.decode build w = shape.decode build v := by
  cases h with
  | obj h =>
      rw [RecordShape.decode, RecordShape.decode, hbuild _ _ (fieldsAlike_members h)]
  | arr hlength h =>
      rw [RecordShape.decode, RecordShape.decode, hbuild _ _ (fieldsAlike_items hkeys h),
        RecordShape.settleItems, RecordShape.settleItems, hlength]

theorem ne_null (h : record.Alike v w) : v ≠ .null ∧ w ≠ .null := by
  cases h <;> simp

end Record.Alike

open Content (respects_plain respects_records)

theorem respects_typeRef : (Content.record .typeRef).Respects TypeRef.decode :=
  fun _ _ h => h.2.2

theorem respects_rootType : (Content.record .rootType).Respects RootType.decode :=
  fun _ _ h => h.2.2

theorem TypeRef.decode_of_alike {v w : Value} (h : Record.typeRef.Alike v w) :
    TypeRef.decode w = TypeRef.decode v := by
  rw [TypeRef.decode_eq]
  refine h.decode_eq rfl fun fields others h => ?_
  rw [h.required "kind" .plain (by decide) (respects_plain _),
    h.optional "name" .plain (by decide) (respects_plain _),
    h.optional "ofType" (.record .typeRef) (by decide) respects_typeRef]

theorem InputValue.decode_of_alike {v w : Value} (h : Record.inputValue.Alike v w) :
    InputValue.decode w = InputValue.decode v := by
  refine h.decode_eq rfl fun fields others h => ?_
  rw [h.required "name" .plain (by decide) (respects_plain _),
    h.optional "description" .plain (by decide) (respects_plain _),
    h.required "type" (.record .typeRef) (by decide) respects_typeRef,
    h.optional "defaultValue" .plain (by decide) (respects_plain _)]

theorem Field.decode_of_alike {v w : Value} (h : Record.field.Alike v w) :
    Field.decode w = Field.decode v := by
  refine h.decode_eq rfl fun fields others h => ?_
  rw [h.required "name" .plain (by decide) (respects_plain _),
    h.optional "description" .plain (by decide) (respects_plain _),
    h.defaulted "args" (.records .inputValue) (by decide)
      (respects_records InputValue.decode fun _ _ => id),
    h.required "type" (.record .typeRef) (by decide) respects_typeRef,
    h.defaulted "isDeprecated" .plain (by decide) (respects_plain _),
    h.optional "deprecationReason" .plain (by decide) (respects_plain _)]

theorem EnumValue.decode_of_alike {v w : Value} (h : Record.enumValue.Alike v w) :
    EnumValue.decode w = EnumValue.decode v := by
  refine h.decode_eq rfl fun fields others h => ?_
  rw [h.required "name" .plain (by decide) (respects_plain _),
    h.optional "description" .plain (by decide) (respects_plain _),
    h.defaulted "isDeprecated" .plain (by decide) (respects_plain _),
    h.optional "deprecationReason" .plain (by decide) (respects_plain _)]

theorem TypeDef.decode_of_alike {v w : Value} (h : Record.typeDef.Alike v w) :
    TypeDef.decode w = TypeDef.decode v := by
  refine h.decode_eq rfl fun fields others h => ?_
  rw [h.required "name" .plain (by decide) (respects_plain _),
    h.required "kind" .plain (by decide) (respects_plain _),
    h.optional "description" .plain (by decide) (respects_plain _),
    h.optional "fields" (.records .field) (by decide) (respects_records Field.decode fun _ _ => id),
    h.optional "inputFields" (.records .inputValue) (by decide)
      (respects_records InputValue.decode fun _ _ => id),
    h.optional "interfaces" (.records .typeRef) (by decide)
      (respects_records TypeRef.decode fun _ _ => id),
    h.optional "enumValues" (.records .enumValue) (by decide)
      (respects_records EnumValue.decode fun _ _ => id),
    h.optional "possibleTypes" (.records .typeRef) (by decide)
      (respects_records TypeRef.decode fun _ _ => id)]

theorem Directive.decode_of_alike {v w : Value} (h : Record.directive.Alike v w) :
    Directive.decode w = Directive.decode v := by
  refine h.decode_eq rfl fun fields others h => ?_
  rw [h.required "name" .plain (by decide) (respects_plain _),
    h.optional "description" .plain (by decide) (respects_plain _),
    h.defaulted "locations" .plain (by decide) (respects_plain _),
    h.defaulted "args" (.records .inputValue) (by decide)
      (respects_records InputValue.decode fun _ _ => id),
    h.defaulted "isRepeatable" .plain (by decide) (respects_plain _)]

theorem RootType.decode_of_alike {v w : Value} (h : Record.rootType.Alike v w) :
    RootType.decode w = RootType.decode v := by
  refine h.decode_eq rfl fun fields others h => ?_
  rw [h.required "name" .plain (by decide) (respects_plain _)]

theorem Schema.decode_of_alike {v w : Value} (h : Record.schema.Alike v w) :
    Schema.decode w = Schema.decode v := by
  refine h.decode_eq rfl fun fields others h => ?_
  rw [h.defaulted "types" (.records .typeDef) (by decide)
      (respects_records TypeDef.decode fun _ _ => id),
    h.defaulted "directives" (.records .directive) (by decide)
      (respects_records Directive.decode fun _ _ => id),
    h.optional "queryType" (.record .rootType) (by decide) respects_rootType,
    h.optional "mutationType" (.record .rootType) (by decide) respects_rootType,
    h.optional "subscriptionType" (.record .rootType) (by decide) respects_rootType]

namespace Schema

theorem ofBody_of_alike {v w : Value} (h : Record.schema.Alike v w) : ofBody w = ofBody v := by
  have hdecode := decode_of_alike h
  cases h with
  | obj _ => exact ofBody_congr hdecode
  | arr _ _ => rfl

/-- What is taken out of an envelope under a key, or the envelope where there is nothing, is read
the same. -/
theorem read_getD_of_alike {key : String} (inner : Record) {found other : Option Value}
    {v w : Value} (h : FieldRule.Alike ⟨key, false, .record inner⟩ found other)
    (hself : found = none → other = none → inner.read w = inner.read v) :
    inner.read (other.getD w) = inner.read (found.getD v) := by
  cases h with
  | same =>
      cases found with
      | none => exact hself rfl rfl
      | some taken => rfl
  | null hoptional => cases hoptional
  | inside h => exact h.2.2

theorem ofData_of_alike {v w : Value} (h : Record.data.Alike v w) : ofData w = ofData v := by
  cases h with
  | arr _ _ => rfl
  | @obj members others h =>
      have hself : ofBody (.obj others) = ofBody (.obj members) :=
        ofBody_of_alike (.obj fun rule hrule =>
          h rule (List.mem_cons_of_mem _ (List.mem_cons_of_mem _ hrule)))
      exact read_getD_of_alike .schema (h ⟨"__schema", false, .record .schema⟩ (by decide))
        fun _ _ => hself

theorem ofJson_of_alike {v w : Value} (h : Record.response.Alike v w) : ofJson w = ofJson v := by
  cases h with
  | arr _ _ => rfl
  | @obj members others h =>
      refine read_getD_of_alike .data (h ⟨"data", false, .record .data⟩ (by decide))
        fun hnone hother => ?_
      change Keyed.get? "data" members = none at hnone
      change Keyed.get? "data" others = none at hother
      -- Without a member `data` the two records have the same fields.
      refine ofData_of_alike (.obj fun rule hrule => ?_)
      rcases List.mem_cons.1 hrule with rfl | hrule
      · rw [hnone, hother]
        exact .same none
      · exact h rule (List.mem_cons_of_mem _ hrule)

end Schema

theorem Record.Alike.read_eq {record : Record} {v w : Value} (h : record.Alike v w) :
    record.read w = record.read v := by
  cases record with
  | response => exact Schema.ofJson_of_alike h
  | data => exact Schema.ofData_of_alike h
  | schema => exact Schema.ofBody_of_alike h
  | typeDef => exact TypeDef.decode_of_alike h
  | field => exact Field.decode_of_alike h
  | inputValue => exact InputValue.decode_of_alike h
  | enumValue => exact EnumValue.decode_of_alike h
  | typeRef => exact TypeRef.decode_of_alike h
  | directive => exact Directive.decode_of_alike h
  | rootType => exact RootType.decode_of_alike h

end SchemaPages.Introspection
