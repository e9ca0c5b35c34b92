import SchemaPages.Introspection.Encode
import SchemaPages.Introspection.Load
import SchemaPages.Proofs.Json.Decoding
import SchemaPages.Proofs.Json.RoundTrip

/-!
Reading back a schema that was written. Every part of a schema decodes from what it is encoded as,
provided that its kinds are proper, and whatever is decoded has proper kinds.
-/

namespace SchemaPages.Introspection

open Json (Value Decoder Decodes Fields Reading)

/-! ### The kinds in a schema -/

def TypeRef.kinds : TypeRef → List Kind
  | .plain kind _ => [kind]
  | .wrapping kind _ inner => kind :: inner.kinds

def InputValue.kinds (v : InputValue) : List Kind := v.type.kinds

def Field.kinds (f : Field) : List Kind := f.type.kinds ++ f.args.flatMap InputValue.kinds

def TypeDef.kinds (t : TypeDef) : List Kind :=
  t.kind :: ((t.fields.getD []).flatMap Field.kinds ++
    (t.inputFields.getD []).flatMap InputValue.kinds ++
    (t.interfaces.getD []).flatMap TypeRef.kinds ++
    (t.possibleTypes.getD []).flatMap TypeRef.kinds)

def Directive.kinds (d : Directive) : List Kind := d.args.flatMap InputValue.kinds

def Schema.kinds (s : Schema) : List Kind :=
  s.types.flatMap TypeDef.kinds ++ s.directives.flatMap Directive.kinds

/-- No kind among these carries a tag that belongs to another one. -/
def AllProper (kinds : List Kind) : Prop := ∀ kind ∈ kinds, kind.IsProper

instance (kind : Kind) : Decidable kind.IsProper :=
  decidable_of_iff (Kind.ofTag kind.tag = kind)
    ⟨fun h => h ▸ Kind.isProper_ofTag kind.tag, Kind.ofTag_tag⟩

instance (kinds : List Kind) : Decidable (AllProper kinds) :=
  inferInstanceAs (Decidable (∀ kind ∈ kinds, kind.IsProper))

theorem allProper_cons {kind : Kind} {kinds : List Kind} :
    AllProper (kind :: kinds) ↔ kind.IsProper ∧ AllProper kinds :=
  List.forall_mem_cons

theorem allProper_append {kinds others : List Kind} :
    AllProper (kinds ++ others) ↔ AllProper kinds ∧ AllProper others :=
  List.forall_mem_append

theorem allProper_flatMap {α : Type} {items : List α} {f : α → List Kind} :
    AllProper (items.flatMap f) ↔ ∀ a ∈ items, AllProper (f a) :=
  List.forall_mem_flatMap

theorem allProper_getD {α : Type} {items : Option (List α)} {f : α → List Kind} :
    AllProper ((items.getD []).flatMap f) ↔ ∀ list ∈ items, ∀ a ∈ list, AllProper (f a) := by
  cases items with
  | none => simp [AllProper]
  | some list => simp [allProper_flatMap]

/-! ### Decoding what was encoded -/

theorem decodes_option {α : Type} {decode : Decoder α} {encode : α → Value} {o : Option α}
    (hnull : decode.RefusesNull) (h : ∀ a ∈ o, Decodes decode (encode a) a) :
    Decodes (Decoder.nullable decode) (encodeOption encode o) o := by
  cases o with
  | none => exact .nullable_null decode
  | some a => exact (h a rfl).nullable hnull

theorem decodes_optionalText (o : Option String) :
    Decodes (Decoder.nullable Decoder.text) (encodeOption .str o) o :=
  decodes_option Decoder.refusesNull_text fun s _ => .text s

theorem decodes_optionalList {α : Type} {decode : Decoder α} {encode : α → Value}
    {o : Option (List α)} (h : ∀ list ∈ o, ∀ a ∈ list, Decodes decode (encode a) a) :
    Decodes (Decoder.nullable (Decoder.list decode)) (encodeOption (encodeList encode) o) o :=
  decodes_option (Decoder.refusesNull_list decode) fun list hlist => .list (h list hlist)

theorem Kind.decodes {kind : Kind} (h : kind.IsProper) : Decodes Kind.decode kind.encode kind := by
  have hdecode : Kind.decode kind.encode = .ok kind := congrArg Except.ok (Kind.ofTag_tag h)
  exact ⟨hdecode, hdecode⟩

namespace TypeRef

theorem innerMember_eq (members : List (String × Value)) :
    innerMember members =
      (Keyed.get? "ofType" members).map (Decoder.nullable TypeRef.decode) := by
  induction members with
  | nil => rfl
  | cons entry rest ih =>
      obtain ⟨key, v⟩ := entry
      rw [innerMember, Keyed.get?_cons]
      split
      · cases v <;> rfl
      · exact ih

theorem innerItem_eq (items : List Value) :
    innerItem items = items[2]?.map (Decoder.nullable TypeRef.decode) := by
  match items with
  | [] | [_] | [_, _] => rfl
  | _ :: _ :: v :: _ => cases v <;> rfl

theorem decode_eq :
    TypeRef.decode = TypeRef.shape.decode fun fields =>
      TypeRef.ofParts <$> fields.required "kind" Kind.decode
        <*> fields.optional "name" Decoder.text
        <*> fields.optional "ofType" TypeRef.decode := by
  funext v
  cases v with
  | obj members =>
      rw [TypeRef.decode, innerMember_eq]
      rfl
  | arr items =>
      rw [TypeRef.decode, innerItem_eq]
      rfl
  | _ => rfl

theorem refusesNull : Decoder.RefusesNull TypeRef.decode := by
  rw [decode_eq]
  exact Json.RecordShape.refusesNull _ _

theorem decodes_parts {kind : Kind} (name : Option String) (inner : Option TypeRef)
    (hkind : kind.IsProper) (hinner : ∀ ref ∈ inner, Decodes TypeRef.decode ref.encode ref) :
    Decodes TypeRef.decode (.obj [("kind", kind.encode), ("name", encodeOption .str name),
      ("ofType", encodeOption TypeRef.encode inner)]) (.ofParts kind name inner) := by
  have hoption := decodes_option refusesNull hinner
  rw [decode_eq]
  refine Json.RecordShape.decodes rfl (by decide) fun fields hfields => ?_
  rw [hfields.required rfl (Kind.decodes hkind), hfields.optional rfl (decodes_optionalText name),
    hfields.optional rfl hoption]
  rfl

theorem decodes {ref : TypeRef} (h : AllProper ref.kinds) :
    Decodes TypeRef.decode ref.encode ref := by
  induction ref with
  | plain kind name => exact decodes_parts name none (allProper_cons.1 h).1 (by simp)
  | wrapping kind name inner ih =>
      obtain ⟨hkind, hinner⟩ := allProper_cons.1 h
      refine decodes_parts name (some inner) hkind fun ref href => ?_
      obtain rfl := Option.some.inj href
      exact ih hinner

end TypeRef

theorem InputValue.decodes {v : InputValue} (h : AllProper v.kinds) :
    Decodes InputValue.decode v.encode v := by
  refine Json.RecordShape.decodes rfl (by decide) fun fields hfields => ?_
  rw [hfields.required rfl (.text v.name),
    hfields.optional rfl (decodes_optionalText v.description),
    hfields.required rfl (TypeRef.decodes h),
    hfields.optional rfl (decodes_optionalText v.defaultValue)]
  rfl

theorem Field.decodes {f : Field} (h : AllProper f.kinds) :
    Decodes Field.decode f.encode f := by
  obtain ⟨htype, hargs⟩ := allProper_append.1 h
  have hargs : Decodes (Decoder.list InputValue.decode) (encodeList InputValue.encode f.args)
      f.args := .list fun v hv => InputValue.decodes (allProper_flatMap.1 hargs v hv)
  refine Json.RecordShape.decodes rfl (by decide) fun fields hfields => ?_
  rw [hfields.required rfl (.text f.name),
    hfields.optional rfl (decodes_optionalText f.description),
    hfields.defaulted rfl hargs,
    hfields.required rfl (TypeRef.decodes htype),
    hfields.defaulted rfl (.flag f.isDeprecated),
    hfields.optional rfl (decodes_optionalText f.deprecationReason)]
  rfl

theorem EnumValue.decodes (v : EnumValue) : Decodes EnumValue.decode v.encode v := by
  refine Json.RecordShape.decodes rfl (by decide) fun fields hfields => ?_
  rw [hfields.required rfl (.text v.name),
    hfields.optional rfl (decodes_optionalText v.description),
    hfields.defaulted rfl (.flag v.isDeprecated),
    hfields.optional rfl (decodes_optionalText v.deprecationReason)]
  rfl

theorem TypeDef.decodes {t : TypeDef} (h : AllProper t.kinds) :
    Decodes TypeDef.decode t.encode t := by
  obtain ⟨hkind, h⟩ := allProper_cons.1 h
  obtain ⟨h, hpossibleTypes⟩ := allProper_append.1 h
  obtain ⟨h, hinterfaces⟩ := allProper_append.1 h
  obtain ⟨hfields, hinputFields⟩ := allProper_append.1 h
  refine Json.RecordShape.decodes rfl (by decide) fun fields hhas => ?_
  rw [hhas.required rfl (.text t.name),
    hhas.required rfl (Kind.decodes hkind),
    hhas.optional rfl (decodes_optionalText t.description),
    hhas.optional rfl (decodes_optionalList fun list hlist f hf =>
      Field.decodes (allProper_getD.1 hfields list hlist f hf)),
    hhas.optional rfl (decodes_optionalList fun list hlist v hv =>
      InputValue.decodes (allProper_getD.1 hinputFields list hlist v hv)),
    hhas.optional rfl (decodes_optionalList fun list hlist ref href =>
      TypeRef.decodes (allProper_getD.1 hinterfaces list hlist ref href)),
    hhas.optional rfl (decodes_optionalList fun _ _ v _ => EnumValue.decodes v),
    hhas.optional rfl (decodes_optionalList fun list hlist ref href =>
      TypeRef.decodes (allProper_getD.1 hpossibleTypes list hlist ref href))]
  rfl

theorem Directive.decodes {d : Directive} (h : AllProper d.kinds) :
    Decodes Directive.decode d.encode d := by
  have hlocations : Decodes (Decoder.list Decoder.text) (encodeList .str d.locations)
      d.locations := .list fun s _ => .text s
  have hargs : Decodes (Decoder.list InputValue.decode) (encodeList InputValue.encode d.args)
      d.args := .list fun v hv => InputValue.decodes (allProper_flatMap.1 h v hv)
  refine Json.RecordShape.decodes rfl (by decide) fun fields hfields => ?_
  rw [hfields.required rfl (.text d.name),
    hfields.optional rfl (decodes_optionalText d.description),
    hfields.defaulted rfl hlocations,
    hfields.defaulted rfl hargs,
    hfields.defaulted rfl (.flag d.isRepeatable)]
  rfl

theorem RootType.decodes (r : RootType) : Decodes RootType.decode r.encode r := by
  refine Json.RecordShape.decodes rfl (by decide) fun fields hfields => ?_
  rw [hfields.required rfl (.text r.name)]
  rfl

theorem decodes_root (o : Option RootType) :
    Decodes (Decoder.nullable RootType.decode) (encodeOption RootType.encode o) o :=
  decodes_option (Json.RecordShape.refusesNull _ _) fun r _ => RootType.decodes r

theorem Schema.decodes {s : Schema} (h : AllProper s.kinds) :
    Decodes Schema.decode s.encode s := by
  obtain ⟨htypes, hdirectives⟩ := allProper_append.1 h
  have htypes : Decodes (Decoder.list TypeDef.decode) (encodeList TypeDef.encode s.types)
      s.types := .list fun t ht => TypeDef.decodes (allProper_flatMap.1 htypes t ht)
  have hdirectives : Decodes (Decoder.list Directive.decode)
      (encodeList Directive.encode s.directives) s.directives :=
    .list fun d hd => Directive.decodes (allProper_flatMap.1 hdirectives d hd)
  refine Json.RecordShape.decodes rfl (by decide) fun fields hfields => ?_
  rw [hfields.defaulted rfl htypes, hfields.defaulted rfl hdirectives,
    hfields.optional rfl (decodes_root s.queryType),
    hfields.optional rfl (decodes_root s.mutationType),
    hfields.optional rfl (decodes_root s.subscriptionType)]
  rfl

/-! ### What is decoded is proper -/

theorem Kind.ensures : Decoder.Ensures Kind.decode Kind.IsProper := by
  intro v kind h
  cases v with
  | str tag =>
      cases h
      exact Kind.isProper_ofTag tag
  | _ => cases h

/-- The kind of a decoded reference is proper, and what it wraps was decoded too. -/
theorem TypeRef.parts_of_decode {v : Value} {ref : TypeRef} (h : TypeRef.decode v = .ok ref) :
    ref.kind.IsProper ∧ ∀ inner ∈ ref.inner, ∃ w, TypeRef.decode w = .ok inner := by
  rw [TypeRef.decode_eq] at h
  obtain ⟨fields, -, hread⟩ := Json.RecordShape.exists_of_decode h
  simp only [Reading.seq_eq_read, Reading.map_eq_read] at hread
  obtain ⟨_, inner, hread, hinner, rfl⟩ := hread
  obtain ⟨_, name, ⟨kind, hkind, rfl⟩, -, rfl⟩ := hread
  have hdecoded : Decoder.Ensures TypeRef.decode fun ref => ∃ w, TypeRef.decode w = .ok ref :=
    fun w _ hw => ⟨w, hw⟩
  have hkind := Kind.ensures.required hkind
  have hinner := hdecoded.optional hinner
  cases inner with
  | none => exact ⟨hkind, hinner⟩
  | some inner => exact ⟨hkind, hinner⟩

theorem TypeRef.ensures : Decoder.Ensures TypeRef.decode fun ref => AllProper ref.kinds := by
  intro v ref h
  induction ref generalizing v with
  | plain kind name =>
      obtain ⟨hkind, -⟩ := TypeRef.parts_of_decode h
      exact allProper_cons.2 ⟨hkind, List.forall_mem_nil _⟩
  | wrapping kind name inner ih =>
      obtain ⟨hkind, hinner⟩ := TypeRef.parts_of_decode h
      obtain ⟨w, hw⟩ := hinner inner rfl
      exact allProper_cons.2 ⟨hkind, ih w hw⟩

-- The fields of a record come off from the last one on.

theorem InputValue.ensures : Decoder.Ensures InputValue.decode fun v => AllProper v.kinds := by
  refine .record fun fields v h => ?_
  simp only [Reading.seq_eq_read, Reading.map_eq_read] at h
  obtain ⟨_, defaultValue, h, -, rfl⟩ := h
  obtain ⟨_, type, h, htype, rfl⟩ := h
  obtain ⟨_, description, ⟨name, -, rfl⟩, -, rfl⟩ := h
  exact TypeRef.ensures.required htype

theorem Field.ensures : Decoder.Ensures Field.decode fun f => AllProper f.kinds := by
  refine .record fun fields f h => ?_
  simp only [Reading.seq_eq_read, Reading.map_eq_read] at h
  obtain ⟨_, deprecationReason, h, -, rfl⟩ := h
  obtain ⟨_, isDeprecated, h, -, rfl⟩ := h
  obtain ⟨_, type, h, htype, rfl⟩ := h
  obtain ⟨_, args, h, hargs, rfl⟩ := h
  obtain ⟨_, description, ⟨name, -, rfl⟩, -, rfl⟩ := h
  have hargs := InputValue.ensures.list.defaulted (List.forall_mem_nil _) hargs
  exact allProper_append.2 ⟨TypeRef.ensures.required htype, allProper_flatMap.2 hargs⟩

theorem TypeDef.ensures : Decoder.Ensures TypeDef.decode fun t => AllProper t.kinds := by
  refine .record fun fields t h => ?_
  simp only [Reading.seq_eq_read, Reading.map_eq_read] at h
  obtain ⟨_, possibleTypes, h, hpossibleTypes, rfl⟩ := h
  obtain ⟨_, enumValues, h, -, rfl⟩ := h
  obtain ⟨_, interfaces, h, hinterfaces, rfl⟩ := h
  obtain ⟨_, inputFields, h, hinputFields, rfl⟩ := h
  obtain ⟨_, typeFields, h, hfields, rfl⟩ := h
  obtain ⟨_, description, h, -, rfl⟩ := h
  obtain ⟨_, kind, ⟨name, -, rfl⟩, hkind, rfl⟩ := h
  have hfields := Field.ensures.list.optional hfields
  have hinputFields := InputValue.ensures.list.optional hinputFields
  have hinterfaces := TypeRef.ensures.list.optional hinterfaces
  have hpossibleTypes := TypeRef.ensures.list.optional hpossibleTypes
  refine allProper_cons.2 ⟨Kind.ensures.required hkind, ?_⟩
  refine allProper_append.2 ⟨allProper_append.2 ⟨allProper_append.2 ⟨?_, ?_⟩, ?_⟩, ?_⟩
  · exact allProper_getD.2 hfields
  · exact allProper_getD.2 hinputFields
  · exact allProper_getD.2 hinterfaces
  · exact allProper_getD.2 hpossibleTypes

theorem Directive.ensures : Decoder.Ensures Directive.decode fun d => AllProper d.kinds := by
  refine .record fun fields d h => ?_
  simp only [Reading.seq_eq_read, Reading.map_eq_read] at h
  obtain ⟨_, isRepeatable, h, -, rfl⟩ := h
  obtain ⟨_, args, h, hargs, rfl⟩ := h
  obtain ⟨_, locations, h, -, rfl⟩ := h
  obtain ⟨_, description, ⟨name, -, rfl⟩, -, rfl⟩ := h
  exact allProper_flatMap.2 (InputValue.ensures.list.defaulted (List.forall_mem_nil _) hargs)

theorem Schema.ensures : Decoder.Ensures Schema.decode fun s => AllProper s.kinds := by
  refine .record fun fields s h => ?_
  simp only [Reading.seq_eq_read, Reading.map_eq_read] at h
  obtain ⟨_, subscriptionType, h, -, rfl⟩ := h
  obtain ⟨_, mutationType, h, -, rfl⟩ := h
  obtain ⟨_, queryType, h, -, rfl⟩ := h
  obtain ⟨_, directives, ⟨types, htypes, rfl⟩, hdirectives, rfl⟩ := h
  have htypes := TypeDef.ensures.list.defaulted (List.forall_mem_nil _) htypes
  have hdirectives := Directive.ensures.list.defaulted (List.forall_mem_nil _) hdirectives
  exact allProper_append.2 ⟨allProper_flatMap.2 htypes, allProper_flatMap.2 hdirectives⟩

/-! ### Schemas in values and texts -/

section Numberless

theorem numberless_option {α : Type} {encode : α → Value} {o : Option α}
    (h : ∀ a ∈ o, (encode a).Numberless) : (encodeOption encode o).Numberless := by
  cases o with
  | none => exact .null
  | some a => exact h a rfl

theorem numberless_optionalText (o : Option String) : (encodeOption .str o).Numberless :=
  numberless_option fun s _ => .str s

theorem numberless_list {α : Type} {encode : α → Value} {items : List α}
    (h : ∀ a ∈ items, (encode a).Numberless) : (encodeList encode items).Numberless :=
  .arr (List.forall_mem_map.2 h)

theorem TypeRef.numberless_encode (ref : TypeRef) : ref.encode.Numberless := by
  induction ref with
  | plain kind name =>
      refine .obj ?_
      simp only [List.forall_mem_cons]
      exact ⟨.str _, numberless_optionalText name, .null, List.forall_mem_nil _⟩
  | wrapping kind name inner ih =>
      refine .obj ?_
      simp only [List.forall_mem_cons]
      exact ⟨.str _, numberless_optionalText name, ih, List.forall_mem_nil _⟩

theorem InputValue.numberless_encode (v : InputValue) : v.encode.Numberless := by
  refine .obj ?_
  simp only [List.forall_mem_cons]
  exact ⟨.str _, numberless_optionalText v.description, v.type.numberless_encode,
    numberless_optionalText v.defaultValue, List.forall_mem_nil _⟩

theorem Field.numberless_encode (f : Field) : f.encode.Numberless := by
  refine .obj ?_
  simp only [List.forall_mem_cons]
  exact ⟨.str _, numberless_optionalText f.description,
    numberless_list fun v _ => v.numberless_encode, f.type.numberless_encode, .bool _,
    numberless_optionalText f.deprecationReason, List.forall_mem_nil _⟩

theorem EnumValue.numberless_encode (v : EnumValue) : v.encode.Numberless := by
  refine .obj ?_
  simp only [List.forall_mem_cons]
  exact ⟨.str _, numberless_optionalText v.description, .bool _,
    numberless_optionalText v.deprecationReason, List.forall_mem_nil _⟩

theorem TypeDef.numberless_encode (t : TypeDef) : t.encode.Numberless := by
  refine .obj ?_
  simp only [List.forall_mem_cons]
  exact ⟨.str _, .str _, numberless_optionalText t.description,
    numberless_option fun _ _ => numberless_list fun f _ => f.numberless_encode,
    numberless_option fun _ _ => numberless_list fun v _ => v.numberless_encode,
    numberless_option fun _ _ => numberless_list fun ref _ => ref.numberless_encode,
    numberless_option fun _ _ => numberless_list fun v _ => v.numberless_encode,
    numberless_option fun _ _ => numberless_list fun ref _ => ref.numberless_encode,
    List.forall_mem_nil _⟩

theorem Directive.numberless_encode (d : Directive) : d.encode.Numberless := by
  refine .obj ?_
  simp only [List.forall_mem_cons]
  exact ⟨.str _, numberless_optionalText d.description, numberless_list fun s _ => .str s,
    numberless_list fun v _ => v.numberless_encode, .bool _, List.forall_mem_nil _⟩

theorem RootType.numberless_encode (r : RootType) : r.encode.Numberless :=
  .obj (List.forall_mem_singleton.2 (.str r.name))

theorem Schema.numberless_encode (s : Schema) : s.encode.Numberless := by
  refine .obj ?_
  simp only [List.forall_mem_cons]
  exact ⟨numberless_list fun t _ => t.numberless_encode,
    numberless_list fun d _ => d.numberless_encode,
    numberless_option fun r _ => r.numberless_encode,
    numberless_option fun r _ => r.numberless_encode,
    numberless_option fun r _ => r.numberless_encode, List.forall_mem_nil _⟩

end Numberless

namespace Schema

/-- A schema is taken from an object that holds it and is no envelope. -/
theorem ofJson_of_decode {members : Json.Members} {s : Schema}
    (hdata : (Value.obj members).get? "data" = none)
    (hschema : (Value.obj members).get? "__schema" = none)
    (h : Schema.decode (.obj members) = .ok s) : ofJson (.obj members) = .ok s := by
  have hunwrap : unwrapEnvelope (.obj members) = .obj members := by
    rw [unwrapEnvelope, hdata, Option.getD_none, hschema, Option.getD_none]
  rw [ofJson, hunwrap]
  simp only [h]

theorem ofJson_encode {s : Schema} (h : AllProper s.kinds) : ofJson s.encode = .ok s :=
  ofJson_of_decode rfl rfl (Schema.decodes h).1

theorem ofJson_sorted_encode {s : Schema} (h : AllProper s.kinds) :
    ofJson s.encode.sorted = .ok s := by
  have hnodup : Schema.shape.keys.Nodup := by decide
  have hget (key : String) : s.encode.sorted.get? key = (s.encode.get? key).map Value.sorted := by
    refine Value.get?_sorted_obj ?_ key
    exact hnodup
  exact ofJson_of_decode (hget "data") (hget "__schema") (Schema.decodes h).2

theorem exists_of_ofJson {v : Value} {s : Schema} (h : ofJson v = .ok s) :
    ∃ w, Schema.decode w = .ok s := by
  unfold ofJson at h
  split at h
  · split at h
    · cases h
      exact ⟨_, ‹_›⟩
    · cases h
  · cases h

theorem ofText_of_read {text : String} {v : Value} {s : Schema} (h : Json.read text = .ok v)
    (hv : ofJson v = .ok s) : ofText text = .ok s := by
  rw [ofText, h]
  exact hv

/-- Reading puts the members of a value in order, so it is enough that the schema comes from the
value with its members in order. -/
theorem ofText_of_sorted {v : Value} {s : Schema} (hnumberless : v.Numberless)
    (hdepth : v.depth ≤ 127) (h : ofJson v.sorted = .ok s) :
    ofText v.compact = .ok s ∧ ofText v.pretty = .ok s := by
  have hlimit : v.depth < Json.depthLimit := Nat.lt_succ_of_le hdepth
  exact ⟨ofText_of_read (Json.read_compact hnumberless hlimit) h,
    ofText_of_read (Json.read_pretty hnumberless hlimit) h⟩

/-- A schema with proper kinds comes back from the value that it is written as, in whatever order
the members stand, and from the texts of that value if it does not nest too deep. A schema that
comes from any value has proper kinds, so it comes back from what it is written as. Every tag is
written as it was read. -/
theorem ofJson_ofText_encode (s : Schema) :
    (AllProper s.kinds → ∀ v ∈ [s.encode, s.encode.sorted],
      ofJson v = .ok s ∧
        (v.depth ≤ 127 → ofText v.compact = .ok s ∧ ofText v.pretty = .ok s)) ∧
    (∀ v, ofJson v = .ok s →
      AllProper s.kinds ∧ ∀ w ∈ [s.encode, s.encode.sorted], ofJson w = .ok s) ∧
    ∀ tag, ∃ kind, Kind.decode (.str tag) = .ok kind ∧ kind.encode = .str tag := by
  have hvalues (hproper : AllProper s.kinds) :
      ∀ v ∈ [s.encode, s.encode.sorted], ofJson v = .ok s := by
    simp only [List.forall_mem_cons]
    exact ⟨ofJson_encode hproper, ofJson_sorted_encode hproper, List.forall_mem_nil _⟩
  refine ⟨?_, ?_, ?_⟩
  · intro hproper v hv
    have hsorted : v.sorted = s.encode.sorted := by
      rcases List.mem_pair.1 hv with rfl | rfl
      · rfl
      · exact Value.sorted_sorted _
    have hnumberless : v.Numberless := by
      rcases List.mem_pair.1 hv with rfl | rfl
      · exact s.numberless_encode
      · exact s.numberless_encode.sorted
    refine ⟨hvalues hproper v hv, fun hdepth => ofText_of_sorted hnumberless hdepth ?_⟩
    rw [hsorted]
    exact ofJson_sorted_encode hproper
  · intro v hv
    obtain ⟨w, hw⟩ := exists_of_ofJson hv
    have hproper := Schema.ensures w s hw
    exact ⟨hproper, hvalues hproper⟩
  · intro tag
    exact ⟨Kind.ofTag tag, rfl, congrArg Value.str (Kind.tag_ofTag tag)⟩

/-- Types of kinds that are known and of one that is not, with a field that wraps its type. -/
def various : Schema where
  types := [
    { name := "Query", kind := .object, description := some "a \"root\"\n",
      fields := some [
        { name := "now", description := none, args := [],
          type := .nonNull (.list (.named (.other "OPERATION") "Clock")),
          isDeprecated := false, deprecationReason := none }] },
    { name := "Clock", kind := .other "OPERATION" }]
  queryType := some ⟨"Query"⟩

theorem ofText_various :
    AllProper various.kinds ∧ various.encode.depth ≤ 127 ∧
      ofText various.encode.compact = .ok various ∧ ofText various.encode.pretty = .ok various ∧
        ofJson various.encode.sorted = .ok various := by
  have hproper : AllProper various.kinds := by decide
  have hdepth : various.encode.depth ≤ 127 := by decide
  obtain ⟨hencode, hdecode, -⟩ := ofJson_ofText_encode various
  obtain ⟨hvalue, htexts⟩ := hencode hproper _ List.mem_cons_self
  obtain ⟨-, hvalues⟩ := hdecode _ hvalue
  obtain ⟨hcompact, hpretty⟩ := htexts hdepth
  exact ⟨hproper, hdepth, hcompact, hpretty, hvalues _ (List.mem_pair.2 (.inr rfl))⟩

end Schema

end SchemaPages.Introspection
