import SchemaPages.Proofs.Html.Entity
import SchemaPages.Proofs.Html.Reading

/-!
Where the links of a page lead. A page links to what it refers to if the schema has a type of that
name. Whether the name has a page is another matter: that depends on the kind of the last type that
has it. The two agree as long as nothing refers to a type of a kind without pages.
-/

namespace SchemaPages.Introspection

/-- The name that a reference comes down to. -/
def TypeRef.target : TypeRef → String
  | .wrapping .list _ inner | .wrapping .nonNull _ inner => inner.target
  | .wrapping _ name _ | .plain _ name => name.getD ""

def Field.references (field : Field) : List TypeRef :=
  field.args.map InputValue.type ++ [field.type]

end SchemaPages.Introspection

namespace SchemaPages.Page

open Introspection (TypeRef InputValue Field)

/-- What a call refers to, in the order in which it is shown. -/
def Call.references : Call → List TypeRef
  | .scalar _ | .enumeration _ => []
  | .object type | .interface type =>
    type.interfaces.getD [] ++ (type.fields.getD []).flatMap Field.references
  | .union type => type.possibleTypes.getD []
  | .inputObject type =>
    type.interfaces.getD [] ++ (type.inputFields.getD []).map InputValue.type
  | .directive definition => definition.args.map InputValue.type

end SchemaPages.Page

namespace SchemaPages.Html

open Introspection (Kind Schema TypeRef InputValue Field EnumValue TypeDef Directive)
open Inline (between mark space word)
open Options (HostOptions PluginOptions Context)
open Page (Call Document Plugin callFor?)

/-! ### The links of the trees -/

def Linker.targets (linker : Linker) (refs : List TypeRef) : List String :=
  (refs.map TypeRef.target).filter linker.known.contains

theorem Linker.targets_append (linker : Linker) (refs others : List TypeRef) :
    linker.targets (refs ++ others) = linker.targets refs ++ linker.targets others := by
  rw [Linker.targets, List.map_append, List.filter_append]
  rfl

theorem Linker.targets_flatMap {α : Type} (linker : Linker) (refs : α → List TypeRef)
    (xs : List α) :
    linker.targets (xs.flatMap refs) = xs.flatMap fun x => linker.targets (refs x) := by
  induction xs with
  | nil => rfl
  | cons x xs ih => rw [List.flatMap_cons, targets_append, ih, List.flatMap_cons]

theorem linked_nameMarkup (linker : Linker) (name : String) :
    (linker.nameMarkup name).linked = [name].filter linker.known.contains := by
  rw [Linker.nameMarkup, List.filter_cons, List.filter_nil]
  split <;> rfl

theorem linked_refMarkup (linker : Linker) (ref : TypeRef) :
    (linker.refMarkup ref).linked = linker.targets [ref] := by
  change _ = [ref.target].filter linker.known.contains
  induction ref with
  | plain kind name => exact linked_nameMarkup ..
  | wrapping kind name inner ih =>
      cases kind
      case list => simpa [Linker.refMarkup, TypeRef.target] using ih
      case nonNull => simpa [Linker.refMarkup, TypeRef.target] using ih
      all_goals exact linked_nameMarkup ..

theorem linked_defaultMarkup (value : Option String) : (defaultMarkup value).linked = [] := by
  cases value <;> rfl

theorem linked_deprecationMarkup (isDeprecated : Bool) (reason : Option String) :
    (deprecationMarkup isDeprecated reason).linked = [] := by
  simp only [deprecationMarkup, reasonMarkup]
  split
  · rfl
  · split <;> rfl

/-- References among other markup give their own links, one after the other. -/
theorem linked_joined_refs {α : Type} (linker : Linker) {separator : Inline}
    (hseparator : separator.linked = []) {markup : α → Inline} {ref : α → TypeRef}
    (hmarkup : ∀ x, (markup x).linked = linker.targets [ref x]) (xs : List α) :
    (Inline.joined separator (xs.map markup)).linked = linker.targets (xs.map ref) := by
  rw [Inline.linked_joined hseparator, List.flatMap_map, List.map_eq_flatMap,
    linker.targets_flatMap]
  simp only [hmarkup]

theorem linked_argumentsMarkup (linker : Linker) (args : List InputValue) :
    (linker.argumentsMarkup args).linked = linker.targets (args.map InputValue.type) := by
  have hargument (arg : InputValue) :
      (linker.argumentMarkup arg).linked = linker.targets [arg.type] := by
    simp [Linker.argumentMarkup, Inline.linked, linked_refMarkup, linked_defaultMarkup]
  rw [Linker.argumentsMarkup]
  cases args with
  | nil => rfl
  | cons arg args =>
      rw [if_neg (by simp), Inline.linked_append, Inline.linked_append,
        linked_joined_refs linker rfl hargument, Inline.linked_mark, Inline.linked_mark]
      simp

theorem linked_commentMarkup (description : Option String) :
    (commentMarkup description).flatMap Inline.linked = [] := by
  rw [commentMarkup]
  simp [Inline.comment, Inline.linked]

theorem linked_fieldLines (field : FieldMarkup) :
    field.lines.flatMap Inline.linked =
      field.arguments.linked ++ field.type.linked ++ field.defaultValue.linked ++
        field.deprecation.linked := by
  simp [FieldMarkup.lines, FieldMarkup.line, Inline.comment, Inline.linked, List.flatMap_map]

theorem linked_outputMarkup (linker : Linker) (field : Field) :
    (linker.outputMarkup field).lines.flatMap Inline.linked =
      linker.targets field.references := by
  rw [linked_fieldLines, Field.references, linker.targets_append]
  simp [Linker.outputMarkup, linked_argumentsMarkup, linked_refMarkup, linked_deprecationMarkup,
    Inline.linked]

theorem linked_inputMarkup (linker : Linker) (field : InputValue) :
    (linker.inputMarkup field).lines.flatMap Inline.linked = linker.targets [field.type] := by
  rw [linked_fieldLines]
  simp [Linker.inputMarkup, linked_refMarkup, linked_defaultMarkup, Inline.linked]

theorem linked_refs (linker : Linker) {sign : Inline} (hsign : sign.linked = [])
    (refs : List TypeRef) :
    (Inline.joined (between sign) (refs.map linker.refMarkup)).linked = linker.targets refs := by
  have hbetween : (between sign).linked = [] := (Inline.linked_between sign).trans hsign
  rw [linked_joined_refs linker hbetween (linked_refMarkup linker), List.map_id']

theorem linked_implementsMarkup (linker : Linker) (refs : List TypeRef) :
    (implementsMarkup (refs.map linker.refMarkup)).linked = linker.targets refs := by
  have hrefs : (Inline.joined (between (.text "&")) (refs.map linker.refMarkup)).linked =
      linker.targets refs := linked_refs linker rfl refs
  rw [implementsMarkup]
  cases refs with
  | nil => rfl
  | cons ref refs =>
      rw [if_neg (by simp), Inline.linked_append, Inline.linked_append _ (Inline.joined ..), hrefs]
      rfl

theorem linked_blockLines (linker : Linker) (keyword : String) (type : TypeDef)
    (fields : List FieldMarkup) :
    (linker.blockLines keyword type fields).flatMap Inline.linked =
      linker.targets (type.interfaces.getD []) ++
        fields.flatMap fun field => field.lines.flatMap Inline.linked := by
  rw [Linker.blockLines]
  simp only [List.flatMap_append, List.flatMap_assoc, linked_commentMarkup, List.flatMap_singleton,
    Inline.linked_append, linked_implementsMarkup]
  simp [Inline.identifier, word, Inline.linked]

theorem linked_valueLines (value : EnumValue) :
    (valueLines value).flatMap Inline.linked = [] := by
  simp [valueLines, Inline.comment, Inline.linked, linked_deprecationMarkup, List.flatMap_map]

theorem linked_lines (linker : Linker) (call : Call) :
    (linker.lines call).flatMap Inline.linked = linker.targets call.references := by
  have houtput (fields : List Field) :
      ((fields.map linker.outputMarkup).flatMap fun field => field.lines.flatMap Inline.linked) =
        linker.targets (fields.flatMap Field.references) := by
    rw [List.flatMap_map, linker.targets_flatMap]
    simp only [linked_outputMarkup]
  have hinput (fields : List InputValue) :
      ((fields.map linker.inputMarkup).flatMap fun field => field.lines.flatMap Inline.linked) =
        linker.targets (fields.map InputValue.type) := by
    rw [List.flatMap_map, List.map_eq_flatMap, linker.targets_flatMap]
    simp only [linked_inputMarkup]
  cases call with
  | scalar type =>
      change (scalarLines type).flatMap Inline.linked = []
      rw [scalarLines, List.flatMap_append, linked_commentMarkup]
      rfl
  | object type =>
      change (linker.blockLines ..).flatMap _ = linker.targets (_ ++ _)
      rw [linked_blockLines, houtput, linker.targets_append]
  | interface type =>
      change (linker.blockLines ..).flatMap _ = linker.targets (_ ++ _)
      rw [linked_blockLines, houtput, linker.targets_append]
  | inputObject type =>
      change (linker.blockLines ..).flatMap _ = linker.targets (_ ++ _)
      rw [linked_blockLines, hinput, linker.targets_append]
  | union type =>
      change (linker.unionLines type).flatMap _ = linker.targets (type.possibleTypes.getD [])
      rw [Linker.unionLines, List.flatMap_append, linked_commentMarkup, List.flatMap_singleton,
        Inline.linked_append, Inline.linked_append _ (Inline.joined ..), linked_refs linker rfl]
      rfl
  | enumeration type =>
      change (enumLines type).flatMap Inline.linked = []
      rw [enumLines]
      simp only [List.flatMap_append, List.flatMap_assoc, linked_commentMarkup, linked_valueLines,
        List.flatMap_singleton]
      simp [Inline.identifier, word, Inline.linked]
  | directive directive =>
      change (linker.directiveLines directive).flatMap _ =
        linker.targets (directive.args.map InputValue.type)
      have hlocations : (directive.locations.map fun location =>
          Inline.span .literal (.text location)).flatMap Inline.linked = [] := by
        simp [List.flatMap_map, Inline.linked]
      have hrepeatable : (if directive.isRepeatable then space ++ word "repeatable"
          else Inline.empty).linked = [] := by
        split <;> rfl
      rw [Linker.directiveLines, List.flatMap_append, linked_commentMarkup, List.flatMap_singleton]
      simp only [Inline.linked_append, linked_argumentsMarkup, hrepeatable,
        Inline.linked_joined (Inline.linked_between (mark "|")), hlocations]
      simp [word, Inline.linked]

/-! ### Pages -/

/-- Every link leads to a name that has a document. -/
def LinksLead (plugin : Plugin (Except Failure)) : Prop :=
  ∀ name documents, plugin.documents name = .ok documents →
    ∀ document ∈ documents, ∀ target ∈ readLinks document.description,
      ∃ page, plugin.documents target = .ok [page]

/-- Where a page refers to a name of the schema, the last type of that name is of a kind that has
pages. -/
def RefersToPages (schema : Schema) : Prop :=
  ∀ name call, callFor? schema name = some call → ∀ ref ∈ call.references,
    ∀ type, Keyed.last? TypeDef.name ref.target schema.types = some type →
      type.kind.isDocumented = true

theorem isSome_ofType? (type : TypeDef) :
    (Call.ofType? type).isSome = type.kind.isDocumented := by
  rw [Call.ofType?]
  cases type.kind <;> rfl

theorem callFor?_of_last? {schema : Schema} {name : String} {type : TypeDef}
    (h : Keyed.last? TypeDef.name name schema.types = some type) :
    callFor? schema name = Call.ofType? type := by
  rw [callFor?, h]

/-- The names that a builder knows are those that have a last type. -/
theorem known_contains_iff {schema : Schema} {context : Context} {name : String} :
    (Builder.ofSchema schema context).linker.known.contains name = true ↔
      ∃ type, Keyed.last? TypeDef.name name schema.types = some type := by
  rw [← Option.isSome_iff_exists, ← Option.ne_none_iff_isSome, ne_eq, Keyed.last?_eq_none_iff]
  change (schema.types.map TypeDef.name).contains name = true ↔ _
  rw [List.contains_iff_mem, List.mem_map]
  simp

section Pages

variable {schema : Schema} {options : PluginOptions} {context : Context}

/-- A link of a page stands for a reference to a type of the schema. -/
theorem mem_links_iff {name target : String} {documents : List Document}
    (hdocuments : (Plugin.ofRenderer schema options
      (Builder.ofSchema schema context).renderer).documents name = .ok documents) :
    (∃ document ∈ documents, target ∈ readLinks document.description) ↔
      ∃ call, callFor? schema name = some call ∧
        (∃ ref ∈ call.references, ref.target = target) ∧
          ∃ type, Keyed.last? TypeDef.name target schema.types = some type := by
  rw [documents_builder] at hdocuments
  obtain rfl := Except.ok.inj hdocuments
  cases callFor? schema name with
  | none => simp
  | some call =>
      have htargets : target ∈ (Builder.ofSchema schema context).linker.targets call.references ↔
          (∃ ref ∈ call.references, ref.target = target) ∧
            ∃ type, Keyed.last? TypeDef.name target schema.types = some type := by
        rw [Linker.targets, List.mem_filter, List.mem_map, known_contains_iff]
      simpa [readLinks_wrap, linked_lines] using htargets

variable (options context) in
/-- The kind of the last type of a name tells whether the name has a document. -/
theorem documents_target {target : String} {type : TypeDef}
    (htype : Keyed.last? TypeDef.name target schema.types = some type) :
    let plugin := Plugin.ofRenderer schema options (Builder.ofSchema schema context).renderer
    if type.kind.isDocumented then ∃ page, plugin.documents target = .ok [page]
    else plugin.documents target = .ok [] := by
  intro plugin
  have hsome := isSome_ofType? type
  rw [documents_builder, callFor?_of_last? htype, ← hsome]
  cases Call.ofType? type with
  | none => rfl
  | some call => exact ⟨_, rfl⟩

/-- Links lead to pages exactly if pages refer to nothing else. -/
theorem linksLead_ofRenderer_iff :
    LinksLead (Plugin.ofRenderer schema options (Builder.ofSchema schema context).renderer) ↔
      RefersToPages schema := by
  constructor
  · intro hlead name call hcall ref href type htype
    have hdocuments := documents_builder (Builder.ofSchema schema context) schema options name
    obtain ⟨document, hdocument, hlink⟩ :=
      (mem_links_iff hdocuments).2 ⟨call, hcall, ⟨ref, href, rfl⟩, type, htype⟩
    obtain ⟨page, hpage⟩ := hlead name _ hdocuments document hdocument _ hlink
    have htarget := documents_target options context htype
    -- Of a kind without pages there would be no document, but the link has led to one.
    cases hkind : type.kind.isDocumented with
    | true => rfl
    | false =>
        rw [hkind] at htarget
        have hnone : Except.ok [] = Except.ok [page] := htarget.symm.trans hpage
        cases hnone
  · intro hrefers name documents hdocuments document hdocument target hlink
    obtain ⟨call, hcall, ⟨ref, href, rfl⟩, type, htype⟩ :=
      (mem_links_iff hdocuments).1 ⟨document, hdocument, hlink⟩
    have hkind := hrefers name call hcall ref href type htype
    have htarget := documents_target options context htype
    rw [hkind] at htarget
    exact htarget

end Pages

theorem create_eq_ok {schema : Schema} {host : HostOptions} {builder : Builder}
    {plugin : Plugin (Except Failure)}
    (h : Plugin.create schema host (Except.ok builder.renderer : Except Failure _) =
      .ok plugin) :
    ∃ options, PluginOptions.resolve host = .ok options ∧
      plugin = Plugin.ofRenderer schema options builder.renderer := by
  rw [Plugin.create] at h
  cases hoptions : PluginOptions.resolve host with
  | error failure =>
      rw [hoptions] at h
      cases h
  | ok options =>
      rw [hoptions] at h
      exact ⟨options, rfl, (Except.ok.inj h).symm⟩

/-- Nothing can refer to a type without a page if all types have one. -/
theorem refersToPages_of_isDocumented {schema : Schema}
    (h : ∀ type ∈ schema.types, type.kind.isDocumented = true) : RefersToPages schema := by
  intro name call _ ref _ type htype
  obtain ⟨_, before, after, htypes, _⟩ := Keyed.last?_eq_some_iff.1 htype
  exact h type (by simp [htypes])

/-- The links of a plugin for a schema lead to pages exactly if no page refers to a type of the
schema of a kind without pages. Each link leads to one document or to none: the kind of the last
type of its name tells which. -/
theorem linksLead_iff (schema : Schema) (host : HostOptions) (context : Context)
    (plugin : Plugin (Except Failure))
    (hplugin : Plugin.create schema host
      (Except.ok (Builder.ofSchema schema context).renderer : Except Failure _) = .ok plugin) :
    (LinksLead plugin ↔ RefersToPages schema) ∧
      ∀ name documents, plugin.documents name = .ok documents →
        ∀ document ∈ documents, ∀ target ∈ readLinks document.description,
          ∃ type, Keyed.last? TypeDef.name target schema.types = some type ∧
            if type.kind.isDocumented then ∃ page, plugin.documents target = .ok [page]
            else plugin.documents target = .ok [] := by
  obtain ⟨options, _, rfl⟩ := create_eq_ok hplugin
  refine ⟨linksLead_ofRenderer_iff, ?_⟩
  intro name documents hdocuments document hdocument target hlink
  obtain ⟨_, _, _, type, htype⟩ := (mem_links_iff hdocuments).1 ⟨document, hdocument, hlink⟩
  exact ⟨type, htype, documents_target options context htype⟩

/-- An object whose only field refers to a type of the given kind, and that type. -/
def pair (kind : Kind) : Schema where
  types := [
    { name := "Q"
      kind := .object
      fields := some [⟨"a", none, [], .named kind "Foo", false, none⟩] },
    { name := "Foo", kind := kind }]

def pairPlugin (kind : Kind) : Plugin (Except Failure) :=
  Plugin.ofRenderer (pair kind) {} (Builder.ofSchema (pair kind) {}).renderer

theorem create_pair (kind : Kind) :
    Plugin.create (pair kind) {} (Except.ok (Builder.ofSchema (pair kind) {}).renderer :
      Except Failure _) = .ok (pairPlugin kind) := rfl

theorem linksLead_pair_scalar : LinksLead (pairPlugin .scalar) := by
  refine (linksLead_iff (pair .scalar) {} {} _ (create_pair .scalar)).1.2 ?_
  refine refersToPages_of_isDocumented ?_
  simp [pair, Kind.isDocumented]

/-- A link to a type of a kind that only the host knows leads nowhere. -/
theorem link_to_operation :
    ∃ plugin document,
      Plugin.create (pair (.other "OPERATION")) {}
        (Except.ok (Builder.ofSchema (pair (.other "OPERATION")) {}).renderer :
          Except Failure _) = .ok plugin ∧
      plugin.documents "Q" = .ok [document] ∧ "Foo" ∈ readLinks document.description ∧
        plugin.documents "Foo" = .ok [] := by
  let schema := pair (.other "OPERATION")
  have hfirst : ∃ type, callFor? schema "Q" = some (.object type) ∧
      Call.references (.object type) = [.named (.other "OPERATION") "Foo"] := ⟨_, rfl, rfl⟩
  have hsecond : ∃ type, Keyed.last? TypeDef.name "Foo" schema.types = some type ∧
      type.kind.isDocumented = false := ⟨_, rfl, rfl⟩
  obtain ⟨first, hcall, hreferences⟩ := hfirst
  obtain ⟨second, hlast, hkind⟩ := hsecond
  have hdocuments := documents_builder (Builder.ofSchema schema {}) schema {} "Q"
  have hrefers : ∃ ref ∈ Call.references (.object first), ref.target = "Foo" := by
    rw [hreferences]
    exact ⟨_, List.mem_singleton_self _, rfl⟩
  have hlink := (mem_links_iff hdocuments).2 ⟨_, hcall, hrefers, second, hlast⟩
  have hnone := documents_target {} {} hlast
  rw [hkind] at hnone
  rw [hcall] at hdocuments hlink
  obtain ⟨document, hdocument, hlinked⟩ := hlink
  rw [Option.toList_some, List.map_singleton, List.mem_singleton] at hdocument
  subst hdocument
  exact ⟨_, _, create_pair _, hdocuments, hlinked, hnone⟩

end SchemaPages.Html
