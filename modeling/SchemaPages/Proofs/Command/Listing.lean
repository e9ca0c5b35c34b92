import SchemaPages.Proofs.Command.Rendering
import SchemaPages.Proofs.Html.Links
import SchemaPages.Proofs.Keyed.Order
import SchemaPages.Proofs.Text.ByteOrder

/-!
The names of a schema and their documents. A listing describes the schema alone: it has every name
once and in order, each with what the last type of that name says. `listEntities_offers` joins it
to rendering: the names that a listing offers are those that have documents.
-/

namespace SchemaPages.Command

open Introspection (Schema Operation TypeDef Directive)
open Options (HostOptions PluginOptions)
open Report (TypeEntry EntityList RenderedEntity)

def HasRoot (schema : Schema) (name : String) (operation : Operation) : Prop :=
  ∃ root, schema.rootType operation = some root ∧ root.name = name

/-- The operation has a root type of the name, and none of those before it has. -/
def IsFirstRoot (schema : Schema) (name : String) (operation : Operation) : Prop :=
  HasRoot schema name operation ∧
    ∃ before after, [.query, .mutation, .subscription] = before ++ operation :: after ∧
      ∀ earlier ∈ before, ¬HasRoot schema name earlier

/-- What an entry of a listing says is true of the last type of its name. -/
structure Describes (schema : Schema) (entry : TypeEntry) (type : TypeDef) : Prop where
  last : Keyed.last? TypeDef.name entry.name schema.types = some type
  kind : entry.kind = type.kind.tag
  renderable : entry.renderable = type.kind.isDocumented
  root : ∀ text, entry.root = some text ↔
    ∃ operation : Operation, IsFirstRoot schema entry.name operation ∧ operation.text = text

/-- The listing has the names of the schema, each once, in the order of their bytes. -/
structure Lists (schema : Schema) (list : EntityList) : Prop where
  types_increasing : list.types.Pairwise fun a b => Text.bytes a.name < Text.bytes b.name
  types_names : ∀ name,
    (∃ entry ∈ list.types, entry.name = name) ↔ ∃ type ∈ schema.types, type.name = name
  types_described : ∀ entry ∈ list.types, ∃ type, Describes schema entry type
  directives_increasing : list.directives.Pairwise fun a b => Text.bytes a < Text.bytes b
  directives_names : ∀ name,
    name ∈ list.directives ↔ ∃ directive ∈ schema.directives, directive.name = name

/-- The listing of types and of names of directives that are taken in any order. -/
def sortedListing (schema : Schema) (types : List TypeDef) (directives : List String) :
    EntityList where
  types := (types.map (typeEntry schema)).mergeSort fun a b => decide (a.name ≤ b.name)
  directives := directives.mergeSort fun a b => decide (a ≤ b)

/-- The listing says that the name has documents: it is a type that can be rendered, or no type at
all but a directive. -/
def Offers (list : EntityList) (name : String) : Prop :=
  (∃ entry ∈ list.types, entry.name = name ∧ entry.renderable = true) ∨
    (∀ entry ∈ list.types, entry.name ≠ name) ∧ name ∈ list.directives

theorem rootOperation_eq_some_iff (schema : Schema) (name : String) (operation : Operation) :
    schema.rootOperation name = some operation ↔ IsFirstRoot schema name operation := by
  have hroot (operation : Operation) :
      ((schema.rootType operation).any (·.name == name)) = true ↔
        HasRoot schema name operation := by
    simp [HasRoot, Option.any_eq_true]
  rw [Schema.rootOperation, List.find?_eq_some_iff_append, IsFirstRoot, hroot]
  simp only [Bool.not_eq_true', Bool.eq_false_iff, ne_eq, hroot]

/-! ### The listing of a schema -/

def typeIndex (schema : Schema) : Keyed TypeDef := Keyed.ofList TypeDef.name schema.types

def directiveIndex (schema : Schema) : Keyed Directive :=
  Keyed.ofList Directive.name schema.directives

def listing (schema : Schema) : EntityList where
  types := (typeIndex schema).map fun entry => typeEntry schema entry.2
  directives := Keyed.keys (directiveIndex schema)

theorem listEntities_eq (schema : Schema) : listEntities schema = .ok (listing schema) := by
  rw [listEntities, createPlugin_eq]
  rfl

theorem mem_typeIndex {schema : Schema} {name : String} {type : TypeDef} :
    (name, type) ∈ typeIndex schema ↔
      Keyed.last? TypeDef.name name schema.types = some type := by
  rw [typeIndex, Keyed.mem_iff_get? (Keyed.ordered_ofList _ _), Keyed.get?_ofList]

theorem mem_listing_types {schema : Schema} {entry : TypeEntry} :
    entry ∈ (listing schema).types ↔
      ∃ type, Keyed.last? TypeDef.name entry.name schema.types = some type ∧
        entry = typeEntry schema type := by
  constructor
  · intro h
    obtain ⟨⟨name, type⟩, hmem, rfl⟩ := List.mem_map.1 h
    have hlast := mem_typeIndex.1 hmem
    obtain ⟨hname, -⟩ := Keyed.last?_eq_some_iff.1 hlast
    exact ⟨type, by rw [typeEntry, hname]; exact hlast, rfl⟩
  · rintro ⟨type, hlast, hentry⟩
    rw [hentry]
    exact List.mem_map.2 ⟨(entry.name, type), mem_typeIndex.2 hlast, rfl⟩

theorem map_name_listing (schema : Schema) :
    (listing schema).types.map TypeEntry.name = Keyed.keys (typeIndex schema) := by
  rw [listing, Keyed.keys, List.map_map]
  refine List.map_congr_left fun entry hentry => ?_
  obtain ⟨hname, -⟩ := Keyed.last?_eq_some_iff.1 (mem_typeIndex.1 hentry)
  exact hname

theorem typeNames_increasing (schema : Schema) :
    ((listing schema).types.map TypeEntry.name).Pairwise (· < ·) := by
  rw [map_name_listing]
  exact Keyed.ordered_ofList _ _

theorem describes_typeEntry {schema : Schema} {type : TypeDef}
    (h : Keyed.last? TypeDef.name type.name schema.types = some type) :
    Describes schema (typeEntry schema type) type where
  last := h
  kind := rfl
  renderable := rfl
  root text := by
    simp only [typeEntry, Option.map_eq_some_iff, rootOperation_eq_some_iff]

theorem lists_listing (schema : Schema) : Lists schema (listing schema) where
  types_increasing := by
    have h := List.pairwise_map.1 (typeNames_increasing schema)
    exact h.imp fun hlt => (Text.bytes_lt_iff _ _).2 hlt
  types_names name := by
    have h : name ∈ (listing schema).types.map TypeEntry.name ↔
        ∃ type ∈ schema.types, type.name = name := by
      rw [map_name_listing]
      exact Keyed.mem_keys_ofList
    simpa using h
  types_described entry hentry := by
    obtain ⟨type, hlast, rfl⟩ := mem_listing_types.1 hentry
    exact ⟨type, describes_typeEntry hlast⟩
  directives_increasing := by
    have h : (Keyed.keys (directiveIndex schema)).Pairwise (· < ·) := Keyed.ordered_ofList _ _
    exact h.imp fun hlt => (Text.bytes_lt_iff _ _).2 hlt
  directives_names name := Keyed.mem_keys_ofList

/-- The order in which the indexes are gone through plays no part. -/
theorem sortedListing_of_perm {schema : Schema} {types : List TypeDef} {directives : List String}
    (htypes : types.Perm ((typeIndex schema).map (·.2)))
    (hdirectives : directives.Perm ((directiveIndex schema).map (·.1))) :
    sortedListing schema types directives = listing schema := by
  have hperm : (types.map (typeEntry schema)).Perm (listing schema).types := by
    have h := htypes.map (typeEntry schema)
    rwa [List.map_map] at h
  have hnames : ((Keyed.keys (directiveIndex schema)).map id).Pairwise (· < ·) := by
    rw [List.map_id]
    exact Keyed.ordered_ofList _ _
  have hfirst := Keyed.mergeSort_of_perm (typeNames_increasing schema) hperm
  have hsecond := Keyed.mergeSort_of_perm hnames hdirectives
  rw [sortedListing, hfirst]
  exact congrArg _ hsecond

/-! ### Listing and rendering -/

theorem isSome_callFor?_iff (schema : Schema) (name : String) :
    (Page.callFor? schema name).isSome = true ↔ Offers (listing schema) name := by
  have hlists := lists_listing schema
  have hnone : (∀ entry ∈ (listing schema).types, entry.name ≠ name) ↔
      Keyed.last? TypeDef.name name schema.types = none := by
    rw [Keyed.last?_eq_none_iff]
    have h := not_congr (hlists.types_names name)
    simpa using h
  cases hlast : Keyed.last? TypeDef.name name schema.types with
  | none =>
      have hdirective : (Keyed.last? Directive.name name schema.directives).isSome = true ↔
          name ∈ (listing schema).directives := by
        rw [hlists.directives_names, ← Option.ne_none_iff_isSome, ne_eq, Keyed.last?_eq_none_iff]
        simp
      have habsent := hnone.2 hlast
      rw [Page.callFor?, hlast, Option.isSome_map, hdirective, Offers]
      constructor
      · exact fun h => Or.inr ⟨habsent, h⟩
      · rintro (⟨entry, hentry, hname, -⟩ | ⟨-, h⟩)
        · exact absurd hname (habsent entry hentry)
        · exact h
  | some type =>
      obtain ⟨hname, -⟩ := Keyed.last?_eq_some_iff.1 hlast
      have hentry : typeEntry schema type ∈ (listing schema).types :=
        mem_listing_types.2 ⟨type, by rw [typeEntry, hname]; exact hlast, rfl⟩
      rw [Html.callFor?_of_last? hlast, Html.isSome_ofType?]
      constructor
      · exact fun h => Or.inl ⟨_, hentry, hname, h⟩
      · rintro (⟨entry, hmem, hentryName, hrenderable⟩ | ⟨habsent, -⟩)
        · obtain ⟨other, hother, rfl⟩ := mem_listing_types.1 hmem
          rw [hentryName, hlast] at hother
          cases hother
          exact hrenderable
        · exact absurd hname (habsent _ hentry)

/-- The listing of a schema describes it, in whatever order its indexes are gone through, and it
offers exactly the names that have documents, whatever the options of the host. -/
theorem listEntities_offers (schema : Schema) :
    ∃ plugin list, createPlugin schema {} = .ok plugin ∧ listEntities schema = .ok list ∧
      Lists schema list ∧
      (∀ types directives, types.Perm (plugin.types.map (·.2)) →
        directives.Perm (plugin.directives.map (·.1)) →
          sortedListing schema types directives = list) ∧
      ∀ host options, PluginOptions.resolve host = .ok options → ∀ name,
        ∃ documents, renderNames schema host [name] = .ok [RenderedEntity.mk name documents] ∧
          (documents ≠ [] ↔ Offers list name) := by
  refine ⟨pluginWith schema {} {}, listing schema, ?_, listEntities_eq schema,
    lists_listing schema, ?_, ?_⟩
  · rw [createPlugin_eq]
    rfl
  · intro types directives htypes hdirectives
    exact sortedListing_of_perm htypes hdirectives
  · intro host options hoptions name
    refine ⟨pages schema host options name, renderNames_of_ok hoptions [name], ?_⟩
    rw [← isSome_callFor?_iff, pages]
    cases Page.callFor? schema name <;> simp

/-- A directive that a type of a kind without pages hides, and one that is its own. -/
def clashing : Schema where
  types := [
    { name := "Date", kind := .scalar },
    { name := "Mystery", kind := .other "OPERATION" },
    { name := "Date", kind := .enumeration }]
  directives := [{ name := "skip" }, { name := "Mystery" }]

theorem renderNames_clashing :
    PluginOptions.resolve {} = .ok {} ∧
      renderNames clashing {} ["Mystery"] = .ok [RenderedEntity.mk "Mystery" []] ∧
        ∃ documents, renderNames clashing {} ["skip"] = .ok [RenderedEntity.mk "skip" documents] ∧
          documents ≠ [] := by
  obtain ⟨_, list, -, hlist, -, -, hoffers⟩ := listEntities_offers clashing
  rw [listEntities_eq] at hlist
  obtain rfl := Except.ok.inj hlist
  obtain ⟨hidden, hmystery, hempty⟩ := hoffers {} {} rfl "Mystery"
  obtain ⟨documents, hskip, hsome⟩ := hoffers {} {} rfl "skip"
  have hnot : ¬Offers (listing clashing) "Mystery" := by
    unfold Offers
    decide
  have hoffered : Offers (listing clashing) "skip" := by
    unfold Offers
    decide
  have hnil : hidden = [] := not_not.1 fun h => hnot (hempty.1 h)
  exact ⟨rfl, hnil ▸ hmystery, documents, hskip, hsome.2 hoffered⟩

end SchemaPages.Command
