import Mathlib.Data.List.Forall2
import SchemaPages.Proofs.Command.Rendering
import SchemaPages.Proofs.Html.Anchors
import SchemaPages.Proofs.Json.Decoding
import SchemaPages.Proofs.Json.Values

/-!
What a document shows of the options of its host: the title, and the base address in the addresses
of its links. Two hosts whose options resolve get the same documents up to these, so hosts that
differ in nothing else get the same documents.
-/

namespace SchemaPages.Command

open Introspection (Schema)
open Json (Value Decoder)
open Options (HostOptions PluginOptions PluginOverride Context pluginKey hostKey)
open Page (Document Call)
open Report (RenderedEntity)

/-! ### What a host says -/

/-- The base address of a host. It is the default unless the section of the host gives a text. -/
inductive HasBaseUrl (host : HostOptions) : String → Prop
  | given {members : Json.Members} {url : String} :
      host.get? hostKey = some (.obj members) →
        Keyed.get? "baseUrl" members = some (.str url) → HasBaseUrl host url
  | default :
      (∀ members url, host.get? hostKey = some (.obj members) →
        Keyed.get? "baseUrl" members ≠ some (.str url)) → HasBaseUrl host "./"

/-- The hosts differ only in sections and fields that no document shows: sections that are neither
that of the plugin nor that of the host itself, and fields that are neither the title nor the base
address. -/
inductive Alike : HostOptions → HostOptions → Prop
  | refl (host : HostOptions) : Alike host host
  | symm {host other : HostOptions} : Alike host other → Alike other host
  | trans {host middle other : HostOptions} :
      Alike host middle → Alike middle other → Alike host other
  | withSection (host : HostOptions) {key : String} (value : Value) :
      key ≠ pluginKey → key ≠ hostKey → Alike host (host.withSection key value)
  | setField {host : HostOptions} {key name : String} (value : Value) :
      (∀ items, host.get? key ≠ some (.arr items)) → (key, name) ≠ (pluginKey, "documentTitle") →
        (key, name) ≠ (hostKey, "baseUrl") → Alike host (host.setField key name value)

theorem hasBaseUrl_iff {host : HostOptions} {url : String} :
    HasBaseUrl host url ↔ (Context.ofHost host).baseUrl = url := by
  rw [Context.ofHost]
  constructor
  · rintro (⟨hsection, hmember⟩ | hnone)
    · rw [hsection, Option.bind_some, Value.get?, hmember]
    · split
      · rename_i url hurl
        obtain ⟨v, hsection, hmember⟩ := Option.bind_eq_some_iff.1 hurl
        cases v with
        | obj members => exact absurd hmember (hnone members url hsection)
        | _ => cases hmember
      · rfl
  · rintro rfl
    split
    · rename_i url hurl
      obtain ⟨v, hsection, hmember⟩ := Option.bind_eq_some_iff.1 hurl
      cases v with
      | obj members => exact .given hsection hmember
      | _ => cases hmember
    · rename_i hnone
      refine .default fun members url hsection hmember => hnone url ?_
      rw [hsection]
      exact hmember

def titleValue? (options : Value) : Option Value :=
  (PluginOverride.shape.fields? options).bind (·.value? "documentTitle")

def shownTitle (host : HostOptions) : String :=
  match (host.get? pluginKey).bind titleValue? with
  | some (.str title) => title
  | _ => ({} : PluginOptions).documentTitle

theorem documentTitle_of_resolve {host : HostOptions} {options : PluginOptions}
    (h : PluginOptions.resolve host = .ok options) : options.documentTitle = shownTitle host := by
  rw [shownTitle]
  rw [PluginOptions.resolve] at h
  split at h
  · rename_i hsection
    cases h
    rw [hsection]
    rfl
  · rename_i hsection
    cases h
    rw [hsection]
    rfl
  · rename_i v hsection
    split at h
    · rename_i override hdecode
      cases h
      obtain ⟨fields, hfields, hread⟩ := Json.RecordShape.exists_of_decode hdecode
      simp only [Json.Reading.seq_eq_read, Json.Reading.map_eq_read] at hread
      obtain ⟨_, flag, ⟨title, htitle, rfl⟩, -, rfl⟩ := hread
      rw [hsection, Option.bind_some, titleValue?, hfields, Option.bind_some]
      change title.getD _ = _
      rw [(Decoder.takes_text.optional_eq_read_iff.1 htitle).2]
      cases fields.value? "documentTitle" with
      | none => rfl
      | some found => cases found <;> rfl
    · cases h

/-! ### Changes that are not shown -/

/-- What is read from a value is the member of one name. Where there are neither members nor items
nothing is read. -/
structure ReadsMember (name : String) (read : Value → Option Value) : Prop where
  members : ∀ members, read (.obj members) = Keyed.get? name members
  scalar : ∀ v, v.IsScalar → read v = none

theorem readsMember_titleValue? : ReadsMember "documentTitle" titleValue? where
  members _ := rfl
  scalar v hv := by
    cases v with
    | obj members => exact hv.elim
    | arr items => exact hv.elim
    | _ => rfl

theorem readsMember_get? (name : String) : ReadsMember name (·.get? name) where
  members _ := rfl
  scalar v hv := by
    cases v with
    | obj members => exact hv.elim
    | _ => rfl

theorem ReadsMember.bind_get?_setField {read : Value → Option Value} {name : String}
    (h : ReadsMember name read) {host : HostOptions} {key field : String} (value : Value)
    (harray : ∀ items, host.get? key ≠ some (.arr items)) {sectionKey : String}
    (hne : (key, field) ≠ (sectionKey, name)) :
    ((host.setField key field value).get? sectionKey).bind read =
      (host.get? sectionKey).bind read := by
  rw [HostOptions.setField, HostOptions.get?_withSection]
  split
  · rename_i hkey
    subst hkey
    have hfield : name ≠ field := fun h => hne (by rw [h])
    rw [Option.bind_some, h.members, Keyed.get?_insert, if_neg hfield, HostOptions.fields]
    cases hsection : host.get? sectionKey with
    | none => rfl
    | some v =>
        rw [Option.bind_some]
        cases v with
        | obj members => exact (h.members members).symm
        | arr items => exact absurd hsection (harray items)
        | _ => exact (h.scalar _ (by trivial)).symm
  · rfl

theorem Alike.shown_eq {host other : HostOptions} (h : Alike host other) :
    shownTitle host = shownTitle other ∧ Context.ofHost host = Context.ofHost other := by
  induction h with
  | refl _ => exact ⟨rfl, rfl⟩
  | symm _ ih => exact ⟨ih.1.symm, ih.2.symm⟩
  | trans _ _ ih ih' => exact ⟨ih.1.trans ih'.1, ih.2.trans ih'.2⟩
  | withSection host value hplugin hhost =>
      rw [shownTitle, shownTitle, Context.ofHost, Context.ofHost, HostOptions.get?_withSection,
        if_neg (Ne.symm hplugin), HostOptions.get?_withSection, if_neg (Ne.symm hhost)]
      exact ⟨rfl, rfl⟩
  | setField value harray htitle hurl =>
      rw [shownTitle, shownTitle, Context.ofHost, Context.ofHost,
        readsMember_titleValue?.bind_get?_setField value harray htitle,
        (readsMember_get? "baseUrl").bind_get?_setField value harray hurl]
      exact ⟨rfl, rfl⟩

/-! ### Documents for two hosts -/

/-- The document has the title, and every link of it leads from the base address to the page of the
name that it shows. -/
structure Suits (options : PluginOptions) (baseUrl : String) (document : Document) : Prop where
  title_eq : document.title = options.documentTitle
  leads : ∀ anchor ∈ Html.readAnchors document.description,
    anchor.address = some (baseUrl ++ Text.lowerCase anchor.text ++ ".doc.html")

/-- Each document suits its own host, and without the addresses of the links they are the same. -/
structure Corresponds (options others : PluginOptions) (baseUrl otherUrl : String)
    (document other : Document) : Prop where
  suits : Suits options baseUrl document
  other_suits : Suits others otherUrl other
  blank_eq : Html.blankAddresses document.description = Html.blankAddresses other.description

def descriptions (entity : RenderedEntity) : List String :=
  entity.documents.map Document.description

theorem known_contains_builder (schema : Schema) (host other : HostOptions) (name : String) :
    (builder schema host).linker.known.contains name =
      (builder schema other).linker.known.contains name := rfl

def page (schema : Schema) (host : HostOptions) (options : PluginOptions) (call : Call) :
    Document :=
  Document.wrap options.documentTitle (Html.writeLines ((builder schema host).linker.lines call))

theorem suits_page (schema : Schema) (host : HostOptions) (options : PluginOptions) (call : Call) :
    Suits options (Context.ofHost host).baseUrl (page schema host options call) where
  title_eq := rfl
  leads anchor hanchor := by
    -- Leading the links of its own lines to its own addresses changes nothing.
    have hlines := Html.map_readdress_lines (known_contains_builder schema host host) call
    rw [page, Html.readAnchors_wrap, ← hlines, List.flatMap_map, List.mem_flatMap] at hanchor
    obtain ⟨line, -, hanchor⟩ := hanchor
    exact Html.address_of_mem_anchors hanchor

theorem corresponds_page (schema : Schema) (host other : HostOptions)
    (options others : PluginOptions) (call : Call) :
    Corresponds options others (Context.ofHost host).baseUrl (Context.ofHost other).baseUrl
      (page schema host options call) (page schema other others call) where
  suits := suits_page schema host options call
  other_suits := suits_page schema other others call
  blank_eq := by
    have hlines := Html.map_readdress_lines (known_contains_builder schema host other) call
    rw [page, page, Html.blankAddresses_wrap, Html.blankAddresses_wrap, ← hlines, List.map_map]
    simp only [Function.comp_def, Html.Inline.readdress_readdress]
    rfl

theorem lines_of_baseUrl (schema : Schema) {host other : HostOptions}
    (h : (Context.ofHost host).baseUrl = (Context.ofHost other).baseUrl) (call : Call) :
    (builder schema host).linker.lines call = (builder schema other).linker.lines call :=
  Html.lines_congr (known_contains_builder schema host other) h call

theorem pages_of_baseUrl (schema : Schema) {host other : HostOptions} (options : PluginOptions)
    (h : (Context.ofHost host).baseUrl = (Context.ofHost other).baseUrl) :
    pages schema host options = pages schema other options := by
  funext name
  simp only [pages, lines_of_baseUrl schema h]

/-- The options of the plugin have their part in the titles only. -/
theorem pages_of_title (schema : Schema) (host : HostOptions) {options others : PluginOptions}
    (h : options.documentTitle = others.documentTitle) :
    pages schema host options = pages schema host others := by
  funext name
  simp only [pages, h]

theorem descriptions_pages (schema : Schema) (host : HostOptions) (options others : PluginOptions)
    (name : String) :
    (pages schema host options name).map Document.description =
      (pages schema host others name).map Document.description := by
  simp only [pages, List.map_map]
  rfl

/-- The documents of names for two hosts whose options resolve correspond one by one: they differ
in their titles and in the addresses of their links only, and these are what the options and the
base address of the host say. So hosts with one base address get the same descriptions, hosts with
one title besides get the same documents, and hosts that are alike have both in common. -/
theorem renderNames_hosts (schema : Schema) (names : List String) {host other : HostOptions}
    {options others : PluginOptions} (h : PluginOptions.resolve host = .ok options)
    (h' : PluginOptions.resolve other = .ok others) :
    ∃ rendered rendered' baseUrl otherUrl,
      renderNames schema host names = .ok rendered ∧
      renderNames schema other names = .ok rendered' ∧
      HasBaseUrl host baseUrl ∧ HasBaseUrl other otherUrl ∧
      List.Forall₂ (fun entity entity' => entity.name = entity'.name ∧
        List.Forall₂ (Corresponds options others baseUrl otherUrl) entity.documents
          entity'.documents) rendered rendered' ∧
      (baseUrl = otherUrl → rendered.map descriptions = rendered'.map descriptions) ∧
      (baseUrl = otherUrl → options.documentTitle = others.documentTitle → rendered = rendered') ∧
      (Alike host other → rendered = rendered') := by
  have hsame (hurl : (Context.ofHost host).baseUrl = (Context.ofHost other).baseUrl)
      (htitle : options.documentTitle = others.documentTitle) :
      pages schema host options = pages schema other others := by
    rw [pages_of_baseUrl schema options hurl, pages_of_title schema other htitle]
  refine ⟨_, _, _, _, renderNames_of_ok h names, renderNames_of_ok h' names,
    hasBaseUrl_iff.2 rfl, hasBaseUrl_iff.2 rfl, ?_, ?_, ?_, ?_⟩
  · rw [List.forall₂_map_left_iff, List.forall₂_map_right_iff, List.forall₂_same]
    refine fun name _ => ⟨rfl, ?_⟩
    change List.Forall₂ _ (pages schema host options name) (pages schema other others name)
    rw [pages, pages]
    cases Page.callFor? schema name with
    | none => exact .nil
    | some call => exact .cons (corresponds_page schema host other options others call) .nil
  · intro hurl
    rw [List.map_map, List.map_map, pages_of_baseUrl schema options hurl]
    exact List.map_congr_left fun name _ => descriptions_pages schema other options others name
  · intro hurl htitle
    rw [hsame hurl htitle]
  · intro halike
    obtain ⟨htitle, hcontext⟩ := halike.shown_eq
    rw [← documentTitle_of_resolve h, ← documentTitle_of_resolve h'] at htitle
    rw [hsame (congrArg Context.baseUrl hcontext) htitle]

def dated : Schema where
  types := [
    { name := "Date", kind := .scalar },
    { name := "Query", kind := .object,
      fields := some [⟨"today", none, [], .named .scalar "Date", false, none⟩] }]

/-- A host with a title, and with a base address that has a quote and brackets. -/
def quoting : HostOptions where
  sections := [
    (hostKey, .obj [("baseUrl", .str "\"><b>&/")]),
    (pluginKey, .obj [("documentTitle", .str "Type"), ("enableAssets", .bool false)])]

/-- No part of such a base address can be seen but in the addresses of links. -/
theorem renderNames_quoting :
    PluginOptions.resolve {} = .ok {} ∧ PluginOptions.resolve quoting = .ok ⟨"Type", false⟩ ∧
      ∃ rendered rendered',
        renderNames dated {} ["Query"] = .ok rendered ∧
        renderNames dated quoting ["Query"] = .ok rendered' ∧
        List.Forall₂ (fun entity entity' => entity.name = entity'.name ∧
          List.Forall₂ (Corresponds {} ⟨"Type", false⟩ "./" "\"><b>&/") entity.documents
            entity'.documents) rendered rendered' := by
  have h : PluginOptions.resolve {} = .ok {} := rfl
  have h' : PluginOptions.resolve quoting = .ok ⟨"Type", false⟩ := rfl
  obtain ⟨rendered, rendered', baseUrl, otherUrl, hrendered, hrendered', hurl, hurl', hall, -⟩ :=
    renderNames_hosts dated ["Query"] h h'
  obtain rfl := hasBaseUrl_iff.1 hurl
  obtain rfl := hasBaseUrl_iff.1 hurl'
  exact ⟨h, h', rendered, rendered', hrendered, hrendered', hall⟩

end SchemaPages.Command
