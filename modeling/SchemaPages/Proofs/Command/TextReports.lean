import SchemaPages.Proofs.Command.Rendering
import SchemaPages.Proofs.Files.Work
import SchemaPages.Proofs.Report.Distinct

/-!
The reports of the commands as text. Their keys can stand in paths, so all line feeds come from the
scalars. Every document has some, since a line of a fragment ends with one: a report with a document
has more lines than scalars.
-/

namespace SchemaPages.Command

open Files (Path Tree Work)
open Html (Inline Linker)
open Introspection (Schema)
open Json (Value)
open Options (HostOptions)
open Page (Document Call)
open Report (EntityList RenderedEntity AssetReport Step Leaf WritesLeaves encodeRendered follow
  leaves flat linesOf writesLeaves_of_spelled readable_entityList readable_encodeRendered
  readable_assetReport)

/-- The value is what a command reports. -/
inductive IsReport : Value → Prop
  | listed {schema : Schema} {list : EntityList} :
      listEntities schema = .ok list → IsReport list.encode
  | rendered {schema : Schema} {host : HostOptions} {names : List String}
      {entities : List RenderedEntity} :
      renderNames schema host names = .ok entities → IsReport (encodeRendered entities)
  | collected {schema : Schema} {host : HostOptions} {out : Option Path} {tree after : Tree}
      {report : AssetReport} :
      Work.Gives (collectAssets schema host out) tree (.ok report) after → IsReport report.encode

theorem IsReport.writesLeaves {v : Value} (h : IsReport v) : WritesLeaves v := by
  cases h with
  | listed _ => exact writesLeaves_of_spelled (readable_entityList.labelled _) id
  | rendered _ => exact writesLeaves_of_spelled (readable_encodeRendered.labelled _) id
  | collected _ => exact writesLeaves_of_spelled (readable_assetReport.labelled _) id

/-! ### Line feeds in documents -/

theorem lines_ne_nil (linker : Linker) (call : Call) : linker.lines call ≠ [] := by
  cases call <;>
    simp [Linker.lines, Html.scalarLines, Linker.blockLines, Linker.unionLines, Html.enumLines,
      Linker.directiveLines]

theorem lineFeed_mem_wrap (title : String) {lines : List Inline} (h : lines ≠ []) :
    '\n' ∈ (Document.wrap title (Html.writeLines lines)).description.toList := by
  obtain ⟨line, rest, rfl⟩ := List.exists_cons_of_ne_nil h
  change _ ∈ (Page.envelopeOpen ++ Html.writeLines (line :: rest) ++ Page.envelopeClose).toList
  rw [Html.writeLines_cons, Html.writeLine]
  simp

/-- Every document that is made has a line feed in its description. -/
theorem lineFeed_mem_description {schema : Schema} {host : HostOptions} {names : List String}
    {rendered : List RenderedEntity} (h : renderNames schema host names = .ok rendered)
    {entity : RenderedEntity} (hentity : entity ∈ rendered) {document : Document}
    (hdocument : document ∈ entity.documents) : '\n' ∈ document.description.toList := by
  obtain ⟨options, -, rfl⟩ := exists_of_renderNames h
  obtain ⟨name, -, rfl⟩ := List.mem_map.1 hentity
  obtain ⟨call, -, rfl⟩ := List.mem_map.1 hdocument
  exact lineFeed_mem_wrap _ (lines_ne_nil _ call)

/-! ### The scalars of rendered names -/

theorem follow_name (entity : RenderedEntity) :
    follow [.member "name"] entity.encode.sorted = some (.str entity.name) := by
  rw [RenderedEntity.encode, Report.follow_sorted_member (by simp)]
  rfl

theorem follow_documents (entity : RenderedEntity) (steps : List Step) :
    follow (.member "documents" :: steps) entity.encode.sorted =
      follow steps (Value.arr (entity.documents.map Document.encode)).sorted := by
  rw [RenderedEntity.encode, Report.follow_sorted_member (by simp)]
  rfl

theorem follow_description (document : Document) :
    follow [.member "description"] document.encode.sorted = some (.str document.description) := by
  rw [Document.encode, Report.follow_sorted_member (by simp)]
  rfl

/-- Without documents, a name is the only scalar that is rendered for it. -/
theorem value_of_follow {entity : RenderedEntity} (h : entity.documents = []) {steps : List Step}
    {v : Value} (hv : v.IsScalar) (hfollow : follow steps entity.encode.sorted = some v) :
    v = .str entity.name := by
  obtain ⟨step, rest, child, rfl, hchild, hrest⟩ := Report.exists_of_follow id hv hfollow
  cases step with
  | item index => cases hchild
  | member key =>
      have hget : entity.encode.sorted.get? key = some child := hchild
      rw [RenderedEntity.encode, Value.get?_sorted_obj (by simp), Value.get?, Keyed.get?_cons,
        Keyed.get?_cons, h] at hget
      split at hget
      · cases hget
        exact ((Report.follow_scalar (v := .str entity.name) trivial).1 hrest).2
      · split at hget
        · cases hget
          obtain ⟨other, _, _, -, hnone, -⟩ := Report.exists_of_follow id hv hrest
          cases other <;> cases hnone
        · cases hget

/-- No scalar has a line feed just if no name has one and there are no documents. -/
theorem oneLine_encodeRendered_iff {schema : Schema} {host : HostOptions} {names : List String}
    {rendered : List RenderedEntity} (h : renderNames schema host names = .ok rendered) :
    (∀ leaf ∈ leaves (encodeRendered rendered).sorted, '\n' ∉ leaf.chars) ↔
      ∀ entity ∈ rendered, '\n' ∉ entity.name.toList ∧ entity.documents = [] := by
  have hmem (leaf : Leaf) := (IsReport.rendered h).writesLeaves.mem_iff leaf
  have hentity {index : Nat} {entity : RenderedEntity} (hindex : rendered[index]? = some entity)
      (steps : List Step) : follow (.item index :: steps) (encodeRendered rendered).sorted =
        follow steps entity.encode.sorted := by
    rw [encodeRendered, Report.follow_sorted_item, List.getElem?_map, hindex]
    rfl
  constructor
  · -- The name is a scalar, and so is the description of the first document.
    intro hnone entity hmember
    obtain ⟨index, hindex⟩ := List.getElem?_of_mem hmember
    have hstr {steps : List Step} {text : String}
        (hfollow : follow steps entity.encode.sorted = some (.str text)) : '\n' ∉ text.toList :=
      hnone ⟨.item index :: steps, .str text⟩
        ((hmem _).2 ⟨(hentity hindex steps).trans hfollow, trivial⟩)
    refine ⟨hstr (follow_name entity), ?_⟩
    cases hdocuments : entity.documents with
    | nil => rfl
    | cons document rest =>
        have hdescription : follow [.member "documents", .item 0, .member "description"]
            entity.encode.sorted = some (.str document.description) := by
          rw [follow_documents, Report.follow_sorted_item, hdocuments]
          exact follow_description document
        have hdocument : document ∈ entity.documents := by simp [hdocuments]
        exact absurd (lineFeed_mem_description h hmember hdocument) (hstr hdescription)
  · intro hall leaf hleaf
    obtain ⟨hfollow, hscalar⟩ := (hmem leaf).1 hleaf
    obtain ⟨step, rest, child, hsteps, hchild, -⟩ := Report.exists_of_follow id hscalar hfollow
    rw [hsteps] at hfollow
    cases step with
    | member key => cases hchild
    | item index =>
        cases hindex : rendered[index]? with
        | none =>
            rw [encodeRendered, Value.sorted_arr, Step.child?, List.getElem?_map,
              List.getElem?_map, hindex] at hchild
            cases hchild
        | some entity =>
            obtain ⟨hname, hdocuments⟩ := hall entity (List.mem_of_getElem? hindex)
            have hvalue := value_of_follow hdocuments hscalar
              ((hentity hindex rest).symm.trans hfollow)
            rw [Leaf.chars, hvalue]
            exact hname

/-- The text of a report has the lines of its scalars: for each scalar a line with the path that
leads to it, followed by those lines that line feeds in the scalar make. Of rendered names there is
one line for every scalar just if no name has a line feed and none has a document. -/
theorem flat_report (v : Value) (h : IsReport v) :
    WritesLeaves v ∧
    ∀ schema host names rendered, renderNames schema host names = .ok rendered →
      v = encodeRendered rendered →
        (linesOf (flat v) = (leaves v.sorted).map Leaf.line ↔
          ∀ entity ∈ rendered, '\n' ∉ entity.name.toList ∧ entity.documents = []) := by
  refine ⟨h.writesLeaves, ?_⟩
  rintro schema host names rendered hrendered rfl
  rw [h.writesLeaves.one_each_iff, oneLine_encodeRendered_iff hrendered]

def single : Schema where
  types := [{ name := "Date", kind := .scalar }]

theorem flat_unknown :
    renderNames single {} ["Time", "a: b"] = .ok [⟨"Time", []⟩, ⟨"a: b", []⟩] ∧
      (leaves (encodeRendered [⟨"Time", []⟩, ⟨"a: b", []⟩]).sorted).length = 2 ∧
        linesOf (flat (encodeRendered [⟨"Time", []⟩, ⟨"a: b", []⟩])) =
          (leaves (encodeRendered [⟨"Time", []⟩, ⟨"a: b", []⟩]).sorted).map Leaf.line := by
  have h : renderNames single {} ["Time", "a: b"] = .ok [⟨"Time", []⟩, ⟨"a: b", []⟩] :=
    renderNames_of_ok rfl ["Time", "a: b"]
  have hreport := flat_report _ (.rendered h)
  refine ⟨h, rfl, (hreport.2 _ _ _ _ h rfl).2 ?_⟩
  exact List.forall_mem_cons.2 ⟨⟨by decide, rfl⟩, List.forall_mem_singleton.2 ⟨by decide, rfl⟩⟩

def singleRendered : List RenderedEntity := [⟨"Date", pages single {} {} "Date"⟩]

/-- The one document of the scalar has a name, a title and a description, which take more than three
lines. -/
theorem flat_single :
    renderNames single {} ["Date"] = .ok singleRendered ∧
      (leaves (encodeRendered singleRendered).sorted).length = 3 ∧
        3 < (linesOf (flat (encodeRendered singleRendered))).length := by
  have h : renderNames single {} ["Date"] = .ok singleRendered := renderNames_of_ok rfl ["Date"]
  have hlength : (leaves (encodeRendered singleRendered).sorted).length = 3 := rfl
  have hsome : ¬∀ leaf ∈ leaves (encodeRendered singleRendered).sorted, '\n' ∉ leaf.chars :=
    fun hnone => List.cons_ne_nil _ _
      ((oneLine_encodeRendered_iff h).1 hnone _ (List.mem_singleton_self _)).2
  have hcount : 0 <
      ((leaves (encodeRendered singleRendered).sorted).flatMap Leaf.chars).count '\n' := by
    rw [List.count_pos_iff, List.mem_flatMap]
    by_contra hnone
    exact hsome fun leaf hleaf hbreak => hnone ⟨leaf, hleaf, hbreak⟩
  refine ⟨h, hlength, ?_⟩
  rw [(IsReport.rendered h).writesLeaves.length_eq, hlength]
  omega

end SchemaPages.Command
