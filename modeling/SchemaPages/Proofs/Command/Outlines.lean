import SchemaPages.Proofs.Command.Rendering
import SchemaPages.Proofs.Report.Margins

/-!
The lines of outlines that are not indented. No string can add such a line or take one away, so the
outline of a container has as many of them as the container has parts, and the outline of rendered
names has as many as there are names.
-/

namespace SchemaPages.Command

open Introspection (Schema)
open Json (Value)
open Options (HostOptions)
open Report (RenderedEntity IsTight OneLine encodeRendered isFlush isTight_of_trim labelledParts
  lines_eq_of_containers outline readable_encodeRendered sections_outline spelled_labelledParts)

theorem isTight_dash : IsTight "-" := isTight_of_trim ⟨by decide, by decide⟩ (by decide)

theorem renderNames_length {schema : Schema} {host : HostOptions} {names : List String}
    {rendered : List RenderedEntity} (h : renderNames schema host names = .ok rendered) :
    rendered.length = names.length := by
  obtain ⟨options, -, rfl⟩ := exists_of_renderNames h
  exact List.length_map _

theorem labelledParts_encodeRendered (rendered : List RenderedEntity) :
    labelledParts (encodeRendered rendered).sorted =
      rendered.map fun entity => ("-", entity.encode.sorted) := by
  simp [encodeRendered, Value.sorted_arr, labelledParts]

theorem not_isScalar_sorted_encode (entity : RenderedEntity) :
    ¬entity.encode.sorted.IsScalar := by
  rw [RenderedEntity.encode, Value.sorted_obj]
  exact id

/-- Rendered entities are containers, so just their dashes are not indented. -/
theorem flush_outline_encodeRendered {rendered : List RenderedEntity} (h : rendered ≠ []) :
    (Text.cut '\n' (outline false (encodeRendered rendered)).toList).filter isFlush =
      List.replicate rendered.length ['-'] := by
  have honeLine : (encodeRendered rendered).Spelled OneLine fun _ => True :=
    (readable_encodeRendered.labelled rendered).imp (fun _ hkey => hkey.one_line) fun _ hs => hs
  have hparts : labelledParts (encodeRendered rendered) ≠ [] := by
    simpa [encodeRendered, labelledParts] using h
  have hkeys : ∀ part ∈ labelledParts (encodeRendered rendered).sorted, IsTight part.1 := by
    rw [labelledParts_encodeRendered]
    exact List.forall_mem_map.2 fun _ _ => isTight_dash
  have hcontainers : ∀ part ∈ labelledParts (encodeRendered rendered).sorted,
      ¬part.2.IsScalar := by
    rw [labelledParts_encodeRendered]
    exact List.forall_mem_map.2 fun entity _ => not_isScalar_sorted_encode entity
  have hheads := (sections_outline honeLine hparts hkeys).forall₂_filter hkeys
  have hdash : "-".toList = ['-'] := by decide
  rw [lines_eq_of_containers hheads hcontainers, labelledParts_encodeRendered, List.map_map,
    ← List.map_const', ← hdash]
  rfl

/-- If the keys in a container are not empty, on one line and without white space around them then
the lines of its outline that are not indented are one for each part in order, each starting with the
label of the part, whatever the strings are. All other lines are indented by two blanks at least. So
the outline of rendered names has a line with just a dash for every name, and no other line that is
not indented. -/
theorem unindented_outline :
    (∀ v : Value, (v.Spelled IsTight fun _ => True) → labelledParts v ≠ [] →
      List.Forall₂ (fun part line => part.1.toList <+: line) (labelledParts v.sorted)
        ((Text.cut '\n' (outline false v).toList).filter isFlush) ∧
      ∀ line ∈ Text.cut '\n' (outline false v).toList, ¬isFlush line → [' ', ' '] <+: line) ∧
    ∀ (schema : Schema) (host : HostOptions) (names : List String)
      (rendered : List RenderedEntity), renderNames schema host names = .ok rendered →
      names ≠ [] →
        (Text.cut '\n' (outline false (encodeRendered rendered)).toList).filter isFlush =
          List.replicate names.length ['-'] := by
  constructor
  · intro v hv hparts
    have honeLine : v.Spelled OneLine fun _ => True :=
      hv.imp (fun _ hkey => hkey.one_line) fun _ hs => hs
    have hkeys : ∀ part ∈ labelledParts v.sorted, IsTight part.1 := fun part hpart =>
      (spelled_labelledParts hv.sorted isTight_dash hpart).1
    have hsections := sections_outline honeLine hparts hkeys
    exact ⟨(hsections.forall₂_filter hkeys).imp fun _ _ hhead => hhead.starts,
      hsections.isIndented hkeys⟩
  · intro schema host names rendered h hnames
    have hlength := renderNames_length h
    rw [← hlength]
    apply flush_outline_encodeRendered
    rintro rfl
    exact hnames (List.length_eq_zero_iff.1 hlength.symm)

/-- Keys and labels written in the strings. -/
def lookalike : Value :=
  .obj [("name", .str "x\nname y\n  - z"), ("tags", .arr [.str "", .str "\n\n"])]

theorem isTight_lookalike : lookalike.Spelled IsTight fun _ => True := by
  have hname : IsTight "name" := isTight_of_trim ⟨by decide, by decide⟩ (by decide)
  have htags : IsTight "tags" := isTight_of_trim ⟨by decide, by decide⟩ (by decide)
  have hblank : (Value.arr [.str "", .str "\n\n"]).Spelled IsTight fun _ => True :=
    .arr (by simpa using ⟨.str trivial, .str trivial⟩)
  exact .obj (by simpa using ⟨hname, htags⟩) (by simpa using ⟨.str trivial, hblank⟩)

theorem unindented_lookalike :
    ((lookalike.Spelled IsTight fun _ => True) ∧ labelledParts lookalike ≠ [] ∧
      List.Forall₂ (fun part line => part.1.toList <+: line) (labelledParts lookalike.sorted)
        ((Text.cut '\n' (outline false lookalike).toList).filter isFlush)) ∧
      ∃ rendered, renderNames {} {} ["a\n- b", "- c"] = .ok rendered ∧
        (Text.cut '\n' (outline false (encodeRendered rendered)).toList).filter isFlush =
          [['-'], ['-']] := by
  have hnonempty : labelledParts lookalike ≠ [] := List.cons_ne_nil _ _
  have hrendered : renderNames {} {} ["a\n- b", "- c"] = .ok _ := renderNames_of_ok rfl _
  exact ⟨⟨isTight_lookalike, hnonempty,
      (unindented_outline.1 lookalike isTight_lookalike hnonempty).1⟩,
    _, hrendered, unindented_outline.2 _ _ _ _ hrendered (List.cons_ne_nil _ _)⟩

end SchemaPages.Command
