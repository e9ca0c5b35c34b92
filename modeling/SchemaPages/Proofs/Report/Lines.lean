import Mathlib.Data.List.Induction
import SchemaPages.Proofs.Report.Leaves
import SchemaPages.Text.Cut

/-!
The lines of a report. Every scalar has a line that starts with its path, but a line feed in a
scalar is written as it is. So there are as many lines more than scalars as there are line feeds in
the scalars, and these lines do not start with a path.
-/

namespace SchemaPages.Report

open Json (Value Members)

/-! ### Paths on one line -/

structure IsLabel (key : String) : Prop where
  ne_empty : key ≠ ""
  one_line : '\n' ∉ key.toList

theorem mem_pathText {steps : List Step} {c : Char} (h : c ∈ (pathText steps).toList) :
    c ∈ ['.', '[', ']'] ∨ c.isDigit ∨ ∃ key, .member key ∈ steps ∧ c ∈ key.toList := by
  induction steps using List.reverseRecOn with
  | nil => simp [pathText] at h
  | append_singleton steps step ih =>
      have hbefore (hc : c ∈ (pathText steps).toList) : c ∈ ['.', '[', ']'] ∨ c.isDigit ∨
          ∃ key, .member key ∈ steps ++ [step] ∧ c ∈ key.toList := by
        rcases ih hc with hmark | hdigit | ⟨key, hkey, hc⟩
        · exact .inl hmark
        · exact .inr (.inl hdigit)
        · exact .inr (.inr ⟨key, List.mem_append_left _ hkey, hc⟩)
      rw [pathText_concat] at h
      cases step with
      | member key =>
          have hlast (hc : c ∈ key.toList) : c ∈ ['.', '[', ']'] ∨ c.isDigit ∨
              ∃ other, .member other ∈ steps ++ [.member key] ∧ c ∈ other.toList :=
            .inr (.inr ⟨key, by simp, hc⟩)
          rw [Step.extend, memberPath] at h
          split at h
          · exact hlast h
          · simp only [String.toList_append, List.mem_append] at h
            rcases h with (h | h) | h
            · exact hbefore h
            · obtain rfl := List.mem_singleton.1 h
              exact .inl (by decide)
            · exact hlast h
      | item index =>
          rw [Step.extend, itemPath] at h
          simp only [String.toList_append, List.mem_append] at h
          rcases h with ((h | h) | h) | h
          · exact hbefore h
          · obtain rfl := List.mem_singleton.1 h
            exact .inl (by decide)
          · have hindex : c ∈ Nat.toDigits 10 index := by simpa using h
            exact .inr (.inl (Nat.isDigit_of_mem_toDigits (by decide) (by decide) hindex))
          · obtain rfl := List.mem_singleton.1 h
            exact .inl (by decide)

/-- What is no mark of paths and no digit is in a path only if it is in one of the keys. -/
theorem not_mem_pathText {c : Char} (hc : c ∉ ['.', '[', ']'] ∧ ¬c.isDigit) {steps : List Step}
    (h : ∀ step ∈ steps, step.Spelled fun key => c ∉ key.toList) :
    c ∉ (pathText steps).toList := by
  intro hmem
  rcases mem_pathText hmem with hmark | hdigit | ⟨key, hkey, hmem⟩
  · exact hc.1 hmark
  · exact hc.2 hdigit
  · exact h _ hkey hmem

theorem pathText_ne_empty {steps : List Step} (hne : steps ≠ [])
    (h : ∀ step ∈ steps, step.Spelled IsLabel) : pathText steps ≠ "" := by
  obtain ⟨before, step, rfl⟩ := (List.eq_nil_or_concat' steps).resolve_left hne
  have hstep := h step (by simp)
  rw [pathText_concat]
  cases step with
  | member key =>
      rw [Step.extend, memberPath]
      split
      · exact hstep.ne_empty
      · simp
  | item index =>
      rw [Step.extend, itemPath]
      simp

/-! ### Lines -/

/-- The lines of a text. A text without characters has none. -/
def linesOf (s : String) : List String :=
  if s = "" then [] else (Text.cut '\n' s.toList).map String.ofList

theorem linesOf_intercalate {texts : List String} (h : ∀ text ∈ texts, text ≠ "") :
    linesOf ("\n".intercalate texts) =
      texts.flatMap fun text => (Text.cut '\n' text.toList).map String.ofList := by
  cases texts with
  | nil => rfl
  | cons text rest =>
      have hne : "\n".intercalate (text :: rest) ≠ "" := by
        intro hempty
        have htext := h text List.mem_cons_self
        cases rest <;> simp_all [String.intercalate_cons_cons]
      rw [linesOf, if_neg hne, String.toList_intercalate]
      change List.map _ (Text.cut '\n' (['\n'].intercalate _)) = _
      rw [Text.cut_intercalate (by simp), List.flatMap_map, List.map_flatMap]

namespace Leaf

/-- The line that a scalar is to have. -/
def line (leaf : Leaf) : String := pathText leaf.steps ++ ": " ++ bareText leaf.value

def chars (leaf : Leaf) : List Char := (bareText leaf.value).toList

/-- The lines that a scalar has: the path stands before the first of them. -/
def lines (leaf : Leaf) : List String :=
  match Text.cut '\n' leaf.chars with
  | [] => []
  | first :: rest =>
    (pathText leaf.steps ++ ": " ++ String.ofList first) :: rest.map String.ofList

theorem length_lines (leaf : Leaf) : leaf.lines.length = leaf.chars.count '\n' + 1 := by
  rw [← Text.length_cut, lines]
  cases Text.cut '\n' leaf.chars <;> simp

theorem lines_of_not_mem {leaf : Leaf} (h : '\n' ∉ leaf.chars) : leaf.lines = [leaf.line] := by
  rw [lines, Text.cut_of_not_mem h, line]
  simp [chars]

theorem map_ofList_cut_line {leaf : Leaf} (h : '\n' ∉ (pathText leaf.steps).toList) :
    (Text.cut '\n' leaf.line.toList).map String.ofList = leaf.lines := by
  have hpath : '\n' ∉ (pathText leaf.steps ++ ": ").toList := by simp [h]
  rw [lines, line, String.toList_append]
  change (Text.cut '\n' (_ ++ leaf.chars)).map String.ofList = _
  cases hcut : Text.cut '\n' leaf.chars with
  | nil => exact absurd hcut (Text.cut_ne_nil _ _)
  | cons first rest =>
      rw [Text.cut_append_of_not_mem hpath hcut, List.map_cons, String.ofList_append,
        String.ofList_toList]

end Leaf

/-- How the scalars of a value are written. The scalars are those that any way leads to, in the
order of the ways, each once. -/
structure WritesLeaves (v : Value) : Prop where
  mem_iff : ∀ leaf, leaf ∈ leaves v.sorted ↔
    follow leaf.steps v.sorted = some leaf.value ∧ leaf.value.IsScalar
  ordered : (leaves v.sorted).Pairwise fun leaf other => StepsBefore leaf.steps other.steps
  lines_eq : linesOf (flat v) = (leaves v.sorted).flatMap Leaf.lines
  length_eq : (linesOf (flat v)).length =
    (leaves v.sorted).length + ((leaves v.sorted).flatMap Leaf.chars).count '\n'
  /-- There is one line for every scalar just if there is no line feed in any of them. -/
  one_each_iff : linesOf (flat v) = (leaves v.sorted).map Leaf.line ↔
    ∀ leaf ∈ leaves v.sorted, '\n' ∉ leaf.chars

section Spelled

variable {text : String → Prop} {v : Value}

theorem flat_eq_intercalate (h : v.Spelled IsLabel text) (hv : ¬v.sorted.IsScalar) :
    flat v = "\n".intercalate ((leaves v.sorted).map Leaf.line) ∧
      ∀ leaf ∈ leaves v.sorted, '\n' ∉ (pathText leaf.steps).toList := by
  have hsteps : ∀ leaf ∈ leaves v.sorted,
      leaf.steps ≠ [] ∧ ∀ step ∈ leaf.steps, step.Spelled IsLabel := by
    intro leaf hleaf
    obtain ⟨hfollow, hscalar⟩ := (mem_leaves_iff v.inOrder_sorted).1 hleaf
    obtain ⟨step, rest, _, hsteps, -, -⟩ := exists_of_follow hv hscalar hfollow
    exact ⟨by simp [hsteps], (spelled_follow h.sorted hfollow).1⟩
  refine ⟨?_, fun leaf hleaf => not_mem_pathText (by decide) fun step hstep =>
    ((hsteps leaf hleaf).2 step hstep).imp fun _ hkey => hkey.one_line⟩
  have hflatten := flatten_eq v.sorted []
  change flatten "" v.sorted = (leaves v.sorted).map _ at hflatten
  rw [flat, hflatten]
  refine congrArg _ (List.map_congr_left fun leaf hleaf => ?_)
  obtain ⟨hne, hlabelled⟩ := hsteps leaf hleaf
  rw [leafLine, if_neg (pathText_ne_empty hne hlabelled), Leaf.line]

theorem linesOf_flat (h : v.Spelled IsLabel text) (hv : ¬v.sorted.IsScalar) :
    linesOf (flat v) = (leaves v.sorted).flatMap Leaf.lines := by
  obtain ⟨hflat, hpath⟩ := flat_eq_intercalate h hv
  have hne : ∀ text ∈ (leaves v.sorted).map Leaf.line, text ≠ "" := by
    intro text htext
    obtain ⟨leaf, -, rfl⟩ := List.mem_map.1 htext
    simp [Leaf.line]
  rw [hflat, linesOf_intercalate hne, List.flatMap_map, List.flatMap_def, List.flatMap_def]
  exact congrArg _ (List.map_congr_left fun leaf hleaf =>
    Leaf.map_ofList_cut_line (hpath leaf hleaf))

theorem length_flatMap_lines (found : List Leaf) :
    (found.flatMap Leaf.lines).length =
      found.length + (found.flatMap Leaf.chars).count '\n' := by
  induction found with
  | nil => rfl
  | cons leaf rest ih =>
      rw [List.flatMap_cons, List.length_append, ih, Leaf.length_lines, List.length_cons,
        List.flatMap_cons, List.count_append]
      omega

/-- A container whose keys can stand in paths is written scalar by scalar. -/
theorem writesLeaves_of_spelled (h : v.Spelled IsLabel text) (hv : ¬v.sorted.IsScalar) :
    WritesLeaves v where
  mem_iff _ := mem_leaves_iff v.inOrder_sorted
  ordered := pairwise_leavesAt v.inOrder_sorted []
  lines_eq := linesOf_flat h hv
  length_eq := by rw [linesOf_flat h hv, length_flatMap_lines]
  one_each_iff := by
    rw [linesOf_flat h hv]
    constructor
    · intro heq leaf hleaf hbreak
      -- A line feed makes one line too many.
      have hlength := congrArg List.length heq
      rw [length_flatMap_lines, List.length_map] at hlength
      have hcount : 0 < ((leaves v.sorted).flatMap Leaf.chars).count '\n' :=
        List.count_pos_iff.2 (List.mem_flatMap.2 ⟨leaf, hleaf, hbreak⟩)
      omega
    · intro hnone
      rw [List.flatMap_def, List.map_congr_left fun leaf hleaf =>
        Leaf.lines_of_not_mem (hnone leaf hleaf), ← List.flatMap_def, ← List.map_eq_flatMap]

end Spelled

end SchemaPages.Report
