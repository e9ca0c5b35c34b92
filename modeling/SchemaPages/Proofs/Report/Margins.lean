import SchemaPages.Proofs.Report.Distinct
import SchemaPages.Proofs.Report.Unstyled
import SchemaPages.Proofs.Text.Trimming

/-!
The margins of outlines without colours. What stands below a label is a block: lines that are
indented, whatever is written in them. So the lines of a container that are not indented are those
that start with the labels of its parts, one for each part in order. Taking white space off the end
of an outline can shorten such a line, but no further than to its label, and it leaves indented lines
indented or takes them away.
-/

namespace SchemaPages.Report

open Json (Value)
open Text (isBlank)

def ended (lines : List (List Char)) : List Char := lines.flatMap fun line => line ++ ['\n']

theorem ended_cons (line : List Char) (rest : List (List Char)) :
    ended (line :: rest) = line ++ '\n' :: ended rest := by
  simp [ended]

theorem ended_append (lines rest : List (List Char)) :
    ended (lines ++ rest) = ended lines ++ ended rest := List.flatMap_append

/-- The line starts at the margin of what stands below a label, or further to the right. -/
def IsIndented (line : List Char) : Prop := [' ', ' '] <+: line

theorem isIndented_margin (depth : Nat) (text : List Char) :
    IsIndented (margin (depth + 1) ++ text) := ⟨margin depth ++ text, rfl⟩

/-! ### Blocks -/

def IsBlock (text : List Char) : Prop :=
  ∃ lines, text = ended lines ∧ ∀ line ∈ lines, '\n' ∉ line ∧ IsIndented line

namespace IsBlock

theorem nil : IsBlock [] := ⟨[], rfl, List.forall_mem_nil _⟩

theorem append {text more : List Char} (h : IsBlock text) (h' : IsBlock more) :
    IsBlock (text ++ more) := by
  obtain ⟨lines, rfl, hlines⟩ := h
  obtain ⟨rest, rfl, hrest⟩ := h'
  exact ⟨lines ++ rest, (ended_append lines rest).symm, List.forall_mem_append.2 ⟨hlines, hrest⟩⟩

theorem flatMap {α : Type} {text : α → List Char} {items : List α}
    (h : ∀ a ∈ items, IsBlock (text a)) : IsBlock (items.flatMap text) := by
  induction items with
  | nil => exact nil
  | cons a rest ih =>
      obtain ⟨ha, hrest⟩ := List.forall_mem_cons.1 h
      exact ha.append (ih hrest)

theorem line (depth : Nat) {text : List Char} (h : '\n' ∉ text) :
    IsBlock (margin (depth + 1) ++ text ++ ['\n']) := by
  refine ⟨[margin (depth + 1) ++ text], by simp [ended], ?_⟩
  simp only [List.forall_mem_cons]
  refine ⟨⟨?_, isIndented_margin depth text⟩, List.forall_mem_nil _⟩
  rw [List.mem_append, not_or]
  exact ⟨fun hfeed => absurd (List.eq_of_mem_replicate hfeed) (by decide), h⟩

end IsBlock

theorem isBlock_textBlock (depth : Nat) (s : List Char) :
    IsBlock (textBlock false (depth + 1) s) :=
  .flatMap fun _ hline => .line depth (Text.lineFeed_not_mem_of_mem_lines hline)

/-! ### Entries -/

/-- The line that stands for a part of a container: it starts with the label, and if the part is a
container itself then nothing else is on it. -/
structure IsHead (part : String × Value) (line : List Char) : Prop where
  starts : part.1.toList <+: line
  alone : ¬part.2.IsScalar → line = part.1.toList

/-- The text is the line of a part and a block below it. -/
inductive IsEntry (part : String × Value) : List Char → Prop
  | mk {line block : List Char} : IsHead part line → '\n' ∉ line → IsBlock block →
      IsEntry part (line ++ '\n' :: block)

theorem oneLine_paintScalar {key : String → Prop} {v : Value} (hv : v.IsScalar)
    (h : v.Spelled key OneLine) : '\n' ∉ paintScalar false v := by
  have hbare : paintScalar false v = (bareText v).toList := by
    cases v <;> rfl
  rw [hbare]
  exact oneLine_bareText h hv

section Entry

variable {label : String} (hlabel : OneLine label) (depth : Nat)
include hlabel

theorem isEntry_below {v : Value} {block : List Char} (h : IsBlock block) :
    IsEntry (label, v) (label.toList ++ '\n' :: block) :=
  .mk ⟨List.prefix_refl _, fun _ => rfl⟩ hlabel h

theorem exists_beside {v : Value} (hv : v.IsScalar) (h : v.Spelled OneLine OneLine) :
    ∃ entry, margin depth ++ label.toList ++ ' ' :: paintScalar false v ++ ['\n'] =
      margin depth ++ entry ∧ IsEntry (label, v) entry := by
  have hline : '\n' ∉ label.toList ++ ' ' :: paintScalar false v := by
    simpa using ⟨hlabel, oneLine_paintScalar hv h⟩
  exact ⟨_, by simp, .mk ⟨List.prefix_append _ _, absurd hv⟩ hline .nil⟩

/-- An entry is the line of its label and a block, if what stands in a container is one. -/
theorem exists_outlineEntry {v : Value}
    (h : ¬v.IsScalar → IsBlock (outlineValue false (depth + 1) v)) :
    ∃ entry, outlineEntry false depth label.toList v = margin depth ++ entry ∧
      IsEntry (label, v) entry := by
  have hbelow {v : Value} {block : List Char} (hblock : IsBlock block) :
      ∃ entry, margin depth ++ label.toList ++ '\n' :: block = margin depth ++ entry ∧
        IsEntry (label, v) entry :=
    ⟨_, List.append_assoc _ _ _, isEntry_below hlabel hblock⟩
  cases v with
  | null => exact exists_beside hlabel depth trivial .null
  | bool b => exact exists_beside hlabel depth trivial (.bool b)
  | num n => exact exists_beside hlabel depth trivial (.num n)
  | str s =>
      rw [outlineEntry]
      split
      · exact hbelow (isBlock_textBlock depth s.toList)
      · rename_i hfeed
        exact exists_beside hlabel depth trivial (.str fun hmem => hfeed (by simpa using hmem))
  | arr items => exact hbelow (h id)
  | obj members => exact hbelow (h id)

end Entry

/-! ### Parts -/

def labelledParts : Value → List (String × Value)
  | .obj members => members
  | .arr items => items.map fun v => ("-", v)
  | _ => []

theorem labelledParts_sorted_ne_nil {v : Value} (h : labelledParts v ≠ []) :
    labelledParts v.sorted ≠ [] := by
  cases v with
  | arr items =>
      rw [Value.sorted_arr]
      simpa [labelledParts] using h
  | obj members =>
      obtain ⟨entry, rest, rfl⟩ := List.exists_cons_of_ne_nil h
      have hkey : entry.1 ∈ Keyed.keys
          (Keyed.insertAll [] ((entry :: rest).map Value.sortedMember)) :=
        Keyed.mem_keys_insertAll.2 (.inl List.mem_cons_self)
      rw [Value.sorted_obj, labelledParts]
      intro hnil
      rw [hnil] at hkey
      cases hkey
  | _ => exact absurd rfl h

theorem spelled_labelledParts {key text : String → Prop} {v : Value} (h : v.Spelled key text)
    (hdash : key "-") {part : String × Value} (hpart : part ∈ labelledParts v) :
    key part.1 ∧ part.2.Spelled key text := by
  cases h with
  | arr hitems =>
      obtain ⟨v, hv, rfl⟩ := List.mem_map.1 hpart
      exact ⟨hdash, hitems v hv⟩
  | obj hkeys hmembers => exact ⟨hkeys part hpart, hmembers part hpart⟩
  | _ => cases hpart

theorem outlineValue_eq {v : Value} (h : labelledParts v ≠ []) (depth : Nat) :
    outlineValue false depth v = (labelledParts v).flatMap fun part =>
      outlineEntry false depth part.1.toList part.2 := by
  cases v with
  | arr items =>
      have hne : ¬items.isEmpty := by simpa [labelledParts] using h
      have hdash : itemLabel false = "-".toList := by decide
      rw [outlineValue, if_neg hne, outlineItems_eq, labelledParts, List.flatMap_map, hdash]
  | obj members =>
      have hne : ¬members.isEmpty := by simpa [labelledParts] using h
      rw [outlineValue, if_neg hne, outlineMembers_eq]
      rfl
  | _ => exact absurd rfl h

/-- What stands in a container is a block if it is one for every part. -/
theorem isBlock_of_labelledParts {v : Value} (hv : ¬v.IsScalar) (depth : Nat)
    (h : ∀ part ∈ labelledParts v, OneLine part.1 ∧
      (¬part.2.IsScalar → IsBlock (outlineValue false (depth + 2) part.2))) :
    IsBlock (outlineValue false (depth + 1) v) := by
  by_cases hnone : labelledParts v = []
  · cases v with
    | arr items =>
        obtain rfl := List.map_eq_nil_iff.1 hnone
        exact .line depth (by decide)
    | obj members =>
        obtain rfl : members = [] := hnone
        exact .line depth (by decide)
    | _ => exact absurd trivial hv
  · rw [outlineValue_eq hnone]
    refine .flatMap fun part hpart => ?_
    obtain ⟨hlabel, hbelow⟩ := h part hpart
    obtain ⟨entry, hentry, hshape⟩ := exists_outlineEntry hlabel (depth + 1) hbelow
    rw [hentry]
    cases hshape with
    | @mk line block _ hline hblock =>
        have hsplit : margin (depth + 1) ++ (line ++ '\n' :: block) =
            margin (depth + 1) ++ line ++ ['\n'] ++ block := by simp
        rw [hsplit]
        exact (IsBlock.line depth hline).append hblock

theorem isBlock_outlineValue {v : Value} (h : v.Spelled OneLine fun _ => True) (hv : ¬v.IsScalar)
    (depth : Nat) : IsBlock (outlineValue false (depth + 1) v) := by
  induction h generalizing depth with
  | @arr items hitems ih =>
      refine isBlock_of_labelledParts hv depth fun part hpart => ?_
      obtain ⟨v, hmem, rfl⟩ := List.mem_map.1 hpart
      have hdash : OneLine "-" := by decide
      exact ⟨hdash, fun hcontainer => ih v hmem hcontainer (depth + 1)⟩
  | @obj members hkeys hmembers ih =>
      exact isBlock_of_labelledParts hv depth fun part hpart =>
        ⟨hkeys part hpart, fun hcontainer => ih part hpart hcontainer (depth + 1)⟩
  | _ => exact absurd trivial hv

/-! ### Lines without a margin -/

def isFlush (line : List Char) : Bool := line.head? != some ' '

/-- A key that is not empty, on one line, and without white space around it. -/
structure IsTight (key : String) : Prop extends IsLabel key where
  start_inked : ∀ c ∈ key.toList.head?, ¬isBlank c
  end_inked : ∀ c ∈ key.toList.getLast?, ¬isBlank c

theorem isTight_of_trim {key : String} (h : IsLabel key)
    (htrim : Text.trim key.toList = key.toList) : IsTight key := by
  have hne : Text.trim key.toList ≠ [] := by
    rw [htrim]
    exact fun hnil => h.ne_empty (String.toList_eq_nil_iff.1 hnil)
  obtain ⟨c, rest, hcons, hc⟩ := Text.exists_trim_eq_cons hne
  obtain ⟨before, d, hconcat, hd⟩ := Text.exists_trim_eq_concat hne
  refine ⟨h, ?_, ?_⟩
  · rw [← htrim, hcons]
    rintro _ ⟨⟩
    exact hc
  · rw [← htrim, hconcat, List.getLast?_concat]
    rintro _ ⟨⟩
    exact hd

/-- Every line is either the line of the next part or indented. -/
inductive Sections : List (String × Value) → List (List Char) → Prop
  | nil : Sections [] []
  | head {part : String × Value} {line : List Char} {parts : List (String × Value)}
      {lines : List (List Char)} :
      IsHead part line → Sections parts lines → Sections (part :: parts) (line :: lines)
  | indented {line : List Char} {parts : List (String × Value)} {lines : List (List Char)} :
      IsIndented line → Sections parts lines → Sections parts (line :: lines)

namespace IsIndented

variable {line : List Char} (h : IsIndented line)
include h

theorem not_isFlush : ¬isFlush line := by
  obtain ⟨rest, rfl⟩ := h
  exact Bool.not_eq_true _ ▸ rfl

theorem trimEnd (hne : Text.trimEnd line ≠ []) : IsIndented (Text.trimEnd line) := by
  obtain ⟨rest, rfl⟩ := h
  have hmargin : Text.trimEnd [' ', ' '] = [] := by decide
  rw [Text.trimEnd_append, hmargin] at hne ⊢
  split at hne
  · exact absurd rfl hne
  · rename_i hrest
    rw [if_neg hrest]
    exact List.prefix_append _ _

end IsIndented

namespace IsHead

variable {part : String × Value} {line : List Char} (h : IsHead part line) (hkey : IsTight part.1)
include h hkey

theorem isFlush : isFlush line := by
  obtain ⟨rest, rfl⟩ := h.starts
  have hstart := hkey.start_inked
  cases hlabel : part.1.toList with
  | nil => exact absurd (String.toList_eq_nil_iff.1 hlabel) hkey.ne_empty
  | cons c label =>
      rw [hlabel] at hstart
      have hc : c ≠ ' ' := Text.ne_of_not_isBlank (hstart c rfl) (by decide)
      simpa [Report.isFlush] using hc

theorem trimEnd : IsHead part (Text.trimEnd line) := by
  have hlabel : Text.trimEnd part.1.toList = part.1.toList :=
    Text.trimEnd_of_getLast? hkey.end_inked
  obtain ⟨rest, hrest⟩ := h.starts
  constructor
  · rw [← hrest, Text.trimEnd_append, hlabel]
    split
    · exact List.prefix_refl _
    · exact List.prefix_append _ _
  · intro hcontainer
    rw [h.alone hcontainer, hlabel]

theorem trimEnd_ne_nil : Text.trimEnd line ≠ [] := by
  intro hnil
  have hstarts := (h.trimEnd hkey).starts
  rw [hnil, List.prefix_nil, String.toList_eq_nil_iff] at hstarts
  exact hkey.ne_empty hstarts

end IsHead

/-! ### White space at the end -/

theorem trimEnd_ended_cons (line : List Char) (rest : List (List Char)) :
    Text.trimEnd (ended (line :: rest)) =
      if Text.trimEnd (ended rest) = [] then Text.trimEnd line
      else line ++ '\n' :: Text.trimEnd (ended rest) := by
  have hfeed : Text.trimEnd ['\n'] = [] := by decide
  have hsplit : ended (line :: rest) = line ++ ['\n'] ++ ended rest := by simp [ended]
  rw [hsplit, Text.trimEnd_append]
  split
  · rw [Text.trimEnd_append, if_pos hfeed]
  · simp

/-- If something is left of a text then its lines are left, the last of them without white space at
its end. -/
theorem cut_trimEnd_ended_cons {line : List Char} (hline : '\n' ∉ line)
    (rest : List (List Char)) :
    Text.cut '\n' (Text.trimEnd (ended (line :: rest))) =
      if Text.trimEnd (ended rest) = [] then [Text.trimEnd line]
      else line :: Text.cut '\n' (Text.trimEnd (ended rest)) := by
  rw [trimEnd_ended_cons]
  split
  · exact Text.cut_of_not_mem fun hfeed => hline ((Text.trimEnd_prefix_self line).subset hfeed)
  · rw [Text.cut_append, Text.cut_of_not_mem hline]
    rfl

/-- Sections are left as sections of the same parts. Nothing is left only if there are no parts. -/
theorem Sections.trimEnd {parts : List (String × Value)} {lines : List (List Char)}
    (h : Sections parts lines) (hkeys : ∀ part ∈ parts, IsTight part.1)
    (hlines : ∀ line ∈ lines, '\n' ∉ line) :
    if Text.trimEnd (ended lines) = [] then parts = []
    else Sections parts (Text.cut '\n' (Text.trimEnd (ended lines))) := by
  induction h with
  | nil => exact rfl
  | @head part line parts lines hhead _ ih =>
      obtain ⟨hkey, hkeys⟩ := List.forall_mem_cons.1 hkeys
      obtain ⟨hline, hlines⟩ := List.forall_mem_cons.1 hlines
      have hrest := ih hkeys hlines
      have hne : Text.trimEnd (ended (line :: lines)) ≠ [] := by
        rw [trimEnd_ended_cons]
        split
        · exact hhead.trimEnd_ne_nil hkey
        · simp
      rw [if_neg hne, cut_trimEnd_ended_cons hline]
      split
      · rename_i hnil
        rw [if_pos hnil] at hrest
        rw [hrest]
        exact .head (hhead.trimEnd hkey) .nil
      · rename_i hsome
        rw [if_neg hsome] at hrest
        exact .head hhead hrest
  | @indented line parts lines hindented _ ih =>
      obtain ⟨hline, hlines⟩ := List.forall_mem_cons.1 hlines
      have hrest := ih hkeys hlines
      rw [cut_trimEnd_ended_cons hline, trimEnd_ended_cons]
      by_cases hnil : Text.trimEnd (ended lines) = []
      · rw [if_pos hnil] at hrest
        rw [if_pos hnil, if_pos hnil, hrest]
        split
        · rfl
        · rename_i hne
          exact .indented (hindented.trimEnd hne) .nil
      · rw [if_neg hnil] at hrest
        rw [if_neg hnil, if_neg hnil, if_neg (by simp)]
        exact .indented hindented hrest

namespace Sections

variable {parts : List (String × Value)} {lines : List (List Char)}

theorem append_indented {block : List (List Char)} (h : ∀ line ∈ block, IsIndented line)
    (hlines : Sections parts lines) : Sections parts (block ++ lines) := by
  induction block with
  | nil => exact hlines
  | cons line block ih =>
      obtain ⟨hline, hblock⟩ := List.forall_mem_cons.1 h
      exact .indented hline (ih hblock)

/-- The lines that are not indented are those of the parts, in order. -/
theorem forall₂_filter (h : Sections parts lines) (hkeys : ∀ part ∈ parts, IsTight part.1) :
    List.Forall₂ IsHead parts (lines.filter isFlush) := by
  induction h with
  | nil => exact .nil
  | head hhead _ ih =>
      obtain ⟨hkey, hkeys⟩ := List.forall_mem_cons.1 hkeys
      rw [List.filter_cons_of_pos (hhead.isFlush hkey)]
      exact .cons hhead (ih hkeys)
  | indented hindented _ ih =>
      rw [List.filter_cons_of_neg hindented.not_isFlush]
      exact ih hkeys

theorem isIndented (h : Sections parts lines) (hkeys : ∀ part ∈ parts, IsTight part.1) :
    ∀ line ∈ lines, ¬isFlush line → IsIndented line := by
  induction h with
  | nil => exact List.forall_mem_nil _
  | head hhead _ ih =>
      obtain ⟨hkey, hkeys⟩ := List.forall_mem_cons.1 hkeys
      exact List.forall_mem_cons.2 ⟨absurd (hhead.isFlush hkey), ih hkeys⟩
  | indented hindented _ ih =>
      exact List.forall_mem_cons.2 ⟨fun _ => hindented, ih hkeys⟩

end Sections

theorem exists_sections {parts : List (String × Value)}
    (h : ∀ part ∈ parts, part.2.Spelled OneLine fun _ => True)
    (hkeys : ∀ part ∈ parts, IsTight part.1) :
    ∃ lines, (parts.flatMap fun part => outlineEntry false 0 part.1.toList part.2) = ended lines ∧
      (∀ line ∈ lines, '\n' ∉ line) ∧ Sections parts lines := by
  induction parts with
  | nil => exact ⟨[], rfl, List.forall_mem_nil _, .nil⟩
  | cons part rest ih =>
      obtain ⟨hpart, hrest⟩ := List.forall_mem_cons.1 h
      obtain ⟨hkey, hkeys⟩ := List.forall_mem_cons.1 hkeys
      obtain ⟨lines, htext, hlines, hsections⟩ := ih hrest hkeys
      obtain ⟨entry, hentry, hshape⟩ := exists_outlineEntry hkey.one_line 0
        fun hcontainer => isBlock_outlineValue hpart hcontainer 0
      cases hshape with
      | @mk line _ hhead hline hblock =>
          obtain ⟨block, rfl, hbelow⟩ := hblock
          refine ⟨line :: (block ++ lines), ?_, ?_, ?_⟩
          · rw [List.flatMap_cons, hentry, htext, ended_cons, ended_append]
            simp [margin]
          · refine List.forall_mem_cons.2 ⟨hline, List.forall_mem_append.2 ⟨?_, hlines⟩⟩
            exact fun line hmem => (hbelow line hmem).1
          · exact .head hhead (.append_indented (fun line hmem => (hbelow line hmem).2) hsections)

theorem sections_outline {v : Value} (h : v.Spelled OneLine fun _ => True)
    (hparts : labelledParts v ≠ []) (hkeys : ∀ part ∈ labelledParts v.sorted, IsTight part.1) :
    Sections (labelledParts v.sorted) (Text.cut '\n' (outline false v).toList) := by
  have hne := labelledParts_sorted_ne_nil hparts
  have hdash : OneLine "-" := by decide
  obtain ⟨lines, htext, hlines, hsections⟩ := exists_sections
    (fun part hpart => (spelled_labelledParts h.sorted hdash hpart).2) hkeys
  have htrimmed := hsections.trimEnd hkeys hlines
  rw [outline, String.toList_ofList, outlineValue_eq hne, htext]
  split at htrimmed
  · exact absurd htrimmed hne
  · exact htrimmed

/-- Containers have nothing but their labels on their lines. -/
theorem lines_eq_of_containers {parts : List (String × Value)} {lines : List (List Char)}
    (h : List.Forall₂ IsHead parts lines) (hparts : ∀ part ∈ parts, ¬part.2.IsScalar) :
    lines = parts.map fun part => part.1.toList := by
  induction h with
  | nil => rfl
  | cons hhead _ ih =>
      obtain ⟨hpart, hrest⟩ := List.forall_mem_cons.1 hparts
      rw [hhead.alone hpart, ih hrest, List.map_cons]

end SchemaPages.Report
