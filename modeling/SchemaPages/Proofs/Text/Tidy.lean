import SchemaPages.Proofs.Text.Trimming
import SchemaPages.Text.Lines

/-!
Tidy lines. The lines of a trimmed text, each with the white space at its end taken off, say what
can be said of them without the text: none has a line feed or white space at its end, the first
starts with a character that is no white space, and the last is not empty. Lines that are so are
the tidy lines of the text that is made by joining them. Which of the line feeds of a text have a
carriage return before them makes no difference.
-/

namespace SchemaPages.Text

/-- The lines of a text without the white space around it or at the end of a line. -/
def tidyLines (s : List Char) : List (List Char) := (lines (trim s)).map trimEnd

/-- Lines as they are left of a text. -/
structure IsTidy (lines : List (List Char)) : Prop where
  one_line : ∀ line ∈ lines, '\n' ∉ line
  end_inked : ∀ line ∈ lines, ∀ c ∈ line.getLast?, ¬isBlank c
  start_inked : ∀ line ∈ lines.head?, ∃ c ∈ line.head?, ¬isBlank c
  last_ne_nil : ∀ line ∈ lines.getLast?, line ≠ []

/-! ### Lines and parts -/

theorem trimEnd_dropReturn (line : List Char) : trimEnd (dropReturn line) = trimEnd line := by
  rw [dropReturn]
  split
  · rename_i h
    obtain ⟨before, rfl⟩ := List.getLast?_eq_some_iff.1 h
    rw [List.dropLast_concat, trimEnd_append, if_pos (by decide)]
  · rfl

/-- If something stands in the last part then the lines are the parts, but for the white space at
their ends. -/
theorem map_trimEnd_linesOfParts {parts : List (List Char)}
    (h : ∀ part ∈ parts.getLast?, part ≠ []) :
    (linesOfParts parts).map trimEnd = parts.map trimEnd := by
  induction parts with
  | nil => rfl
  | cons part more ih =>
      cases more with
      | nil =>
          have hpart : ¬part.isEmpty := by simpa using h
          rw [linesOfParts, if_neg hpart]
      | cons other more =>
          rw [List.getLast?_cons_cons] at h
          change trimEnd (dropReturn part) :: (linesOfParts (other :: more)).map trimEnd = _
          rw [trimEnd_dropReturn, ih h, List.map_cons (l := other :: more)]

theorem tidyLines_of_trim_eq_nil {s : List Char} (h : trim s = []) : tidyLines s = [] := by
  rw [tidyLines, h]
  rfl

theorem tidyLines_of_trim_ne_nil {s : List Char} (h : trim s ≠ []) :
    tidyLines s = (cut '\n' (trim s)).map trimEnd := by
  rw [tidyLines, lines, map_trimEnd_linesOfParts]
  obtain ⟨rest, c, hconcat, hc⟩ := exists_trim_eq_concat h
  have hbreak : c ≠ '\n' := by
    rintro rfl
    exact hc (by decide)
  obtain ⟨before, part, hcut⟩ := exists_cut_concat hbreak rest
  rw [hconcat, hcut, List.getLast?_concat]
  rintro _ ⟨⟩
  simp

theorem tidyLines_eq_nil_iff {s : List Char} : tidyLines s = [] ↔ ∀ c ∈ s, isBlank c := by
  rw [← trim_eq_nil_iff]
  refine ⟨fun h => ?_, tidyLines_of_trim_eq_nil⟩
  by_contra hne
  rw [tidyLines_of_trim_ne_nil hne, List.map_eq_nil_iff] at h
  exact cut_ne_nil _ _ h

theorem length_tidyLines {s : List Char} (h : tidyLines s ≠ []) :
    (tidyLines s).length = (trim s).count '\n' + 1 := by
  have hne : trim s ≠ [] := fun hnil => h (tidyLines_of_trim_eq_nil hnil)
  rw [tidyLines_of_trim_ne_nil hne, List.length_map, length_cut]

/-- The lines show all characters of the text that are no white space. -/
theorem flatMap_inked_tidyLines (s : List Char) : (tidyLines s).flatMap inked = inked s := by
  by_cases h : trim s = []
  · rw [tidyLines_of_trim_eq_nil h, ← inked_trim s, h]
    rfl
  · calc (tidyLines s).flatMap inked
        = ((cut '\n' (trim s)).map trimEnd).flatMap inked := by rw [tidyLines_of_trim_ne_nil h]
      _ = (cut '\n' (trim s)).flatMap inked := by simp only [List.flatMap_map, inked_trimEnd]
      _ = inked (cut '\n' (trim s)).flatten := List.filter_flatten.symm
      _ = inked (trim s) := by rw [flatten_cut, inked_filter_ne (by decide)]
      _ = inked s := inked_trim s

/-! ### The shape of tidy lines -/

theorem isTidy_nil : IsTidy [] where
  one_line := List.forall_mem_nil _
  end_inked := List.forall_mem_nil _
  start_inked := by simp
  last_ne_nil := by simp

theorem isTidy_tidyLines (s : List Char) : IsTidy (tidyLines s) := by
  by_cases h : trim s = []
  · rw [tidyLines_of_trim_eq_nil h]
    exact isTidy_nil
  · rw [tidyLines_of_trim_ne_nil h]
    constructor
    · intro line hline
      obtain ⟨part, hpart, rfl⟩ := List.mem_map.1 hline
      exact fun hbreak => not_mem_of_mem_cut hpart ((trimEnd_prefix_self part).subset hbreak)
    · intro line hline c hc
      obtain ⟨part, -, rfl⟩ := List.mem_map.1 hline
      exact not_isBlank_of_getLast?_trimEnd hc
    · -- The first line starts as the text does.
      obtain ⟨c, rest, hcons, hc⟩ := exists_trim_eq_cons h
      obtain ⟨part, more, hcut⟩ := exists_cut_cons (ne_of_not_isBlank hc (d := '\n') (by decide)) rest
      rw [hcons, hcut, List.map_cons, trimEnd_cons_of_not hc]
      rintro _ ⟨⟩
      exact ⟨c, rfl, hc⟩
    · -- The last line ends as the text does.
      obtain ⟨rest, c, hconcat, hc⟩ := exists_trim_eq_concat h
      obtain ⟨before, part, hcut⟩ :=
        exists_cut_concat (ne_of_not_isBlank hc (d := '\n') (by decide)) rest
      rw [hconcat, hcut, List.map_append, List.map_singleton, List.getLast?_concat,
        trimEnd_concat_of_not hc]
      rintro _ ⟨⟩
      simp

/-! ### Joining lines -/

theorem intercalate_ne_nil {mark : Char} {lines : List (List Char)} (hne : lines ≠ [])
    (hlast : ∀ line ∈ lines.getLast?, line ≠ []) : [mark].intercalate lines ≠ [] := by
  match lines with
  | [] => exact absurd rfl hne
  | [line] => simpa using hlast
  | line :: other :: rest => simp [List.intercalate_cons_cons]

/-- If no line ends with white space and the last is not empty then the joined lines do not end
with white space. -/
theorem trimEnd_intercalate {lines : List (List Char)} (hend : ∀ line ∈ lines, trimEnd line = line)
    (hlast : ∀ line ∈ lines.getLast?, line ≠ []) :
    trimEnd (['\n'].intercalate lines) = ['\n'].intercalate lines := by
  induction lines with
  | nil => rfl
  | cons line rest ih =>
      cases rest with
      | nil => simpa using hend
      | cons other rest =>
          rw [List.getLast?_cons_cons] at hlast
          have hrest := ih (List.forall_mem_cons.1 hend).2 hlast
          have hne : ['\n'].intercalate (other :: rest) ≠ [] :=
            intercalate_ne_nil (List.cons_ne_nil other rest) hlast
          rw [List.intercalate_cons_cons, trimEnd_append, hrest, if_neg hne]

namespace IsTidy

variable {lines : List (List Char)}

theorem trimEnd_line (h : IsTidy lines) {line : List Char} (hline : line ∈ lines) :
    trimEnd line = line :=
  trimEnd_of_getLast? (h.end_inked line hline)

theorem trim_intercalate (h : IsTidy lines) :
    trim (['\n'].intercalate lines) = ['\n'].intercalate lines := by
  have hend := trimEnd_intercalate (fun _ => h.trimEnd_line) h.last_ne_nil
  match lines with
  | [] => rfl
  | line :: rest =>
      obtain ⟨c, hc, hblank⟩ := h.start_inked line rfl
      obtain ⟨line, rfl⟩ := List.head?_eq_some_iff.1 hc
      have hstart : ∃ more, ['\n'].intercalate ((c :: line) :: rest) = c :: more := by
        cases rest with
        | nil => exact ⟨line, by simp⟩
        | cons other rest => exact ⟨_, List.intercalate_cons_cons⟩
      obtain ⟨more, hmore⟩ := hstart
      rw [trim, hmore, List.dropWhile_cons_of_neg hblank, ← hmore, hend]

/-- Tidy lines are found again in the text that is made by joining them. -/
theorem tidyLines_intercalate (h : IsTidy lines) : tidyLines (['\n'].intercalate lines) = lines := by
  by_cases hnil : lines = []
  · rw [hnil]
    rfl
  · have hne : trim (['\n'].intercalate lines) ≠ [] := by
      rw [h.trim_intercalate]
      exact intercalate_ne_nil hnil h.last_ne_nil
    have hparts : ∀ part ∈ lines, cut '\n' part = [part] := fun part hpart =>
      cut_of_not_mem (h.one_line part hpart)
    rw [tidyLines_of_trim_ne_nil hne, h.trim_intercalate, cut_intercalate hnil, List.flatMap_def,
      List.map_congr_left hparts, ← List.flatMap_def, List.flatMap_singleton',
      List.map_congr_left fun _ => h.trimEnd_line, List.map_id']

end IsTidy

/-! ### Carriage returns -/

def withoutReturns : List Char → List Char
  | '\r' :: '\n' :: rest => '\n' :: withoutReturns rest
  | c :: rest => c :: withoutReturns rest
  | [] => []

theorem withoutReturns_eq_nil_iff {s : List Char} : withoutReturns s = [] ↔ s = [] := by
  unfold withoutReturns
  split <;> simp

theorem withoutReturns_cons {c : Char} {rest : List Char}
    (h : ∀ more, c = '\r' → rest = '\n' :: more → False) :
    withoutReturns (c :: rest) = c :: withoutReturns rest := by
  rw [withoutReturns]
  exact h

theorem dropWhile_withoutReturns (s : List Char) :
    (withoutReturns s).dropWhile isBlank = withoutReturns (s.dropWhile isBlank) := by
  induction s using withoutReturns.induct with
  | case1 rest ih => exact ih
  | case2 c rest hc ih =>
      rw [withoutReturns_cons hc, List.dropWhile_cons, List.dropWhile_cons]
      split
      · exact ih
      · exact (withoutReturns_cons hc).symm
  | case3 => rfl

theorem trimEnd_withoutReturns (s : List Char) :
    trimEnd (withoutReturns s) = withoutReturns (trimEnd s) := by
  induction s using withoutReturns.induct with
  | case1 rest ih =>
      have hreturn : isBlank '\r' := by decide
      have hfeed : isBlank '\n' := by decide
      rw [withoutReturns, trimEnd_cons, trimEnd_cons, trimEnd_cons, ih]
      by_cases hrest : trimEnd rest = []
      · simp [hrest, hreturn, hfeed, withoutReturns]
      · simp [hrest, withoutReturns_eq_nil_iff, withoutReturns]
  | case2 c rest hc ih =>
      have hstays : withoutReturns (c :: trimEnd rest) = c :: withoutReturns (trimEnd rest) := by
        refine withoutReturns_cons fun more hreturn hmore => ?_
        obtain ⟨after, hafter⟩ := trimEnd_prefix_self rest
        rw [hmore] at hafter
        exact hc (more ++ after) hreturn hafter.symm
      rw [withoutReturns_cons hc, trimEnd_cons, trimEnd_cons, ih]
      simp only [withoutReturns_eq_nil_iff]
      split
      · rfl
      · exact hstays.symm
  | case3 => rfl

theorem trim_withoutReturns (s : List Char) :
    trim (withoutReturns s) = withoutReturns (trim s) := by
  rw [trim, trim, dropWhile_withoutReturns, trimEnd_withoutReturns]

/-- A carriage return before a line feed is white space at the end of a part. -/
theorem map_trimEnd_cut_withoutReturns (s : List Char) :
    (cut '\n' (withoutReturns s)).map trimEnd = (cut '\n' s).map trimEnd := by
  induction s using withoutReturns.induct with
  | case1 rest ih =>
      have hreturn : trimEnd ['\r'] = [] := by decide
      change trimEnd [] :: (cut '\n' (withoutReturns rest)).map trimEnd =
        trimEnd ['\r'] :: (cut '\n' rest).map trimEnd
      rw [ih, hreturn, trimEnd_nil]
  | case2 c rest hc ih =>
      rw [withoutReturns_cons hc, cut, cut]
      split
      · rw [List.map_cons, ih, List.map_cons]
      · cases hcut : cut '\n' (withoutReturns rest) with
        | nil => exact absurd hcut (cut_ne_nil _ _)
        | cons part more =>
            cases hcut' : cut '\n' rest with
            | nil => exact absurd hcut' (cut_ne_nil _ _)
            | cons part' more' =>
                rw [hcut, hcut', List.map_cons, List.map_cons] at ih
                obtain ⟨hpart, hmore⟩ := List.cons.inj ih
                rw [List.map_cons, List.map_cons, trimEnd_cons, trimEnd_cons, hpart, hmore]
  | case3 => rfl

/-- Tidy lines are the same for both ways to end a line. -/
theorem tidyLines_withoutReturns (s : List Char) : tidyLines (withoutReturns s) = tidyLines s := by
  have htrim := trim_withoutReturns s
  by_cases h : trim s = []
  · rw [tidyLines_of_trim_eq_nil h]
    rw [h] at htrim
    exact tidyLines_of_trim_eq_nil htrim
  · have hne : trim (withoutReturns s) ≠ [] := by
      rw [htrim]
      exact fun hnil => h (withoutReturns_eq_nil_iff.1 hnil)
    rw [tidyLines_of_trim_ne_nil h, tidyLines_of_trim_ne_nil hne, htrim,
      map_trimEnd_cut_withoutReturns]

end SchemaPages.Text
