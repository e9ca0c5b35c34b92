import SchemaPages.Text.Cut

/-!
Lines of a text. A line feed ends a line and takes a carriage return before it along; nothing
after the last line feed is no line.
-/

namespace SchemaPages.Text

def dropReturn (line : List Char) : List Char :=
  if line.getLast? = some '\r' then line.dropLast else line

/-- Reads the parts between line feeds as lines: all but the last were ended by a line feed. -/
def linesOfParts : List (List Char) → List (List Char)
  | [] => []
  | [last] => if last.isEmpty then [] else [last]
  | part :: more => dropReturn part :: linesOfParts more

/-- The lines of a text, without what ends them. -/
def lines (s : List Char) : List (List Char) :=
  linesOfParts (cut '\n' s)

example : lines ['a', '\r', '\n', '\n', 'b', '\r'] = [['a'], [], ['b', '\r']] := by decide

theorem dropReturn_subset (line : List Char) : dropReturn line ⊆ line := by
  rw [dropReturn]
  split
  · exact List.dropLast_subset line
  · exact List.Subset.refl line

theorem exists_of_mem_linesOfParts {parts : List (List Char)} {line : List Char}
    (h : line ∈ linesOfParts parts) : ∃ part ∈ parts, line ⊆ part := by
  induction parts with
  | nil => cases h
  | cons part more ih =>
      cases more with
      | nil =>
          rw [linesOfParts] at h
          split at h
          · cases h
          · exact ⟨line, h, List.Subset.refl line⟩
      | cons other more =>
          rcases List.mem_cons.1 h with rfl | h
          · exact ⟨part, List.mem_cons_self, dropReturn_subset part⟩
          · obtain ⟨found, hfound, hline⟩ := ih h
            exact ⟨found, List.mem_cons_of_mem part hfound, hline⟩

theorem subset_of_mem_lines {s line : List Char} (h : line ∈ lines s) : line ⊆ s := by
  obtain ⟨part, hpart, hline⟩ := exists_of_mem_linesOfParts h
  exact List.Subset.trans hline (subset_of_mem_cut hpart)

theorem lineFeed_not_mem_of_mem_lines {s line : List Char} (h : line ∈ lines s) : '\n' ∉ line := by
  obtain ⟨part, hpart, hline⟩ := exists_of_mem_linesOfParts h
  exact fun hfeed => not_mem_of_mem_cut hpart (hline hfeed)

end SchemaPages.Text
