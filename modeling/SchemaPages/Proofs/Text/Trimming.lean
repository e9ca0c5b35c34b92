import Mathlib.Data.List.DropRight
import SchemaPages.Text.Blank

/-!
Trimmed texts. White space is taken off the end of a text character by character: a character stays
if it is no white space itself or if something stays after it. So a trimmed text neither starts nor
ends with white space, and it has all characters of the text that are no white space.
-/

namespace SchemaPages.Text

theorem ne_of_not_isBlank {c d : Char} (hc : ¬isBlank c) (hd : isBlank d) : c ≠ d := by
  rintro rfl
  exact hc hd

/-! ### The end of a text -/

theorem trimEnd_eq_nil_iff {s : List Char} : trimEnd s = [] ↔ ∀ c ∈ s, isBlank c :=
  List.rdropWhile_eq_nil_iff

/-- Nothing is taken off what comes before something that stays. -/
theorem trimEnd_append (s t : List Char) :
    trimEnd (s ++ t) = if trimEnd t = [] then trimEnd s else s ++ trimEnd t := by
  simp only [trimEnd, List.reverse_append, List.dropWhile_append, List.isEmpty_iff,
    List.reverse_eq_nil_iff]
  split
  · rfl
  · rw [List.reverse_append, List.reverse_reverse]

theorem trimEnd_append_of_blank {blank : List Char} (h : ∀ c ∈ blank, isBlank c) (s : List Char) :
    trimEnd (s ++ blank) = trimEnd s := by
  rw [trimEnd_append, if_pos (trimEnd_eq_nil_iff.2 h)]

/-- What is taken off an end is white space. -/
theorem exists_trimEnd (s : List Char) :
    ∃ blank, (∀ c ∈ blank, isBlank c) ∧ s = trimEnd s ++ blank :=
  ⟨s.rtakeWhile isBlank, fun _ => List.mem_rtakeWhile_imp, List.rdropWhile_append_rtakeWhile.symm⟩

theorem trimEnd_cons (c : Char) (s : List Char) :
    trimEnd (c :: s) = if trimEnd s = [] ∧ isBlank c then [] else c :: trimEnd s := by
  have hc : trimEnd [c] = if isBlank c then [] else [c] := by
    cases h : isBlank c <;> simp [trimEnd, h]
  rw [← List.singleton_append, trimEnd_append, hc]
  by_cases hs : trimEnd s = [] <;> by_cases hblank : isBlank c <;> simp [hs, hblank]

theorem trimEnd_cons_of_not {c : Char} (h : ¬isBlank c) (s : List Char) :
    trimEnd (c :: s) = c :: trimEnd s := by
  rw [trimEnd_cons, if_neg fun hc => h hc.2]

theorem trimEnd_concat_of_not {c : Char} (h : ¬isBlank c) (s : List Char) :
    trimEnd (s ++ [c]) = s ++ [c] :=
  List.rdropWhile_concat_neg isBlank s c h

theorem trimEnd_prefix_self (s : List Char) : trimEnd s <+: s := List.rdropWhile_prefix _ s

theorem not_isBlank_of_getLast?_trimEnd {s : List Char} {c : Char}
    (h : (trimEnd s).getLast? = some c) : ¬isBlank c := by
  obtain ⟨hne, rfl⟩ := List.mem_getLast?_eq_getLast h
  exact List.rdropWhile_last_not isBlank s hne

theorem trimEnd_of_getLast? {s : List Char} (h : ∀ c ∈ s.getLast?, ¬isBlank c) :
    trimEnd s = s :=
  List.rdropWhile_eq_self_iff.2 fun hne => h _ (List.getLast?_eq_getLast_of_ne_nil hne)

/-! ### Both ends of a text -/

theorem trim_eq_nil_iff {s : List Char} : trim s = [] ↔ ∀ c ∈ s, isBlank c := by
  rw [trim, trimEnd_eq_nil_iff]
  constructor
  · intro h c hc
    rw [← List.takeWhile_append_dropWhile (p := isBlank) (l := s), List.mem_append] at hc
    exact hc.elim List.mem_takeWhile_imp (h c)
  · exact fun h c hc => h c ((List.dropWhile_sublist _).subset hc)

theorem exists_trim_eq_cons {s : List Char} (h : trim s ≠ []) :
    ∃ c rest, trim s = c :: rest ∧ ¬isBlank c := by
  rw [trim] at h ⊢
  have hhead := List.head?_dropWhile_not isBlank s
  cases hdrop : s.dropWhile isBlank with
  | nil => exact absurd (by rw [hdrop, trimEnd_nil]) h
  | cons c rest =>
      rw [hdrop] at hhead
      have hc : ¬isBlank c := Bool.not_eq_true _ ▸ hhead
      exact ⟨c, trimEnd rest, trimEnd_cons_of_not hc rest, hc⟩

theorem exists_trim_eq_concat {s : List Char} (h : trim s ≠ []) :
    ∃ rest c, trim s = rest ++ [c] ∧ ¬isBlank c := by
  obtain ⟨rest, c, hconcat⟩ := (List.eq_nil_or_concat' (trim s)).resolve_left h
  refine ⟨rest, c, hconcat, not_isBlank_of_getLast?_trimEnd (s := s.dropWhile isBlank) ?_⟩
  rw [← trim, hconcat, List.getLast?_concat]

/-! ### The characters of a text -/

/-- The characters of the text that are no white space. -/
def inked (s : List Char) : List Char := s.filter fun c => !isBlank c

theorem inked_cons (c : Char) (s : List Char) :
    inked (c :: s) = if isBlank c then inked s else c :: inked s := by
  rw [inked, List.filter_cons]
  cases isBlank c <;> rfl

theorem inked_filter_ne {mark : Char} (h : isBlank mark) (s : List Char) :
    inked (s.filter fun c => c ≠ mark) = inked s := by
  rw [inked, inked, List.filter_filter]
  refine List.filter_congr fun c _ => ?_
  by_cases hc : c = mark
  · simp [hc, h]
  · simp [hc]

theorem inked_trimEnd (s : List Char) : inked (trimEnd s) = inked s := by
  induction s with
  | nil => rfl
  | cons c s ih =>
      rw [trimEnd_cons]
      split
      · rename_i h
        rw [inked_cons, if_pos h.2, ← ih, h.1]
      · rw [inked_cons, inked_cons, ih]

theorem inked_trim (s : List Char) : inked (trim s) = inked s := by
  rw [trim, inked_trimEnd]
  induction s with
  | nil => rfl
  | cons c s ih =>
      rw [List.dropWhile_cons, inked_cons]
      split
      · exact ih
      · rename_i h
        rw [inked_cons, if_neg h]

end SchemaPages.Text
