/-!
Texts cut at every occurrence of a character. There is one part more than there are marks, and the
parts have all other characters.
-/

namespace SchemaPages.Text

/-- What lies between the marks. -/
def cut (mark : Char) : List Char → List (List Char)
  | [] => [[]]
  | c :: rest =>
    if c = mark then [] :: cut mark rest
    else
      match cut mark rest with
      | [] => [[c]]
      | part :: more => (c :: part) :: more

theorem cut_ne_nil (mark : Char) (s : List Char) : cut mark s ≠ [] := by
  cases s with
  | nil => simp [cut]
  | cons c rest =>
      unfold cut
      split
      · simp
      · split <;> simp

theorem length_cut (mark : Char) (s : List Char) : (cut mark s).length = s.count mark + 1 := by
  induction s with
  | nil => rfl
  | cons c rest ih =>
      unfold cut
      by_cases hc : c = mark
      · simp [hc, ih]
      · cases hp : cut mark rest with
        | nil => exact absurd hp (cut_ne_nil mark rest)
        | cons part more =>
            rw [hp] at ih
            simpa [hc, List.count_cons] using ih

theorem cut_of_not_mem {mark : Char} {s : List Char} (h : mark ∉ s) : cut mark s = [s] := by
  induction s with
  | nil => rfl
  | cons c rest ih =>
      rw [List.mem_cons, not_or] at h
      rw [cut, if_neg (Ne.symm h.1), ih h.2]

/-- A mark between two texts parts them. -/
theorem cut_append (mark : Char) (s t : List Char) :
    cut mark (s ++ mark :: t) = cut mark s ++ cut mark t := by
  induction s with
  | nil => simp [cut]
  | cons c rest ih =>
      rw [List.cons_append, cut, cut, ih]
      split
      · rfl
      · cases hp : cut mark rest with
        | nil => exact absurd hp (cut_ne_nil mark rest)
        | cons part more => rfl

theorem cut_append_of_not_mem {mark : Char} {s : List Char} (h : mark ∉ s) {t part : List Char}
    {more : List (List Char)} (hcut : cut mark t = part :: more) :
    cut mark (s ++ t) = (s ++ part) :: more := by
  induction s with
  | nil => exact hcut
  | cons c rest ih =>
      rw [List.mem_cons, not_or] at h
      rw [List.cons_append, cut, if_neg (Ne.symm h.1), ih h.2]
      rfl

/-- Parts with marks between them are cut into what the parts are cut into. -/
theorem cut_intercalate {mark : Char} {parts : List (List Char)} (h : parts ≠ []) :
    cut mark ([mark].intercalate parts) = parts.flatMap (cut mark) := by
  induction parts with
  | nil => exact absurd rfl h
  | cons part rest ih =>
      cases rest with
      | nil => simp
      | cons other rest =>
          rw [List.flatMap_cons, ← ih (by simp), ← cut_append]
          simp [List.intercalate]

theorem subset_of_mem_cut {mark : Char} {s part : List Char} (h : part ∈ cut mark s) :
    part ⊆ s := by
  induction s generalizing part with
  | nil =>
      obtain rfl := List.mem_singleton.1 h
      exact List.nil_subset _
  | cons c rest ih =>
      rw [cut] at h
      split at h
      · rcases List.mem_cons.1 h with rfl | h
        · exact List.nil_subset _
        · exact List.subset_cons_of_subset c (ih h)
      · split at h
        · rename_i hnil
          exact absurd hnil (cut_ne_nil mark rest)
        · rename_i first more hcut
          rcases List.mem_cons.1 h with rfl | h
          · exact List.cons_subset_cons c (ih (by simp [hcut]))
          · exact List.subset_cons_of_subset c (ih (by simp [hcut, h]))

theorem not_mem_of_mem_cut {mark : Char} {s part : List Char} (h : part ∈ cut mark s) :
    mark ∉ part := by
  induction s generalizing part with
  | nil =>
      obtain rfl := List.mem_singleton.1 h
      exact List.not_mem_nil
  | cons c rest ih =>
      rw [cut] at h
      split at h
      · rcases List.mem_cons.1 h with rfl | h
        · exact List.not_mem_nil
        · exact ih h
      · rename_i hc
        split at h
        · rename_i hnil
          exact absurd hnil (cut_ne_nil mark rest)
        · rename_i first more hcut
          rcases List.mem_cons.1 h with rfl | h
          · exact List.not_mem_cons_of_ne_of_not_mem (Ne.symm hc) (ih (by simp [hcut]))
          · exact ih (by simp [hcut, h])

theorem flatten_cut (mark : Char) (s : List Char) :
    (cut mark s).flatten = s.filter fun c => c ≠ mark := by
  induction s with
  | nil => rfl
  | cons c rest ih =>
      rw [cut, List.filter_cons, ← ih]
      by_cases hc : c = mark
      · simp [hc]
      · cases hcut : cut mark rest with
        | nil => exact absurd hcut (cut_ne_nil mark rest)
        | cons part more => simp [hc]

theorem exists_cut_cons {mark c : Char} (h : c ≠ mark) (s : List Char) :
    ∃ part more, cut mark (c :: s) = (c :: part) :: more := by
  rw [cut, if_neg h]
  cases hcut : cut mark s with
  | nil => exact ⟨[], [], rfl⟩
  | cons part more => exact ⟨part, more, rfl⟩

theorem exists_cut_concat {mark c : Char} (h : c ≠ mark) (s : List Char) :
    ∃ before part, cut mark (s ++ [c]) = before ++ [part ++ [c]] := by
  induction s with
  | nil => exact ⟨[], [], by simp [cut, h]⟩
  | cons d rest ih =>
      obtain ⟨before, part, hcut⟩ := ih
      rw [List.cons_append, cut, hcut]
      by_cases hd : d = mark
      · exact ⟨[] :: before, part, by simp [hd]⟩
      · cases before with
        | nil => exact ⟨[], d :: part, by simp [hd]⟩
        | cons first more => exact ⟨(d :: first) :: more, part, by simp [hd]⟩

/-- What comes before the first mark, and what comes after it. -/
theorem append_mark_inj {α : Type} {mark : α} {s t rest rest' : List α} (hs : mark ∉ s)
    (ht : mark ∉ t) (h : s ++ mark :: rest = t ++ mark :: rest') : s = t ∧ rest = rest' := by
  induction s generalizing t with
  | nil =>
      cases t with
      | nil => exact ⟨rfl, (List.cons.inj h).2⟩
      | cons c t => exact absurd (List.cons.inj h).1 (List.ne_of_not_mem_cons ht)
  | cons c s ih =>
      cases t with
      | nil => exact absurd (List.cons.inj h).1.symm (List.ne_of_not_mem_cons hs)
      | cons d t =>
          obtain ⟨rfl, htail⟩ := List.cons.inj h
          obtain ⟨rfl, hrest⟩ :=
            ih (List.not_mem_of_not_mem_cons hs) (List.not_mem_of_not_mem_cons ht) htail
          exact ⟨rfl, hrest⟩

theorem append_last_mark_inj {α : Type} {mark : α} {s t rest rest' : List α} (hrest : mark ∉ rest)
    (hrest' : mark ∉ rest') (h : s ++ mark :: rest = t ++ mark :: rest') :
    s = t ∧ rest = rest' := by
  have hreverse : rest.reverse ++ mark :: s.reverse = rest'.reverse ++ mark :: t.reverse := by
    simpa using congrArg List.reverse h
  obtain ⟨hafter, hbefore⟩ := append_mark_inj (by simpa using hrest) (by simpa using hrest')
    hreverse
  exact ⟨List.reverse_inj.1 hbefore, List.reverse_inj.1 hafter⟩

end SchemaPages.Text
