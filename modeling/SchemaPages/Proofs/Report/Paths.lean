import SchemaPages.Proofs.Report.Lines

/-!
Reading lines back. If the marks of paths occur in no key then a path is that of one way only, and
it ends where the first colon of the line stands; so a line that is not broken tells the way and the
text of the scalar.
-/

namespace SchemaPages.Report

open Json (Value)

/-- A key that can be told from the marks of a path. -/
structure IsPlainKey (key : String) : Prop where
  ne_empty : key ≠ ""
  plain : ∀ c ∈ key.toList, c ∉ ['.', '[', ']', ':', '\n']

instance (key : String) : Decidable (IsPlainKey key) :=
  have := List.decidableBAll (fun c => c ∉ ['.', '[', ']', ':', '\n']) key.toList
  decidable_of_iff (key ≠ "" ∧ ∀ c ∈ key.toList, c ∉ ['.', '[', ']', ':', '\n'])
    ⟨fun h => ⟨h.1, h.2⟩, fun h => ⟨h.1, h.2⟩⟩

def OneLine (text : String) : Prop := '\n' ∉ text.toList

instance (text : String) : Decidable (OneLine text) :=
  inferInstanceAs (Decidable ('\n' ∉ text.toList))

theorem IsPlainKey.not_mem {key : String} (h : IsPlainKey key) {c : Char}
    (hc : c ∈ ['.', '[', ']', ':', '\n']) : c ∉ key.toList :=
  fun hmem => h.plain c hmem hc

theorem IsPlainKey.isLabel {key : String} (h : IsPlainKey key) : IsLabel key :=
  ⟨h.ne_empty, h.not_mem (by decide)⟩

/-! ### Paths -/

theorem toList_memberPath (path key : String) :
    (memberPath path key).toList =
      if path = "" then key.toList else path.toList ++ '.' :: key.toList := by
  rw [memberPath]
  split
  · rfl
  · simp

theorem toList_itemPath (path : String) (index : Nat) :
    (itemPath path index).toList = path.toList ++ '[' :: (Nat.toDigits 10 index ++ [']']) := by
  simp [itemPath]

theorem memberPath_inj {path other key key' : String} (h : IsPlainKey key) (h' : IsPlainKey key')
    (heq : memberPath path key = memberPath other key') : path = other ∧ key = key' := by
  have hdot : '.' ∉ key.toList := h.not_mem (by decide)
  have hdot' : '.' ∉ key'.toList := h'.not_mem (by decide)
  have hlist := congrArg String.toList heq
  rw [toList_memberPath, toList_memberPath] at hlist
  split at hlist <;> split at hlist
  · rename_i hpath hother
    exact ⟨hpath.trans hother.symm, String.toList_inj.1 hlist⟩
  · exact absurd (by simp [hlist]) hdot
  · exact absurd (by simp [← hlist]) hdot'
  · obtain ⟨hpath, hkey⟩ := Text.append_last_mark_inj hdot hdot' hlist
    exact ⟨String.toList_inj.1 hpath, String.toList_inj.1 hkey⟩

theorem itemPath_inj {path other : String} {index index' : Nat}
    (heq : itemPath path index = itemPath other index') : path = other ∧ index = index' := by
  have hbracket (n : Nat) : '[' ∉ Nat.toDigits 10 n ++ [']'] := by
    intro hmem
    rcases List.mem_append.1 hmem with hmem | hmem
    · have hdigit := Nat.isDigit_of_mem_toDigits (by decide) (by decide) hmem
      revert hdigit
      decide
    · revert hmem
      decide
  have hlist := congrArg String.toList heq
  rw [toList_itemPath, toList_itemPath] at hlist
  obtain ⟨hpath, hindex⟩ := Text.append_last_mark_inj (hbracket _) (hbracket _) hlist
  have hread := congrArg (fun digits => Nat.ofDigitChars 10 digits 0)
    (List.append_cancel_right hindex)
  simp only [Nat.ofDigitChars_ten_toDigits] at hread
  exact ⟨String.toList_inj.1 hpath, hread⟩

theorem memberPath_ne_itemPath {path other key : String} (h : IsPlainKey key) (index : Nat) :
    memberPath path key ≠ itemPath other index := by
  intro heq
  obtain ⟨before, c, hkey⟩ := (List.eq_nil_or_concat' key.toList).resolve_left
    fun hnil => h.ne_empty (String.toList_inj.1 hnil)
  have hmember : ∃ front, (memberPath path key).toList = front ++ [c] := by
    rw [toList_memberPath, hkey]
    split
    · exact ⟨before, rfl⟩
    · exact ⟨path.toList ++ '.' :: before, by simp⟩
  have hitem : ∃ front, (itemPath other index).toList = front ++ [']'] :=
    ⟨other.toList ++ '[' :: Nat.toDigits 10 index, by simp [toList_itemPath]⟩
  obtain ⟨front, hfront⟩ := hmember
  obtain ⟨front', hfront'⟩ := hitem
  have hlast : front ++ [c] = front' ++ [']'] := by rw [← hfront, heq, hfront']
  obtain rfl : c = ']' := by simpa using congrArg List.getLast? hlast
  exact h.plain ']' (by simp [hkey]) (by decide)

theorem extend_inj {path other : String} {step step' : Step} (h : step.Spelled IsPlainKey)
    (h' : step'.Spelled IsPlainKey) (heq : step.extend path = step'.extend other) :
    path = other ∧ step = step' := by
  cases step with
  | member key =>
      cases step' with
      | member key' =>
          obtain ⟨hpath, rfl⟩ := memberPath_inj h h' heq
          exact ⟨hpath, rfl⟩
      | item index => exact absurd heq (memberPath_ne_itemPath h index)
  | item index =>
      cases step' with
      | member key' => exact absurd heq.symm (memberPath_ne_itemPath h' index)
      | item index' =>
          obtain ⟨hpath, rfl⟩ := itemPath_inj heq
          exact ⟨hpath, rfl⟩

theorem pathText_inj {steps others : List Step} (h : ∀ step ∈ steps, step.Spelled IsPlainKey)
    (h' : ∀ step ∈ others, step.Spelled IsPlainKey) (heq : pathText steps = pathText others) :
    steps = others := by
  have hempty {steps : List Step} (h : ∀ step ∈ steps, step.Spelled IsPlainKey)
      (heq : pathText steps = "") : steps = [] :=
    by_contra fun hne => pathText_ne_empty hne
      (fun step hstep => (h step hstep).imp fun _ hkey => hkey.isLabel) heq
  -- A path grows at its end, and there the last step can be told.
  induction steps using List.reverseRecOn generalizing others with
  | nil => exact (hempty h' heq.symm).symm
  | append_singleton steps step ih =>
      rcases List.eq_nil_or_concat' others with rfl | ⟨others, step', rfl⟩
      · exact hempty h heq
      · rw [pathText_concat, pathText_concat] at heq
        obtain ⟨hsteps, hstep⟩ := List.forall_mem_append.1 h
        obtain ⟨hothers, hstep'⟩ := List.forall_mem_append.1 h'
        obtain ⟨hpath, rfl⟩ := extend_inj (hstep _ (List.mem_singleton_self _))
          (hstep' _ (List.mem_singleton_self _)) heq
        rw [ih hsteps hothers hpath]

/-- A line tells the way and the text of its scalar. -/
theorem Leaf.line_inj {leaf other : Leaf} (h : ∀ step ∈ leaf.steps, step.Spelled IsPlainKey)
    (h' : ∀ step ∈ other.steps, step.Spelled IsPlainKey) (heq : leaf.line = other.line) :
    leaf.steps = other.steps ∧ bareText leaf.value = bareText other.value := by
  have hcolon {leaf : Leaf} (h : ∀ step ∈ leaf.steps, step.Spelled IsPlainKey) :
      ':' ∉ (pathText leaf.steps).toList :=
    not_mem_pathText (by decide) fun step hstep =>
      (h step hstep).imp fun _ hkey => hkey.not_mem (by decide)
  have hlist := congrArg String.toList heq
  have hline (leaf : Leaf) : leaf.line.toList =
      (pathText leaf.steps).toList ++ ':' :: ' ' :: (bareText leaf.value).toList := by
    simp [Leaf.line]
  rw [hline, hline] at hlist
  obtain ⟨hpath, htext⟩ := Text.append_mark_inj (hcolon h) (hcolon h') hlist
  exact ⟨pathText_inj h h' (String.toList_inj.1 hpath),
    String.toList_inj.1 (List.cons.inj htext).2⟩

end SchemaPages.Report
