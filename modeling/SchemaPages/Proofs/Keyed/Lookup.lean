import SchemaPages.Keyed

/-!
Which item an index answers with. The order in which an index keeps its keys plays no part: a
look-up finds the last of the items that were put in under the key.
-/

namespace SchemaPages.Keyed

variable {α : Type}

def last? (name : α → String) (key : String) (items : List α) : Option α :=
  items.reverse.find? fun item => name item = key

theorem last?_cons (name : α → String) (key : String) (item : α) (items : List α) :
    last? name key (item :: items) =
      (last? name key items).or (if name item = key then some item else none) := by
  simp only [last?]
  rw [List.reverse_cons, List.find?_append, List.find?_singleton]
  simp only [decide_eq_true_eq]

/-- The item found is one of the items and has the name, and no later one has it. -/
theorem last?_eq_some_iff {name : α → String} {key : String} {items : List α} {item : α} :
    last? name key items = some item ↔
      name item = key ∧ ∃ before after, items = before ++ item :: after ∧
        ∀ other ∈ after, name other ≠ key := by
  rw [last?]
  rw [List.find?_eq_some_iff_append]
  simp only [decide_eq_true_eq, Bool.not_eq_true', decide_eq_false_iff_not]
  refine and_congr_right fun _ => ⟨?_, ?_⟩
  · rintro ⟨after, before, hitems, hafter⟩
    refine ⟨before.reverse, after.reverse, ?_, fun other h => hafter other (by simpa using h)⟩
    have hreverse := congrArg List.reverse hitems
    simpa using hreverse
  · rintro ⟨before, after, rfl, hafter⟩
    exact ⟨after.reverse, before.reverse, by simp, fun other h => hafter other (by simpa using h)⟩

theorem last?_eq_none_iff {name : α → String} {key : String} {items : List α} :
    last? name key items = none ↔ ∀ item ∈ items, name item ≠ key := by
  simp [last?]

theorem get?_append (key : String) (entries others : Keyed α) :
    get? key (entries ++ others) = (get? key entries).or (get? key others) := by
  induction entries with
  | nil => rfl
  | cons entry rest ih =>
      obtain ⟨k, v⟩ := entry
      rw [List.cons_append, get?_cons, get?_cons, ih]
      split <;> rfl

theorem get?_filter (p : String → Prop) [DecidablePred p] (key : String) (entries : Keyed α) :
    get? key (entries.filter fun entry => p entry.1) =
      if p key then get? key entries else none := by
  induction entries with
  | nil => simp
  | cons entry rest ih =>
      obtain ⟨k, v⟩ := entry
      by_cases hk : p k
      · rw [List.filter_cons_of_pos (by simpa using hk), get?_cons, get?_cons, ih]
        by_cases hkey : key = k
        · simp [hkey, hk]
        · simp [hkey]
      · rw [List.filter_cons_of_neg (by simpa using hk), get?_cons, ih]
        by_cases hkey : key = k
        · simp [hkey, hk]
        · simp [hkey]

theorem get?_eq_none_iff {key : String} {entries : Keyed α} :
    get? key entries = none ↔ ∀ entry ∈ entries, entry.1 ≠ key := by
  rw [get?, List.lookup_eq_none_iff]
  exact forall₂_congr fun entry _ => bne_iff_ne.trans ne_comm

/-! ### Rearranging -/

/-- One list of items comes from the other by moving items past those of other names and by leaving
out items that a later one of the same name hides. -/
inductive Rearranged (name : α → String) : List α → List α → Prop
  | nil : Rearranged name [] []
  | cons (item : α) {items others : List α} :
      Rearranged name items others → Rearranged name (item :: items) (item :: others)
  | swap {first second : α} (items : List α) :
      name first ≠ name second →
        Rearranged name (first :: second :: items) (second :: first :: items)
  | hidden {item later : α} {items : List α} :
      later ∈ items → name later = name item → Rearranged name (item :: items) items
  | trans {items middle others : List α} :
      Rearranged name items middle → Rearranged name middle others → Rearranged name items others

theorem Rearranged.last?_eq {name : α → String} {items others : List α}
    (h : Rearranged name items others) (key : String) :
    last? name key items = last? name key others := by
  induction h with
  | nil => rfl
  | cons item _ ih => rw [last?_cons, ih, last?_cons]
  | @swap first second items hne =>
      simp only [last?_cons, Option.or_assoc]
      -- At most one of the two has the name that is asked for.
      congr 1
      by_cases hfirst : name first = key
      · have hsecond : name second ≠ key := fun h => hne (hfirst.trans h.symm)
        simp [hfirst, hsecond]
      · simp [hfirst]
  | @hidden item later items hlater hname =>
      rw [last?_cons]
      by_cases hitem : name item = key
      · have hsome : (last? name key items).isSome = true := by
          rw [← Option.ne_none_iff_isSome, ne_eq, last?_eq_none_iff]
          exact fun hnone => hnone later hlater (hname.trans hitem)
        rw [Option.or_of_isSome hsome]
      · simp [hitem]
  | trans _ _ ih ih' => exact ih.trans ih'

/-! ### Indexes -/

theorem get?_insertAll (name : α → String) (key : String) (items : List α) (entries : Keyed α) :
    get? key (insertAll entries (items.map fun item => (name item, item))) =
      (last? name key items).or (get? key entries) := by
  induction items generalizing entries with
  | nil => rfl
  | cons item items ih =>
      change get? key (insertAll (insert (name item) item entries) _) = _
      rw [ih, last?_cons, get?_insert]
      cases last? name key items with
      | some later => rfl
      | none =>
          by_cases hname : name item = key
          · simp [hname]
          · simp [hname, Ne.symm hname]

/-- Looking a key up in an index gives the last item of that name. -/
theorem get?_ofList (name : α → String) (key : String) (items : List α) :
    get? key (ofList name items) = last? name key items := by
  rw [ofList, get?_insertAll, get?_nil, Option.or_none]

end SchemaPages.Keyed
