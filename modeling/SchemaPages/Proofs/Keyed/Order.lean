import Mathlib.Data.List.Nodup
import Mathlib.Data.String.Basic
import SchemaPages.Proofs.Keyed.Lookup

/-!
The order of an index. Insertion keeps the keys strictly increasing, so an index lists every name
of its items once and in order, and a list of entries in any other order comes back to it when it
is sorted by key.
-/

namespace SchemaPages.Keyed

variable {α : Type}

def keys (entries : Keyed α) : List String := entries.map Prod.fst

def Ordered (entries : Keyed α) : Prop := (keys entries).Pairwise (· < ·)

theorem ordered_nil : Ordered ([] : Keyed α) := List.Pairwise.nil

theorem ordered_cons {key : String} {value : α} {rest : Keyed α} :
    Ordered ((key, value) :: rest) ↔ (∀ k ∈ keys rest, key < k) ∧ Ordered rest :=
  List.pairwise_cons

theorem mem_keys_insert {key other : String} {value : α} {entries : Keyed α} :
    other ∈ keys (insert key value entries) ↔ other = key ∨ other ∈ keys entries := by
  induction entries with
  | nil => simp [insert, keys]
  | cons entry rest ih =>
      obtain ⟨k, v⟩ := entry
      unfold insert
      split
      · rename_i hkey
        simp [keys, hkey]
      · split
        · simp [keys]
        · have hrest : other ∈ keys ((k, v) :: insert key value rest) ↔
              other = k ∨ other = key ∨ other ∈ keys rest := by
            rw [← ih]
            exact List.mem_cons
          rw [hrest]
          simp only [keys, List.map_cons, List.mem_cons]
          exact or_left_comm

theorem ordered_insert {entries : Keyed α} (h : Ordered entries) (key : String) (value : α) :
    Ordered (insert key value entries) := by
  induction entries with
  | nil => exact List.pairwise_singleton _ _
  | cons entry rest ih =>
      obtain ⟨k, v⟩ := entry
      obtain ⟨hhead, hrest⟩ := ordered_cons.1 h
      unfold insert
      split
      · rename_i hkey
        exact ordered_cons.2 ⟨hkey ▸ hhead, hrest⟩
      · rename_i hkey
        split
        · rename_i hlt
          refine ordered_cons.2 ⟨fun other hother => ?_, h⟩
          rcases List.mem_cons.1 hother with rfl | hother
          · exact hlt
          · exact hlt.trans (hhead other hother)
        · rename_i hlt
          refine ordered_cons.2 ⟨fun other hother => ?_, ih hrest⟩
          rcases mem_keys_insert.1 hother with rfl | hother
          · exact lt_of_le_of_ne (not_lt.1 hlt) (Ne.symm hkey)
          · exact hhead other hother

theorem insert_comm {key other : String} (hne : key ≠ other) (value value' : α)
    (entries : Keyed α) :
    insert key value (insert other value' entries) =
      insert other value' (insert key value entries) := by
  induction entries with
  | nil => grind [insert]
  | cons entry rest ih => grind [insert]

theorem mem_keys_insertAll {key : String} {added : List (String × α)} {entries : Keyed α} :
    key ∈ keys (insertAll entries added) ↔ key ∈ added.map Prod.fst ∨ key ∈ keys entries := by
  induction added generalizing entries with
  | nil => simp [insertAll]
  | cons entry added ih =>
      change key ∈ keys (insertAll (insert entry.1 entry.2 entries) added) ↔ _
      rw [ih, mem_keys_insert, List.map_cons, List.mem_cons]
      tauto

theorem ordered_insertAll {entries : Keyed α} (h : Ordered entries) (added : List (String × α)) :
    Ordered (insertAll entries added) := by
  induction added generalizing entries with
  | nil => exact h
  | cons entry added ih => exact ih (ordered_insert h entry.1 entry.2)

/-- An index has the names of its items in order, each once. -/
theorem ordered_ofList (name : α → String) (items : List α) : Ordered (ofList name items) :=
  ordered_insertAll ordered_nil _

theorem mem_keys_ofList {name : α → String} {key : String} {items : List α} :
    key ∈ keys (ofList name items) ↔ ∃ item ∈ items, name item = key := by
  rw [ofList, mem_keys_insertAll]
  simp [keys]

theorem mem_of_get? {entries : Keyed α} {key : String} {value : α}
    (h : get? key entries = some value) : (key, value) ∈ entries := by
  induction entries with
  | nil => cases h
  | cons entry rest ih =>
      obtain ⟨k, v⟩ := entry
      rw [get?_cons] at h
      split at h
      · rename_i hkey
        cases h
        exact hkey ▸ List.mem_cons_self
      · exact List.mem_cons_of_mem _ (ih h)

theorem mem_iff_get? {entries : Keyed α} (h : Ordered entries) {key : String} {value : α} :
    (key, value) ∈ entries ↔ get? key entries = some value := by
  induction entries with
  | nil => simp
  | cons entry rest ih =>
      obtain ⟨k, v⟩ := entry
      obtain ⟨hhead, hrest⟩ := ordered_cons.1 h
      rw [get?_cons, List.mem_cons, Prod.mk.injEq]
      split
      · rename_i hkey
        subst hkey
        have hnot : (key, value) ∉ rest := by
          intro hmem
          exact lt_irrefl key (hhead key (List.mem_map_of_mem hmem))
        simp [hnot, eq_comm]
      · rename_i hkey
        simp [hkey, ih hrest]

/-- In order, entries are all that look-ups tell of them. -/
theorem eq_of_get?_eq {entries others : Keyed α} (h : Ordered entries) (h' : Ordered others)
    (hget : ∀ key, get? key entries = get? key others) : entries = others := by
  have hnodup {entries : Keyed α} (h : Ordered entries) : entries.Nodup :=
    .of_map Prod.fst (h.imp ne_of_lt)
  have hperm : entries.Perm others := by
    refine (List.perm_ext_iff_of_nodup (hnodup h) (hnodup h')).2 fun (key, value) => ?_
    rw [mem_iff_get? h, mem_iff_get? h', hget]
  have hlt {entries : Keyed α} (h : Ordered entries) :
      entries.Pairwise fun a b => a.1 < b.1 := List.pairwise_map.1 h
  refine hperm.eq_of_pairwise ?_ (hlt h) (hlt h')
  exact fun a b _ _ hab hba => absurd hab (lt_asymm hba)

/-- The index of items depends only on the last item of every name. -/
theorem ofList_congr {name : α → String} {items others : List α}
    (h : ∀ key, last? name key items = last? name key others) :
    ofList name items = ofList name others := by
  refine eq_of_get?_eq (ordered_ofList _ _) (ordered_ofList _ _) fun key => ?_
  rw [get?_ofList, h, get?_ofList]

theorem insert_of_forall_lt {entries : Keyed α} {key : String} (h : ∀ k ∈ keys entries, k < key)
    (value : α) : insert key value entries = entries ++ [(key, value)] := by
  induction entries with
  | nil => rfl
  | cons entry rest ih =>
      obtain ⟨k, v⟩ := entry
      obtain ⟨hlt, hrest⟩ := List.forall_mem_cons.1 h
      rw [insert, if_neg (ne_of_gt hlt), if_neg (lt_asymm hlt), ih hrest]
      rfl

theorem insertAll_of_ordered {entries added : Keyed α} (h : Ordered (entries ++ added)) :
    insertAll entries added = entries ++ added := by
  induction added generalizing entries with
  | nil => exact (List.append_nil entries).symm
  | cons entry added ih =>
      obtain ⟨key, value⟩ := entry
      have hlt : ∀ k ∈ keys entries, k < key := by
        rw [Ordered, keys, List.map_append, List.pairwise_append] at h
        exact fun k hk => h.2.2 k hk key List.mem_cons_self
      rw [List.append_cons] at h ⊢
      rw [← ih h, ← insert_of_forall_lt hlt]
      rfl

theorem mem_insert {entry : String × α} {key : String} {value : α} {entries : Keyed α}
    (h : entry ∈ insert key value entries) : entry = (key, value) ∨ entry ∈ entries := by
  induction entries with
  | nil => exact .inl (List.mem_singleton.1 h)
  | cons first rest ih =>
      obtain ⟨k, v⟩ := first
      unfold insert at h
      split at h
      · exact (List.mem_cons.1 h).imp_right (List.mem_cons_of_mem _)
      · split at h
        · exact List.mem_cons.1 h
        · rcases List.mem_cons.1 h with rfl | h
          · exact .inr List.mem_cons_self
          · exact (ih h).imp_right (List.mem_cons_of_mem _)

theorem mem_insertAll {entry : String × α} {entries added : Keyed α}
    (h : entry ∈ insertAll entries added) : entry ∈ added ∨ entry ∈ entries := by
  induction added generalizing entries with
  | nil => exact .inr h
  | cons first added ih =>
      rcases ih h with hmem | hmem
      · exact .inl (List.mem_cons_of_mem _ hmem)
      · rcases mem_insert hmem with rfl | hmem
        · exact .inl List.mem_cons_self
        · exact .inr hmem

/-- Sorting by key restores a list whose keys are strictly increasing, in whatever order its items
are taken. -/
theorem mergeSort_of_perm {β : Type} {key : β → String} {sorted items : List β}
    (hsorted : (sorted.map key).Pairwise (· < ·)) (hperm : items.Perm sorted) :
    items.mergeSort (fun a b => decide (key a ≤ key b)) = sorted := by
  have hlt : sorted.Pairwise fun a b => key a < key b := List.pairwise_map.1 hsorted
  have hle : sorted.Pairwise fun a b => key a ≤ key b := hlt.imp le_of_lt
  have hmerge : (items.mergeSort fun a b => decide (key a ≤ key b)).Pairwise
      fun a b => key a ≤ key b := by
    have hpairwise : (items.mergeSort fun a b => decide (key a ≤ key b)).Pairwise
        fun a b => decide (key a ≤ key b) = true := by
      apply List.pairwise_mergeSort
      · intro a b c hab hbc
        exact decide_eq_true (le_trans (of_decide_eq_true hab) (of_decide_eq_true hbc))
      · intro a b
        simpa using le_total (key a) (key b)
    exact hpairwise.imp of_decide_eq_true
  have hall : (items.mergeSort fun a b => decide (key a ≤ key b)).Perm sorted :=
    (List.mergeSort_perm _ _).trans hperm
  refine hall.eq_of_pairwise ?_ hmerge hle
  -- Two items of one key would stand side by side in the sorted list.
  intro a b ha hb hab hba
  have hnodup : (sorted.map key).Nodup := hsorted.imp ne_of_lt
  exact List.inj_on_of_nodup_map hnodup (hall.mem_iff.1 ha) hb (le_antisymm hab hba)

end SchemaPages.Keyed
