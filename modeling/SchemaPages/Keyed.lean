/-!
Values stored under keys. A `Keyed` list pairs keys with values. `insert` replaces the value of a
key that is there and otherwise puts the key before the first greater one, so a list that was
built by insertions stands in the order of its keys, without repetition, and its look-ups answer
with the value inserted last.
-/

namespace SchemaPages

abbrev Keyed (α : Type) := List (String × α)

namespace Keyed

variable {α : Type}

def get? (key : String) (entries : Keyed α) : Option α :=
  List.lookup key entries

def insert (key : String) (value : α) : Keyed α → Keyed α
  | [] => [(key, value)]
  | (k, v) :: rest =>
    if key = k then (key, value) :: rest
    else if key < k then (key, value) :: (k, v) :: rest
    else (k, v) :: insert key value rest

def insertAll (entries : Keyed α) (added : List (String × α)) : Keyed α :=
  added.foldl (fun done entry => insert entry.1 entry.2 done) entries

/-- The items under their names. Of several items with one name the last is kept. -/
def ofList (name : α → String) (items : List α) : Keyed α :=
  insertAll [] (items.map fun item => (name item, item))

@[simp] theorem get?_nil (key : String) : get? key ([] : Keyed α) = none := rfl

theorem get?_cons (key k : String) (v : α) (rest : Keyed α) :
    get? key ((k, v) :: rest) = if key = k then some v else get? key rest := by
  unfold get?
  by_cases h : key = k
  · simp [h]
  · simp [List.lookup_cons, beq_false_of_ne h, h]

theorem get?_insert (key other : String) (value : α) (entries : Keyed α) :
    get? other (insert key value entries) =
      if other = key then some value else get? other entries := by
  induction entries with
  | nil => simp only [insert, get?_cons]
  | cons entry rest ih =>
      obtain ⟨k, v⟩ := entry
      unfold insert
      by_cases hk : key = k
      · subst hk
        by_cases ho : other = key <;> simp [get?_cons, ho]
      · simp only [hk, if_false]
        split
        · simp [get?_cons]
        · by_cases ho : other = key
          · subst ho
            simpa [get?_cons, hk] using ih
          · simp only [get?_cons, ih, ho, if_false]

theorem insert_insert (key : String) (value other : α) (entries : Keyed α) :
    insert key other (insert key value entries) = insert key other entries := by
  induction entries with
  | nil => simp [insert]
  | cons entry rest ih =>
      obtain ⟨k, v⟩ := entry
      by_cases hk : key = k
      · simp [insert, hk]
      · by_cases hl : key < k
        · simp only [insert, hk, hl, if_true, if_false]
        · simp only [insert, hk, hl, if_false, ih]

end Keyed

end SchemaPages
