import SchemaPages.Json.Value
import SchemaPages.Proofs.Keyed.Order

/-!
The structure of JSON values: an induction over what they contain, how deep their containers nest,
and putting their members in order. A value in order stays as it is, and if the keys of an object
are distinct then its members are found under the same keys afterwards.
-/

namespace SchemaPages.Json.Value

/-! ### Induction -/

/-- What holds of a value if it holds of all values in it holds of every value. -/
theorem induct {motive : Value → Prop} (null : motive .null) (bool : ∀ b, motive (.bool b))
    (num : ∀ n, motive (.num n)) (str : ∀ text, motive (.str text))
    (arr : ∀ items, (∀ v ∈ items, motive v) → motive (.arr items))
    (obj : ∀ members : List (String × Value), (∀ entry ∈ members, motive entry.2) →
      motive (.obj members)) (v : Value) : motive v :=
  @Value.rec motive (fun items => ∀ v ∈ items, motive v)
    (fun members => ∀ entry ∈ members, motive entry.2) (fun entry => motive entry.2)
    null bool num str arr obj (List.forall_mem_nil _)
    (fun _ _ hv hrest => List.forall_mem_cons.2 ⟨hv, hrest⟩) (List.forall_mem_nil _)
    (fun _ _ hentry hrest => List.forall_mem_cons.2 ⟨hentry, hrest⟩) (fun _ _ hv => hv) v

def IsScalar : Value → Prop
  | .arr _ | .obj _ => False
  | _ => True

inductive Numberless : Value → Prop
  | null : Numberless .null
  | bool (b : Bool) : Numberless (.bool b)
  | str (text : String) : Numberless (.str text)
  | arr {items : List Value} : (∀ v ∈ items, Numberless v) → Numberless (.arr items)
  | obj {members : List (String × Value)} :
      (∀ entry ∈ members, Numberless entry.2) → Numberless (.obj members)

/-- Every key in the value has the first property, and every string the second. -/
inductive Spelled (key text : String → Prop) : Value → Prop
  | null : Spelled key text .null
  | bool (b : Bool) : Spelled key text (.bool b)
  | num (n : Numeral) : Spelled key text (.num n)
  | str {s : String} : text s → Spelled key text (.str s)
  | arr {items : List Value} : (∀ v ∈ items, Spelled key text v) → Spelled key text (.arr items)
  | obj {members : List (String × Value)} :
      (∀ entry ∈ members, key entry.1) → (∀ entry ∈ members, Spelled key text entry.2) →
        Spelled key text (.obj members)

/-! ### Depth -/

mutual

/-- How many containers there are inside one another. -/
def depth : Value → Nat
  | .arr items => itemsDepth items + 1
  | .obj members => membersDepth members + 1
  | _ => 0

def itemsDepth : List Value → Nat
  | [] => 0
  | v :: rest => max v.depth (itemsDepth rest)

def membersDepth : List (String × Value) → Nat
  | [] => 0
  | (_, v) :: rest => max v.depth (membersDepth rest)

end

theorem depth_le_itemsDepth {v : Value} {items : List Value} (h : v ∈ items) :
    v.depth ≤ itemsDepth items := by
  induction items with
  | nil => cases h
  | cons w rest ih =>
      rw [itemsDepth]
      rcases List.mem_cons.1 h with rfl | h
      · exact Nat.le_max_left _ _
      · exact (ih h).trans (Nat.le_max_right _ _)

theorem depth_le_membersDepth {entry : String × Value} {members : List (String × Value)}
    (h : entry ∈ members) : entry.2.depth ≤ membersDepth members := by
  induction members with
  | nil => cases h
  | cons other rest ih =>
      obtain ⟨k, w⟩ := other
      rw [membersDepth]
      rcases List.mem_cons.1 h with rfl | h
      · exact Nat.le_max_left _ _
      · exact (ih h).trans (Nat.le_max_right _ _)

/-! ### Order -/

theorem sortedItems_eq (items : List Value) : sortedItems items = items.map sorted := by
  induction items with
  | nil => rfl
  | cons v rest ih => rw [sortedItems, ih, List.map_cons]

def sortedMember (entry : String × Value) : String × Value := (entry.1, entry.2.sorted)

theorem sortedMembers_eq (done : Members) (members : List (String × Value)) :
    sortedMembers done members = Keyed.insertAll done (members.map sortedMember) := by
  induction members generalizing done with
  | nil => rfl
  | cons entry rest ih =>
      obtain ⟨k, v⟩ := entry
      rw [sortedMembers, ih]
      rfl

theorem sorted_arr (items : List Value) : (arr items).sorted = .arr (items.map sorted) := by
  rw [sorted, sortedItems_eq]

theorem sorted_obj (members : List (String × Value)) :
    (obj members).sorted = .obj (Keyed.insertAll [] (members.map sortedMember)) := by
  rw [sorted, sortedMembers_eq]

/-- The members of every object are in the order of their keys, each of which is there once. -/
inductive InOrder : Value → Prop
  | scalar {v : Value} : v.IsScalar → InOrder v
  | arr {items : List Value} : (∀ v ∈ items, InOrder v) → InOrder (.arr items)
  | obj {members : Members} :
      Keyed.Ordered members → (∀ entry ∈ members, InOrder entry.2) → InOrder (.obj members)

theorem mem_insertAll_sortedMember {members : List (String × Value)} {entry : String × Value}
    (h : entry ∈ Keyed.insertAll [] (members.map sortedMember)) :
    ∃ other ∈ members, sortedMember other = entry := by
  rcases Keyed.mem_insertAll h with hmem | hmem
  · exact List.mem_map.1 hmem
  · cases hmem

theorem Numberless.sorted {v : Value} (h : v.Numberless) : v.sorted.Numberless := by
  induction h with
  | null => exact .null
  | bool b => exact .bool b
  | str text => exact .str text
  | arr _ ih =>
      rw [sorted_arr]
      refine .arr fun w hw => ?_
      obtain ⟨v, hv, rfl⟩ := List.mem_map.1 hw
      exact ih v hv
  | obj _ ih =>
      rw [sorted_obj]
      refine .obj fun entry hentry => ?_
      obtain ⟨other, hother, rfl⟩ := mem_insertAll_sortedMember hentry
      exact ih other hother

theorem Spelled.sorted {key text : String → Prop} {v : Value} (h : v.Spelled key text) :
    v.sorted.Spelled key text := by
  induction h with
  | null => exact .null
  | bool b => exact .bool b
  | num n => exact .num n
  | str hs => exact .str hs
  | arr _ ih =>
      rw [sorted_arr]
      refine .arr fun w hw => ?_
      obtain ⟨v, hv, rfl⟩ := List.mem_map.1 hw
      exact ih v hv
  | obj hkeys _ ih =>
      rw [sorted_obj]
      refine .obj (fun entry hentry => ?_) fun entry hentry => ?_
      all_goals obtain ⟨other, hother, rfl⟩ := mem_insertAll_sortedMember hentry
      · exact hkeys other hother
      · exact ih other hother

theorem Spelled.imp {key text key' text' : String → Prop} (hkey : ∀ k, key k → key' k)
    (htext : ∀ s, text s → text' s) {v : Value} (h : v.Spelled key text) :
    v.Spelled key' text' := by
  induction h with
  | null => exact .null
  | bool b => exact .bool b
  | num n => exact .num n
  | str hs => exact .str (htext _ hs)
  | arr _ ih => exact .arr ih
  | obj hkeys _ ih => exact .obj (fun entry hentry => hkey _ (hkeys entry hentry)) ih

theorem inOrder_sorted (v : Value) : v.sorted.InOrder := by
  induction v using induct with
  | null | bool b | num n | str text => exact .scalar trivial
  | arr items ih =>
      rw [sorted_arr]
      refine .arr fun w hw => ?_
      obtain ⟨v, hv, rfl⟩ := List.mem_map.1 hw
      exact ih v hv
  | obj members ih =>
      rw [sorted_obj]
      refine .obj (Keyed.ordered_insertAll Keyed.ordered_nil _) fun entry hentry => ?_
      obtain ⟨other, hother, rfl⟩ := mem_insertAll_sortedMember hentry
      exact ih other hother

theorem sorted_sorted (v : Value) : v.sorted.sorted = v.sorted := by
  induction v using induct with
  | null | bool b | num n | str text => rfl
  | arr items ih =>
      rw [sorted_arr, sorted_arr, List.map_map]
      exact congrArg _ (List.map_congr_left ih)
  | obj members ih =>
      have hvalues : (Keyed.insertAll [] (members.map sortedMember)).map sortedMember =
          Keyed.insertAll [] (members.map sortedMember) := by
        refine (List.map_congr_left fun entry hentry => ?_).trans (List.map_id _)
        obtain ⟨other, hother, rfl⟩ := mem_insertAll_sortedMember hentry
        exact Prod.ext rfl (ih other hother)
      have hordered : Keyed.Ordered (Keyed.insertAll [] (members.map sortedMember)) :=
        Keyed.ordered_insertAll Keyed.ordered_nil _
      rw [sorted_obj, sorted_obj, hvalues, Keyed.insertAll_of_ordered hordered]
      rfl

theorem get?_insertAll_sortedMember {members : List (String × Value)} (key : String)
    (done : Members) (h : (members.map Prod.fst).Nodup) :
    Keyed.get? key (Keyed.insertAll done (members.map sortedMember)) =
      ((Keyed.get? key members).map sorted).or (Keyed.get? key done) := by
  induction members generalizing done with
  | nil => rfl
  | cons entry rest ih =>
      obtain ⟨k, v⟩ := entry
      obtain ⟨hk, hrest⟩ := List.nodup_cons.1 h
      have hstep : Keyed.insertAll done (List.map sortedMember ((k, v) :: rest)) =
          Keyed.insertAll (Keyed.insert k v.sorted done) (rest.map sortedMember) := rfl
      rw [hstep, ih _ hrest, Keyed.get?_insert, Keyed.get?_cons]
      by_cases hkey : key = k
      · have hnone : Keyed.get? key rest = none := Keyed.get?_eq_none_iff.2
          fun entry hentry heq => hk (List.mem_map.2 ⟨entry, hentry, heq.trans hkey⟩)
        rw [if_pos hkey, if_pos hkey, hnone]
        rfl
      · rw [if_neg hkey, if_neg hkey]

theorem get?_sorted_obj {members : List (String × Value)} (h : (members.map Prod.fst).Nodup)
    (key : String) : (obj members).sorted.get? key = ((obj members).get? key).map sorted := by
  rw [sorted_obj, get?, get?_insertAll_sortedMember key [] h, Keyed.get?_nil, Option.or_none]
  rfl

end SchemaPages.Json.Value
