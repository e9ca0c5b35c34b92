import SchemaPages.Proofs.Json.Values
import SchemaPages.Report.Flat

/-!
The scalars of a value and the ways to them. `leaves` lists them as the lines of a report do; it is
characterized without going through the value: it has every way that leads to a scalar, once, in
the order of the keys and the indexes.
-/

namespace SchemaPages.Report

open Json (Value Members)

/-! ### Ways -/

inductive Step where
  | member (key : String)
  | item (index : Nat)
deriving DecidableEq

namespace Step

def child? : Step → Value → Option Value
  | .member key, v => v.get? key
  | .item index, .arr items => items[index]?
  | .item _, _ => none

def extend (path : String) : Step → String
  | .member key => memberPath path key
  | .item index => itemPath path index

inductive Before : Step → Step → Prop
  | member {key other : String} : key < other → Before (.member key) (.member other)
  | item {index other : Nat} : index < other → Before (.item index) (.item other)

def Spelled (key : String → Prop) : Step → Prop
  | .member k => key k
  | .item _ => True

theorem Spelled.imp {key key' : String → Prop} (hkey : ∀ k, key k → key' k) {step : Step}
    (h : step.Spelled key) : step.Spelled key' := by
  cases step with
  | member k => exact hkey k h
  | item index => trivial

end Step

/-- Where the steps lead, one after the other. -/
def follow : List Step → Value → Option Value
  | [], v => some v
  | step :: rest, v => (step.child? v).bind (follow rest)

def pathText (steps : List Step) : String := steps.foldl Step.extend ""

theorem pathText_concat (steps : List Step) (step : Step) :
    pathText (steps ++ [step]) = step.extend (pathText steps) := by
  rw [pathText, List.foldl_append]
  rfl

theorem follow_scalar {v : Value} (h : v.IsScalar) {steps : List Step} {w : Value} :
    follow steps v = some w ↔ steps = [] ∧ w = v := by
  cases steps with
  | nil => simp [follow, eq_comm]
  | cons step rest =>
      have hchild : step.child? v = none := by
        cases v with
        | arr items => cases h
        | obj members => cases h
        | _ => cases step <;> rfl
      simp [follow, hchild]

/-- From a container at least one step leads to a scalar. -/
theorem exists_of_follow {v w : Value} (hv : ¬v.IsScalar) (hw : w.IsScalar) {steps : List Step}
    (h : follow steps v = some w) :
    ∃ step rest child, steps = step :: rest ∧ step.child? v = some child ∧
      follow rest child = some w := by
  cases steps with
  | nil =>
      obtain rfl := Option.some.inj h
      exact absurd hw hv
  | cons step rest =>
      obtain ⟨child, hchild, hrest⟩ := Option.bind_eq_some_iff.1 h
      exact ⟨step, rest, child, rfl, hchild, hrest⟩

/-- In a list that was put in order the steps go on from what the item has become. -/
theorem follow_sorted_item (items : List Value) (index : Nat) (steps : List Step) :
    follow (.item index :: steps) (Value.arr items).sorted =
      items[index]?.bind fun v => follow steps v.sorted := by
  rw [Value.sorted_arr, follow, Step.child?, List.getElem?_map]
  cases items[index]? <;> rfl

theorem follow_sorted_member {members : List (String × Value)}
    (h : (members.map Prod.fst).Nodup) (key : String) (steps : List Step) :
    follow (.member key :: steps) (Value.obj members).sorted =
      (Keyed.get? key members).bind fun v => follow steps v.sorted := by
  rw [follow, Step.child?, Value.get?_sorted_obj h]
  change (Option.map Value.sorted (Keyed.get? key members)).bind _ = _
  cases Keyed.get? key members <;> rfl

section Spelled

variable {key text : String → Prop} {v w : Value}

theorem spelled_child {step : Step} (h : v.Spelled key text) (hchild : step.child? v = some w) :
    step.Spelled key ∧ w.Spelled key text := by
  cases h with
  | arr hitems =>
      cases step with
      | member k => cases hchild
      | item index => exact ⟨trivial, hitems w (List.mem_of_getElem? hchild)⟩
  | obj hkeys hmembers =>
      cases step with
      | member k =>
          have hmem := Keyed.mem_of_get? hchild
          exact ⟨hkeys _ hmem, hmembers _ hmem⟩
      | item index => cases hchild
  | _ => cases step <;> cases hchild

/-- What steps lead to has the properties, and so have the keys of the steps. -/
theorem spelled_follow {steps : List Step} (h : v.Spelled key text)
    (hfollow : follow steps v = some w) :
    (∀ step ∈ steps, step.Spelled key) ∧ w.Spelled key text := by
  induction steps generalizing v with
  | nil =>
      obtain rfl := Option.some.inj hfollow
      exact ⟨List.forall_mem_nil _, h⟩
  | cons step rest ih =>
      obtain ⟨child, hchild, hrest⟩ := Option.bind_eq_some_iff.1 hfollow
      obtain ⟨hstep, hspelled⟩ := spelled_child h hchild
      obtain ⟨hsteps, hw⟩ := ih hspelled hrest
      exact ⟨List.forall_mem_cons.2 ⟨hstep, hsteps⟩, hw⟩

end Spelled

/-! ### Leaves -/

/-- A scalar and the steps to it. -/
structure Leaf where
  steps : List Step
  value : Value

mutual

def leavesAt (steps : List Step) : Value → List Leaf
  | .obj members => memberLeaves steps members
  | .arr items => itemLeaves steps 0 items
  | v => [⟨steps, v⟩]

def memberLeaves (steps : List Step) : List (String × Value) → List Leaf
  | [] => []
  | (key, v) :: rest => leavesAt (steps ++ [.member key]) v ++ memberLeaves steps rest

def itemLeaves (steps : List Step) (index : Nat) : List Value → List Leaf
  | [] => []
  | v :: rest => leavesAt (steps ++ [.item index]) v ++ itemLeaves steps (index + 1) rest

end

def leaves (v : Value) : List Leaf := leavesAt [] v

theorem leavesAt_scalar {v : Value} (h : v.IsScalar) (steps : List Step) :
    leavesAt steps v = [⟨steps, v⟩] := by
  cases v with
  | arr items => cases h
  | obj members => cases h
  | _ => rfl

theorem flatten_eq (v : Value) (steps : List Step) :
    flatten (pathText steps) v =
      (leavesAt steps v).map fun leaf => leafLine (pathText leaf.steps) leaf.value := by
  induction v using Value.induct generalizing steps with
  | null | bool b | num n | str text => rfl
  | arr items ih =>
      have hitems (index : Nat) : flattenItems (pathText steps) index items =
          (itemLeaves steps index items).map fun leaf =>
            leafLine (pathText leaf.steps) leaf.value := by
        induction items generalizing index with
        | nil => rfl
        | cons v rest ih' =>
            obtain ⟨hv, hrest⟩ := List.forall_mem_cons.1 ih
            have hstep := hv (steps ++ [.item index])
            rw [pathText_concat] at hstep
            rw [flattenItems, itemLeaves, List.map_append, ← hstep, ih' hrest]
            rfl
      exact hitems 0
  | obj members ih =>
      rw [flatten, leavesAt]
      -- Unlike items, members do not count on, so nothing has to be generalized.
      induction members with
      | nil => rfl
      | cons entry rest ih' =>
          obtain ⟨key, v⟩ := entry
          obtain ⟨hv, hrest⟩ := List.forall_mem_cons.1 ih
          have hstep := hv (steps ++ [.member key])
          rw [pathText_concat] at hstep
          rw [flattenMembers, memberLeaves, List.map_append, ← hstep, ih' hrest]
          rfl

theorem mem_memberLeaves {steps : List Step} {members : List (String × Value)} {leaf : Leaf} :
    leaf ∈ memberLeaves steps members ↔
      ∃ key v, (key, v) ∈ members ∧ leaf ∈ leavesAt (steps ++ [.member key]) v := by
  induction members with
  | nil => simp [memberLeaves]
  | cons entry rest ih =>
      obtain ⟨key, v⟩ := entry
      rw [memberLeaves, List.mem_append, ih]
      constructor
      · rintro (h | ⟨other, w, hmem, h⟩)
        · exact ⟨key, v, List.mem_cons_self, h⟩
        · exact ⟨other, w, List.mem_cons_of_mem _ hmem, h⟩
      · rintro ⟨other, w, hmem, h⟩
        rcases List.mem_cons.1 hmem with heq | hmem
        · cases heq
          exact .inl h
        · exact .inr ⟨other, w, hmem, h⟩

theorem mem_itemLeaves {steps : List Step} {start : Nat} {items : List Value} {leaf : Leaf} :
    leaf ∈ itemLeaves steps start items ↔
      ∃ index v, items[index]? = some v ∧ leaf ∈ leavesAt (steps ++ [.item (start + index)]) v := by
  induction items generalizing start with
  | nil => simp [itemLeaves]
  | cons v rest ih =>
      rw [itemLeaves, List.mem_append, ih]
      constructor
      · rintro (h | ⟨index, w, hget, h⟩)
        · exact ⟨0, v, rfl, h⟩
        · refine ⟨index + 1, w, hget, ?_⟩
          rwa [Nat.add_assoc, Nat.add_comm 1] at h
      · rintro ⟨index, w, hget, h⟩
        cases index with
        | zero =>
            cases hget
            exact .inl h
        | succ index =>
            refine .inr ⟨index, w, hget, ?_⟩
            rwa [Nat.add_assoc, Nat.add_comm 1]

/-- A scalar is listed with exactly the steps that lead to it. -/
theorem mem_leavesAt {v : Value} (h : v.InOrder) {steps : List Step} {leaf : Leaf} :
    leaf ∈ leavesAt steps v ↔
      ∃ rest, leaf.steps = steps ++ rest ∧ follow rest v = some leaf.value ∧
        leaf.value.IsScalar := by
  induction h generalizing steps with
  | @scalar v hv =>
      rw [leavesAt_scalar hv, List.mem_singleton]
      constructor
      · rintro rfl
        exact ⟨[], (List.append_nil _).symm, rfl, hv⟩
      · rintro ⟨rest, hsteps, hfollow, -⟩
        obtain ⟨rfl, hvalue⟩ := (follow_scalar hv).1 hfollow
        obtain ⟨_, _⟩ := leaf
        rw [List.append_nil] at hsteps
        exact congrArg₂ Leaf.mk hsteps hvalue
  | @arr items _ ih =>
      rw [leavesAt, mem_itemLeaves]
      constructor
      · rintro ⟨index, v, hget, hleaf⟩
        rw [ih v (List.mem_of_getElem? hget), Nat.zero_add] at hleaf
        obtain ⟨rest, hsteps, hfollow, hscalar⟩ := hleaf
        refine ⟨.item index :: rest, by simp [hsteps], ?_, hscalar⟩
        rw [follow, Step.child?, hget, Option.bind_some, hfollow]
      · rintro ⟨rest, hsteps, hfollow, hscalar⟩
        obtain ⟨step, rest, v, rfl, hchild, hrest⟩ := exists_of_follow id hscalar hfollow
        cases step with
        | member key => cases hchild
        | item index =>
            refine ⟨index, v, hchild, (ih v (List.mem_of_getElem? hchild)).2 ?_⟩
            exact ⟨rest, by simp [hsteps], hrest, hscalar⟩
  | @obj members hordered _ ih =>
      rw [leavesAt, mem_memberLeaves]
      constructor
      · rintro ⟨key, v, hmem, hleaf⟩
        rw [ih (key, v) hmem] at hleaf
        obtain ⟨rest, hsteps, hfollow, hscalar⟩ := hleaf
        refine ⟨.member key :: rest, by simp [hsteps], ?_, hscalar⟩
        rw [follow, Step.child?, Value.get?, (Keyed.mem_iff_get? hordered).1 hmem,
          Option.bind_some, hfollow]
      · rintro ⟨rest, hsteps, hfollow, hscalar⟩
        obtain ⟨step, rest, v, rfl, hchild, hrest⟩ := exists_of_follow id hscalar hfollow
        cases step with
        | item index => cases hchild
        | member key =>
            have hmem := (Keyed.mem_iff_get? hordered).2 hchild
            refine ⟨key, v, hmem, (ih (key, v) hmem).2 ?_⟩
            exact ⟨rest, by simp [hsteps], hrest, hscalar⟩

theorem mem_leaves_iff {v : Value} (h : v.InOrder) {leaf : Leaf} :
    leaf ∈ leaves v ↔ follow leaf.steps v = some leaf.value ∧ leaf.value.IsScalar := by
  rw [leaves, mem_leavesAt h]
  constructor
  · rintro ⟨rest, hsteps, hleaf⟩
    rw [hsteps]
    exact hleaf
  · exact fun hleaf => ⟨leaf.steps, rfl, hleaf⟩

/-! ### The order of the leaves -/

/-- One way comes before another: where they part, the step of the first comes before that of the
other. -/
def StepsBefore : List Step → List Step → Prop := List.Lex Step.Before

theorem stepsBefore_append (steps : List Step) {rest others : List Step}
    (h : StepsBefore rest others) : StepsBefore (steps ++ rest) (steps ++ others) := by
  induction steps with
  | nil => exact h
  | cons step steps ih => exact .cons ih

/-- Ways that part at the given steps. -/
theorem stepsBefore_of_before {steps : List Step} {step other : Step} (h : step.Before other)
    (rest others : List Step) :
    StepsBefore (steps ++ [step] ++ rest) (steps ++ [other] ++ others) := by
  rw [List.append_assoc, List.append_assoc]
  exact stepsBefore_append steps (.rel h)

/-- The leaves come in the order of the ways to them. -/
theorem pairwise_leavesAt {v : Value} (h : v.InOrder) (steps : List Step) :
    (leavesAt steps v).Pairwise fun leaf other => StepsBefore leaf.steps other.steps := by
  induction h generalizing steps with
  | scalar hv =>
      rw [leavesAt_scalar hv]
      exact List.pairwise_singleton _ _
  | @arr items hitems ih =>
      have hfrom (start : Nat) : (itemLeaves steps start items).Pairwise fun leaf other =>
          StepsBefore leaf.steps other.steps := by
        induction items generalizing start with
        | nil => exact .nil
        | cons v rest ih' =>
            obtain ⟨hv, hrest⟩ := List.forall_mem_cons.1 ih
            obtain ⟨hvOrder, hrestOrder⟩ := List.forall_mem_cons.1 hitems
            refine List.pairwise_append.2 ⟨hv _, ih' hrestOrder hrest _, ?_⟩
            intro leaf hleaf other hother
            obtain ⟨index, w, hget, hother⟩ := mem_itemLeaves.1 hother
            obtain ⟨way, hway, -⟩ := (mem_leavesAt hvOrder).1 hleaf
            obtain ⟨otherWay, hotherWay, -⟩ :=
              (mem_leavesAt (hrestOrder w (List.mem_of_getElem? hget))).1 hother
            rw [hway, hotherWay]
            exact stepsBefore_of_before (.item (by omega)) way otherWay
      exact hfrom 0
  | @obj members hordered hmembers ih =>
      rw [leavesAt]
      induction members with
      | nil => exact .nil
      | cons entry rest ih' =>
          obtain ⟨key, v⟩ := entry
          obtain ⟨hhead, htail⟩ := Keyed.ordered_cons.1 hordered
          obtain ⟨hv, hrest⟩ := List.forall_mem_cons.1 ih
          obtain ⟨hvOrder, hrestOrder⟩ := List.forall_mem_cons.1 hmembers
          refine List.pairwise_append.2 ⟨hv _, ih' htail hrestOrder hrest, ?_⟩
          intro leaf hleaf other hother
          obtain ⟨otherKey, w, hmem, hother⟩ := mem_memberLeaves.1 hother
          obtain ⟨way, hway, -⟩ := (mem_leavesAt hvOrder).1 hleaf
          obtain ⟨otherWay, hotherWay, -⟩ := (mem_leavesAt (hrestOrder _ hmem)).1 hother
          rw [hway, hotherWay]
          exact stepsBefore_of_before (.member (hhead _ (List.mem_map_of_mem hmem))) way otherWay

end SchemaPages.Report
