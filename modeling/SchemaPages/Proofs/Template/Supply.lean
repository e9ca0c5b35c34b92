import SchemaPages.Template.Render

/-!
What a template needs. `Supplies scope last items` goes along the items and asks, of every item that
is reached, for what it takes from the scope. A template gives a text from exactly the scopes that
supply its items, so where its tags stand decides about nothing but the place of a fault.
-/

namespace SchemaPages.Template

open Json (Value)

/-! ### What a scope has -/

def Has (name : String) (v : Value) : Prop := ∃ found, v.get? name = some found

/-- A collection is an array or an object. All its elements are as required. -/
inductive Consists (required : Value → Prop) : Value → Prop
  | items {items : List Value} : (∀ v ∈ items, required v) → Consists required (.arr items)
  | members {members : Json.Members} :
      (∀ entry ∈ members, required entry.2) → Consists required (.obj members)

/-- The value is an object whose member of this name is a collection of what is required. -/
def HasEach (name : String) (required : Value → Prop) (v : Value) : Prop :=
  ∃ found, v.get? name = some found ∧ Consists required found

def HasCollection (name : String) (v : Value) : Prop := HasEach name (fun _ => True) v

/-! ### What items need -/

/-- Every element is as required, being told whether it is the last. -/
def EveryElement (required : Value → Bool → Prop) : List Value → Prop
  | [] => True
  | v :: rest => required v rest.isEmpty ∧ EveryElement required rest

mutual

/-- What an item takes from the scope is there. What a part takes is asked for only where the part
is not left out, and what a repetition takes is asked of every element. -/
def Item.SuppliedBy (scope : Value) (last : Bool) : Item → Prop
  | .text _ => True
  | .escaped term => ∃ v, term.value? scope = .ok v
  | .raw term => ∃ v, term.value? scope = .ok v
  | .each name body =>
    ∃ elements, elements? scope name = .ok elements ∧
      EveryElement (fun v last => Supplies v last body) elements
  | .whenSet name body => isSetMember scope name = true → Supplies scope last body
  | .unlessLast body => last = false → Supplies scope last body

/-- What the items take from the scope is there. -/
def Supplies (scope : Value) (last : Bool) : List Item → Prop
  | [] => True
  | item :: rest => item.SuppliedBy scope last ∧ Supplies scope last rest

end

variable {scope : Value} {last : Bool} {name : String} {items rest body : List Item}
variable {required : Value → Prop}

@[simp] theorem supplies_nil : Supplies scope last [] := trivial

@[simp] theorem supplies_cons {item : Item} :
    Supplies scope last (item :: rest) ↔ item.SuppliedBy scope last ∧ Supplies scope last rest :=
  Iff.rfl

@[simp] theorem supplies_append :
    Supplies scope last (items ++ rest) ↔ Supplies scope last items ∧ Supplies scope last rest := by
  induction items with
  | nil => simp
  | cons item items ih => rw [List.cons_append, supplies_cons, supplies_cons, ih, and_assoc]

@[simp] theorem suppliedBy_text {content : String} : (Item.text content).SuppliedBy scope last :=
  trivial

@[simp] theorem suppliedBy_this :
    (Item.escaped .this).SuppliedBy scope last ∧ (Item.raw .this).SuppliedBy scope last :=
  ⟨⟨scope, rfl⟩, scope, rfl⟩

@[simp] theorem suppliedBy_unlessLast (h : Supplies scope false body) :
    (Item.unlessLast body).SuppliedBy scope last := by
  rintro rfl
  exact h

theorem member?_eq_ok_iff {v : Value} : member? scope name = .ok v ↔ scope.get? name = some v := by
  cases scope with
  | obj members =>
      rw [member?, Value.get?]
      cases Keyed.get? name members <;> simp
  | _ => simp [member?, Value.get?]

@[simp] theorem suppliedBy_member :
    ((Item.escaped (.member name)).SuppliedBy scope last ↔ Has name scope) ∧
      ((Item.raw (.member name)).SuppliedBy scope last ↔ Has name scope) := by
  have hmember : (∃ v, member? scope name = .ok v) ↔ Has name scope :=
    exists_congr fun _ => member?_eq_ok_iff
  exact ⟨hmember, hmember⟩

/-- A part that hangs on a member is asked for only if there is such a member and it holds
something. -/
theorem suppliedBy_whenSet :
    (Item.whenSet name body).SuppliedBy scope last ↔
      ∀ found, scope.get? name = some found → isSet found = true → Supplies scope last body := by
  rw [Item.SuppliedBy, isSetMember]
  cases hmember : member? scope name with
  | ok v => simp [member?_eq_ok_iff.1 hmember]
  | error kind =>
      have hnone : ∀ found, scope.get? name ≠ some found := by
        intro found hfound
        rw [member?_eq_ok_iff.2 hfound] at hmember
        cases hmember
      simp [hnone]

theorem everyElement_iff {body : Value → Bool → Prop} (h : ∀ v last, body v last ↔ required v)
    (elements : List Value) : EveryElement body elements ↔ ∀ v ∈ elements, required v := by
  induction elements with
  | nil => simp [EveryElement]
  | cons v rest ih => rw [EveryElement, h, ih, List.forall_mem_cons]

/-- A repetition whose body needs the same of every element needs a collection of such
elements. -/
theorem suppliedBy_each (h : ∀ v last, Supplies v last body ↔ required v) :
    (Item.each name body).SuppliedBy scope last ↔ HasEach name required scope := by
  simp only [Item.SuppliedBy, everyElement_iff h, elements?]
  constructor
  · rintro ⟨elements, helements, hall⟩
    cases hmember : member? scope name with
    | error kind =>
        rw [hmember] at helements
        cases helements
    | ok found =>
        rw [hmember] at helements
        refine ⟨found, member?_eq_ok_iff.1 hmember, ?_⟩
        cases found with
        | arr items =>
            cases helements
            exact .items hall
        | obj members =>
            cases helements
            exact .members (List.forall_mem_map.1 hall)
        | _ => cases helements
  · rintro ⟨found, hmember, hfound⟩
    rw [member?_eq_ok_iff.2 hmember]
    cases hfound with
    | items hall => exact ⟨_, rfl, hall⟩
    | members hall => exact ⟨_, rfl, List.forall_mem_map.2 hall⟩

/-- A repetition whose body takes nothing but the elements themselves needs a collection. -/
theorem suppliedBy_each_any (h : ∀ v last, Supplies v last body) :
    (Item.each name body).SuppliedBy scope last ↔ HasCollection name scope :=
  suppliedBy_each fun v last => iff_true_intro (h v last)

/-! ### Texts -/

theorem exists_append_iff {ε : Type} {first others : Except ε String} :
    (∃ text, (do
      let s ← first
      let t ← others
      return s ++ t) = .ok text) ↔ (∃ s, first = .ok s) ∧ ∃ t, others = .ok t := by
  constructor
  · rintro ⟨text, h⟩
    cases first with
    | error fault => cases h
    | ok s =>
        cases others with
        | error fault => cases h
        | ok t => exact ⟨⟨s, rfl⟩, t, rfl⟩
  · rintro ⟨⟨s, rfl⟩, t, rfl⟩
    exact ⟨s ++ t, rfl⟩

theorem exists_repeatFor_iff {ε : Type} {body : Value → Bool → Except ε String}
    {required : Value → Bool → Prop}
    (hbody : ∀ v last, (∃ text, body v last = .ok text) ↔ required v last)
    (elements : List Value) :
    (∃ text, repeatFor body elements = .ok text) ↔ EveryElement required elements := by
  induction elements with
  | nil => exact ⟨fun _ => trivial, fun _ => ⟨"", rfl⟩⟩
  | cons v rest ih => rw [repeatFor, exists_append_iff, hbody, ih, EveryElement]

theorem exists_gap_iff {value? : Except FaultKind Value} {write : Value → String} {place : Place} :
    (∃ text : String, (match value? with
      | .ok v => .ok (write v)
      | .error kind => .error ⟨kind, place⟩ : Except Fault String) = .ok text) ↔
      ∃ v, value? = .ok v := by
  cases value? with
  | ok v => exact ⟨fun _ => ⟨v, rfl⟩, fun _ => ⟨write v, rfl⟩⟩
  | error kind => simp

mutual

theorem exists_renderItem_iff (scope : Value) (last : Bool) (place : Place) (item : Item) :
    (∃ text, renderItem scope last place item = .ok text) ↔ item.SuppliedBy scope last := by
  cases item with
  | text content => exact ⟨fun _ => trivial, fun _ => ⟨content, rfl⟩⟩
  | escaped term => exact exists_gap_iff
  | raw term => exact exists_gap_iff
  | each name body =>
      rw [renderItem, Item.SuppliedBy]
      cases elements? scope name with
      | error kind => simp
      | ok elements =>
          have hbody := exists_repeatFor_iff (fun v last => exists_render_iff v last
            (place.after (opening ("each " ++ name))) body) elements
          simpa using hbody
  | whenSet name body =>
      rw [renderItem, Item.SuppliedBy]
      cases isSetMember scope name with
      | false => simp
      | true => simpa using exists_render_iff scope last _ body
  | unlessLast body =>
      rw [renderItem, Item.SuppliedBy]
      cases last with
      | true => simp
      | false => simpa using exists_render_iff scope false _ body

/-- Items give a text exactly from what supplies them. -/
theorem exists_render_iff (scope : Value) (last : Bool) (place : Place) (items : List Item) :
    (∃ text, render scope last place items = .ok text) ↔ Supplies scope last items := by
  cases items with
  | nil => exact ⟨fun _ => trivial, fun _ => ⟨"", rfl⟩⟩
  | cons item rest =>
      rw [render, exists_append_iff, exists_renderItem_iff scope last place item,
        exists_render_iff scope last _ rest, Supplies]

end

end SchemaPages.Template
