import Mathlib.Logic.Relation
import SchemaPages.Proofs.Introspection.Records

/-!
Additions to a schema. Servers may tell more of a schema than is read of it: members that a record
does not have, and null for what is optional and absent. One such addition, in whatever record it is
made, keeps what is read, and so do any number of them.
-/

namespace SchemaPages.Introspection

open Json (Value)

/-- One addition inside a value that is read as what a field holds. -/
inductive Adds : Content → Value → Value → Prop
  /-- A member that the record does not have. -/
  | unknown {record : Record} {before after : List (String × Value)} {key : String} (v : Value) :
      key ∉ record.keys →
      Adds (.record record) (.obj (before ++ after)) (.obj (before ++ (key, v) :: after))
  /-- Null for an optional field that is absent. -/
  | null {record : Record} {before after : List (String × Value)} {rule : FieldRule} :
      rule ∈ record.rules → rule.isOptional = true →
      Keyed.get? rule.key (before ++ after) = none →
      Adds (.record record) (.obj (before ++ after)) (.obj (before ++ (rule.key, .null) :: after))
  /-- An addition inside a member of a record. -/
  | member {record : Record} {before after : List (String × Value)} {rule : FieldRule}
      {v w : Value} :
      rule ∈ record.rules → Adds rule.content v w →
      Adds (.record record) (.obj (before ++ (rule.key, v) :: after))
        (.obj (before ++ (rule.key, w) :: after))
  /-- An addition inside a field of a record that is written as an array. -/
  | field {record : Record} {items : List Value} {index : Nat} {rule : FieldRule} {v w : Value} :
      record.rules[index]? = some rule → items[index]? = some v → Adds rule.content v w →
      Adds (.record record) (.arr items) (.arr (items.set index w))
  /-- An addition inside one of several records. -/
  | item {record : Record} {items : List Value} {index : Nat} {v w : Value} :
      items[index]? = some v → Adds (.record record) v w →
      Adds (.records record) (.arr items) (.arr (items.set index w))

theorem Content.alike_of_record {record : Record} {v w : Value} (h : record.Alike v w) :
    (Content.record record).Alike v w :=
  ⟨h.ne_null.1, h.ne_null.2, h.read_eq⟩

theorem Adds.alike {content : Content} {v w : Value} (h : Adds content v w) :
    content.Alike v w := by
  induction h with
  | @unknown record before after key v hkey =>
      refine Content.alike_of_record (.obj fun rule hrule => ?_)
      have hne : rule.key ≠ key := fun heq => hkey (heq ▸ List.mem_map_of_mem hrule)
      rw [Keyed.get?_append, Keyed.get?_append, Keyed.get?_cons, if_neg hne]
      exact .same _
  | @null record before after rule hrule hoptional hnone =>
      refine Content.alike_of_record (.obj fun other hother => ?_)
      by_cases hkey : other.key = rule.key
      · obtain rfl := Record.rule_eq hother hrule hkey
        rw [Keyed.get?_append] at hnone ⊢
        rw [Keyed.get?_append, Keyed.get?_cons, if_pos rfl, hnone,
          (Option.or_eq_none_iff.1 hnone).1]
        exact .null hoptional
      · rw [Keyed.get?_append, Keyed.get?_append, Keyed.get?_cons, if_neg hkey]
        exact .same _
  | @member record before after rule v w hrule _ ih =>
      refine Content.alike_of_record (.obj fun other hother => ?_)
      simp only [Keyed.get?_append, Keyed.get?_cons]
      by_cases hkey : other.key = rule.key
      · obtain rfl := Record.rule_eq hother hrule hkey
        rw [if_pos rfl, if_pos rfl]
        cases Keyed.get? other.key before with
        | none => exact .inside ih
        | some found => exact .same _
      · rw [if_neg hkey, if_neg hkey]
        exact .same _
  | @field record items index rule v w hrule hv _ ih =>
      refine Content.alike_of_record (.arr List.length_set.symm fun other hother hrule' => ?_)
      rw [List.getElem?_set]
      split
      · rename_i hindex
        subst hindex
        obtain rfl := Option.some.inj (hrule.symm.trans hrule')
        rw [hv, if_pos (List.getElem?_eq_some_iff.1 hv).1]
        exact .inside ih
      · exact .same _
  | @item record items index v w hv _ ih =>
      obtain ⟨hindex, rfl⟩ := List.getElem?_eq_some_iff.1 hv
      refine ⟨items, _, rfl, rfl, ?_⟩
      rw [List.map_set, ih.2.2, ← List.getElem_map record.read, List.set_getElem_self]
      simpa using hindex

/-- Whatever is added to a response that a schema is taken from, and however much, the schema stays
the same, or the failure if there is none. -/
theorem ofJson_of_additions {v w : Value}
    (h : Relation.ReflTransGen (Adds (.record .response)) v w) :
    Schema.ofJson w = Schema.ofJson v := by
  induction h with
  | refl => rfl
  | tail _ hadds ih => exact hadds.alike.2.2.trans ih

/-- A schema of one type in a response. -/
def served (beside type : List (String × Value)) : Value :=
  .obj (("__schema", .obj [("types", .arr [.obj type])]) :: beside)

/-- The response `served` with a member beside the schema and two more members of the type. -/
def extended (type : List (String × Value)) : Value :=
  served [("extensions", .obj [])] (type ++ [("isOneOf", .bool false), ("interfaces", .null)])

theorem adds_served {type type' : List (String × Value)} (beside : List (String × Value))
    (h : Adds (.record .typeDef) (.obj type) (.obj type')) :
    Adds (.record .response) (served beside type) (served beside type') := by
  refine @Adds.member .response [] beside ⟨"__schema", false, .record .schema⟩ _ _ (by decide) ?_
  refine @Adds.member .schema [] [] ⟨"types", false, .records .typeDef⟩ _ _ (by decide) ?_
  exact @Adds.item .typeDef [_] 0 _ _ rfl h

theorem additions_extended (type : List (String × Value))
    (h : Keyed.get? "interfaces" type = none) :
    Relation.ReflTransGen (Adds (.record .response)) (served [] type) (extended type) := by
  have hbeside : Adds (.record .response) (served [] type)
      (served [("extensions", .obj [])] type) :=
    @Adds.unknown .response [_] [] "extensions" (.obj []) (by decide)
  have hnull : Adds (.record .typeDef) (.obj type) (.obj (type ++ [("interfaces", .null)])) := by
    have hadds := @Adds.null .typeDef type [] ⟨"interfaces", true, .records .typeRef⟩
    rw [List.append_nil] at hadds
    exact hadds (by decide) rfl h
  have hunknown := @Adds.unknown .typeDef type [("interfaces", .null)] "isOneOf" (.bool false)
    (by decide)
  exact ((Relation.ReflTransGen.single hbeside).tail (adds_served _ hnull)).tail
    (adds_served _ hunknown)

def query : List (String × Value) := [("kind", .str "OBJECT"), ("name", .str "Query")]

def nameless : List (String × Value) := [("kind", .str "OBJECT")]

/-- What was added changes neither a schema nor a failure. -/
theorem ofJson_extended :
    (Relation.ReflTransGen (Adds (.record .response)) (served [] query) (extended query) ∧
      Schema.ofJson (extended query) = .ok { types := [{ name := "Query", kind := .object }] }) ∧
    (Relation.ReflTransGen (Adds (.record .response)) (served [] nameless) (extended nameless) ∧
      Schema.ofJson (extended nameless) =
        .error (.schema (.badShape (.missingField "name")))) := by
  have hquery := additions_extended query rfl
  have hnameless := additions_extended nameless rfl
  exact ⟨⟨hquery, ofJson_of_additions hquery⟩, ⟨hnameless, ofJson_of_additions hnameless⟩⟩

end SchemaPages.Introspection
