import SchemaPages.Proofs.Introspection.Records

/-!
Envelopes around a schema. A schema may stand under `__schema`, and the object that it stands in
under `data`. One envelope is taken off, never a second, so that what is inside it is a schema as it
is: members of these names in it are members like others that a schema does not have. What is taken
out has to be an object, whatever stands beside it.
-/

namespace SchemaPages.Introspection

open Json (Value Members)

/-- The value has the body under `__schema`, which `data` comes before. Whatever else is there may
be anything. -/
inductive Wraps (body : Value) : Value → Prop
  | schema {v : Value} : v.get? "data" = none → v.get? "__schema" = some body → Wraps body v
  | response {v data : Value} :
      v.get? "data" = some data → data.get? "__schema" = some body → Wraps body v

def IsEnvelopeKey (key : String) : Prop := key = "data" ∨ key = "__schema"

instance (key : String) : Decidable (IsEnvelopeKey key) :=
  inferInstanceAs (Decidable (key = "data" ∨ key = "__schema"))

def bare : Value → Value
  | .obj members => .obj (members.filter fun entry => ¬IsEnvelopeKey entry.1)
  | v => v

/-- What is taken out of an envelope is no object, or what is there instead of one. -/
inductive TakesNoObject : Value → Prop
  | data {v taken : Value} :
      v.get? "data" = some taken → taken.members? = none → TakesNoObject v
  | schema {v taken : Value} :
      ((v.get? "data").getD v).get? "__schema" = some taken → taken.members? = none →
        TakesNoObject v
  | body {v : Value} : v.members? = none → TakesNoObject v

/-! ### Taking envelopes off -/

theorem wraps_insert {members : Members} (body : Value) (h : Keyed.get? "data" members = none) :
    Wraps body (.obj (Keyed.insert "__schema" body members)) := by
  refine .schema ?_ ?_
  · rw [Value.get?, Keyed.get?_insert, if_neg (by decide), h]
  · rw [Value.get?, Keyed.get?_insert, if_pos rfl]

theorem wraps_insert_data (body : Value) (members others : Members) :
    Wraps body
      (.obj (Keyed.insert "data" (.obj (Keyed.insert "__schema" body members)) others)) := by
  refine @Wraps.response _ _ (.obj (Keyed.insert "__schema" body members)) ?_ ?_
  all_goals rw [Value.get?, Keyed.get?_insert, if_pos rfl]

theorem get?_of_members? {v : Value} (h : v.members? = none) (key : String) :
    v.get? key = none := by
  cases v with
  | obj members => cases h
  | _ => rfl

theorem bare_of_get? {v : Value} (hdata : v.get? "data" = none)
    (hschema : v.get? "__schema" = none) : bare v = v := by
  cases v with
  | obj members =>
      have hnone : ∀ entry ∈ members, ¬IsEnvelopeKey entry.1 := fun entry hentry hkey =>
        hkey.elim (Keyed.get?_eq_none_iff.1 hdata entry hentry)
          (Keyed.get?_eq_none_iff.1 hschema entry hentry)
      rw [bare, List.filter_eq_self.2 fun entry hentry => decide_eq_true (hnone entry hentry)]
  | _ => rfl

theorem get?_bare (v : Value) (key : String) :
    (bare v).get? key = if IsEnvelopeKey key then none else v.get? key := by
  cases v with
  | obj members =>
      rw [bare, Value.get?, Keyed.get?_filter (fun key => ¬IsEnvelopeKey key), ite_not]
      rfl
  | _ => simp [bare, Value.get?]

namespace Schema

theorem ofData_of_get? {v : Value} (h : v.get? "__schema" = none) : ofData v = ofBody v := by
  rw [ofData, h, Option.getD_none]

theorem ofJson_of_get? {v : Value} (h : v.get? "data" = none) : ofJson v = ofData v := by
  rw [ofJson_eq, h, Option.getD_none]

theorem ofBody_of_members? {v : Value} (h : v.members? = none) :
    ofBody v = .error (.schema .notObject) := by
  cases v with
  | obj members => cases h
  | _ => rfl

/-- A schema does not have members that an envelope has. -/
theorem ofBody_bare (v : Value) : ofBody (bare v) = ofBody v := by
  cases v with
  | obj members =>
      refine ofBody_of_alike (.obj fun rule hrule => ?_)
      have hkey : ¬IsEnvelopeKey rule.key := by
        revert rule
        decide
      rw [Keyed.get?_filter (fun key => ¬IsEnvelopeKey key), if_pos hkey]
      exact .same _
  | _ => rfl

theorem ofJson_of_wraps {body v : Value} (h : Wraps body v) : ofJson v = ofBody body := by
  cases h with
  | schema hdata hschema => rw [ofJson_of_get? hdata, ofData, hschema, Option.getD_some]
  | response hdata hschema =>
      rw [ofJson_eq, hdata, Option.getD_some, ofData, hschema, Option.getD_some]

theorem ofJson_bare (v : Value) : ofJson (bare v) = ofBody v := by
  rw [ofJson_of_get? (by rw [get?_bare, if_pos (by decide)]),
    ofData_of_get? (by rw [get?_bare, if_pos (by decide)]), ofBody_bare]

/-- The surroundings of what is taken out are not read instead. -/
theorem ofJson_of_takesNoObject {v : Value} (h : TakesNoObject v) :
    ofJson v = .error (.schema .notObject) := by
  cases h with
  | @data taken hdata htaken =>
      rw [ofJson_eq, hdata, Option.getD_some, ofData_of_get? (get?_of_members? htaken _),
        ofBody_of_members? htaken]
  | schema hschema htaken =>
      rw [ofJson_eq, ofData, hschema, Option.getD_some, ofBody_of_members? htaken]
  | body hbody =>
      rw [ofJson_of_get? (get?_of_members? hbody _), ofData_of_get? (get?_of_members? hbody _),
        ofBody_of_members? hbody]

end Schema

theorem takesNoObject_of_wraps {body v : Value} (h : body.members? = none) (hv : Wraps body v) :
    TakesNoObject v := by
  cases hv with
  | schema hdata hschema =>
      refine .schema ?_ h
      rwa [hdata, Option.getD_none]
  | response hdata hschema =>
      refine .schema ?_ h
      rwa [hdata, Option.getD_some]

/-- Either envelope around a body may be put on with whatever else beside it, and gives what the
body gives without the members that an envelope has; a body without such members is not changed by
leaving them out. Where an envelope holds no object there is no schema. -/
theorem ofJson_envelopes (body : Value) :
    ((∀ members, Keyed.get? "data" members = none →
        Wraps body (.obj (Keyed.insert "__schema" body members))) ∧
      ∀ members others, Wraps body
        (.obj (Keyed.insert "data" (.obj (Keyed.insert "__schema" body members)) others))) ∧
    (∀ v, Wraps body v →
      Schema.ofJson v = Schema.ofBody body ∧ Schema.ofJson v = Schema.ofJson (bare body)) ∧
    (body.get? "data" = none → body.get? "__schema" = none → bare body = body) ∧
    (∀ v, TakesNoObject v → Schema.ofJson v = .error (.schema .notObject)) ∧
    (body.members? = none → ∀ v, v = body ∨ Wraps body v → TakesNoObject v) ∧
    SchemaFault.notObject.message = "schema must be a JSON object" := by
  refine ⟨⟨fun _ => wraps_insert body, wraps_insert_data body⟩, ?_, bare_of_get?, ?_, ?_, rfl⟩
  · intro v hv
    have hbody := Schema.ofJson_of_wraps hv
    exact ⟨hbody, hbody.trans (Schema.ofJson_bare body).symm⟩
  · exact fun v => Schema.ofJson_of_takesNoObject
  · rintro hbody v (rfl | hv)
    · exact .body hbody
    · exact takesNoObject_of_wraps hbody hv

/-- A schema of one type beside a member that an envelope has. -/
def doubled : Value :=
  .obj [("__schema", .null),
    ("types", .arr [.obj [("kind", .str "SCALAR"), ("name", .str "Date")]])]

/-- Inside an envelope that member plays no part, and without one it is taken. -/
theorem ofJson_doubled :
    (Wraps doubled (.obj [("__schema", doubled)]) ∧
      Schema.ofJson (.obj [("__schema", doubled)]) =
        .ok { types := [{ name := "Date", kind := .scalar }] }) ∧
    TakesNoObject doubled ∧ Schema.ofJson doubled = .error (.schema .notObject) := by
  obtain ⟨⟨hwraps, -⟩, hjson, -, hnone, -⟩ := ofJson_envelopes doubled
  have hwraps := hwraps [] rfl
  have htakes : TakesNoObject doubled := @TakesNoObject.schema _ .null rfl rfl
  exact ⟨⟨hwraps, (hjson _ hwraps).1⟩, htakes, hnone _ htakes⟩

end SchemaPages.Introspection
