import SchemaPages.Json.Record
import SchemaPages.Proofs.Json.Values

/-!
Decoding what was encoded, and what decoding guarantees. A value decodes to a result if it does so
both as it stands and with the members of its objects in order; a record does if each of its fields
does. In the other direction, what every decoded field has the decoded record has. An optional field
is read exactly if it is missing, null or of the type that its decoder takes.
-/

namespace SchemaPages.Json

variable {α β : Type}

/-! ### Decoding encoded values -/

/-- The value decodes to the result, in whatever order its members stand. -/
def Decodes (decode : Decoder α) (v : Value) (a : α) : Prop :=
  decode v = .ok a ∧ decode v.sorted = .ok a

def Decoder.RefusesNull (decode : Decoder α) : Prop := ∀ a, decode .null ≠ .ok a

theorem Decoder.refusesNull_text : Decoder.text.RefusesNull := fun _ h => by cases h

theorem Decoder.refusesNull_list (decode : Decoder α) : (Decoder.list decode).RefusesNull :=
  fun _ h => by cases h

theorem RecordShape.refusesNull (shape : RecordShape) (build : Fields → Reading α) :
    (shape.decode build).RefusesNull :=
  fun _ h => by cases h

theorem nullable_of_ok {decode : Decoder α} (hnull : decode.RefusesNull) {v : Value} {a : α}
    (h : decode v = .ok a) : Decoder.nullable decode v = .ok (some a) := by
  have hmap : (decode v).map some = .ok (some a) := by rw [h]; rfl
  cases v with
  | null => exact absurd h (hnull a)
  | _ => exact hmap

theorem mapM_map_of_ok {decode : Decoder α} {f : α → Value} {items : List α}
    (h : ∀ a ∈ items, decode (f a) = .ok a) : (items.map f).mapM decode = .ok items := by
  induction items with
  | nil => rfl
  | cons a rest ih =>
      obtain ⟨ha, hrest⟩ := List.forall_mem_cons.1 h
      rw [List.map_cons, List.mapM_cons, ha, ih hrest]
      rfl

namespace Decodes

theorem text (s : String) : Decodes Decoder.text (.str s) s := ⟨rfl, rfl⟩

theorem flag (b : Bool) : Decodes Decoder.flag (.bool b) b := ⟨rfl, rfl⟩

theorem nullable_null (decode : Decoder α) : Decodes (Decoder.nullable decode) .null none :=
  ⟨rfl, rfl⟩

theorem nullable {decode : Decoder α} {v : Value} {a : α} (hnull : decode.RefusesNull)
    (h : Decodes decode v a) : Decodes (Decoder.nullable decode) v (some a) :=
  ⟨nullable_of_ok hnull h.1, nullable_of_ok hnull h.2⟩

theorem list {decode : Decoder α} {encode : α → Value} {items : List α}
    (h : ∀ a ∈ items, Decodes decode (encode a) a) :
    Decodes (Decoder.list decode) (.arr (items.map encode)) items := by
  refine ⟨mapM_map_of_ok fun a ha => (h a ha).1, ?_⟩
  rw [Value.sorted_arr, List.map_map]
  exact mapM_map_of_ok fun a ha => (h a ha).2

end Decodes

/-- The fields are the given members, which may be put in order. -/
def Fields.Has (fields : Fields) (members : List (String × Value)) : Prop :=
  (∀ key, fields.value? key = Keyed.get? key members) ∨
    ∀ key, fields.value? key = (Keyed.get? key members).map Value.sorted

namespace Fields.Has

variable {fields : Fields} {members : List (String × Value)} {key : String} {v : Value} {a : α}
  {decode : Decoder α}

theorem map_value? (h : fields.Has members) (hv : Keyed.get? key members = some v)
    (hdecodes : Decodes decode v a) : (fields.value? key).map decode = some (.ok a) := by
  rcases h with h | h
  · rw [h, hv, Option.map_some, hdecodes.1]
  · rw [h, hv, Option.map_some, Option.map_some, hdecodes.2]

theorem required (h : fields.Has members) (hv : Keyed.get? key members = some v)
    (hdecodes : Decodes decode v a) : fields.required key decode = .read a := by
  rw [Fields.required, h.map_value? hv hdecodes]
  rfl

theorem defaulted (h : fields.Has members) (hv : Keyed.get? key members = some v)
    (hdecodes : Decodes decode v a) (absent : α) :
    fields.defaulted key absent decode = .read a := by
  rw [Fields.defaulted, h.map_value? hv hdecodes]
  rfl

theorem optional {o : Option α} (h : fields.Has members) (hv : Keyed.get? key members = some v)
    (hdecodes : Decodes (Decoder.nullable decode) v o) : fields.optional key decode = .read o :=
  h.defaulted hv hdecodes none

end Fields.Has

/-- An object decodes to a record if its members do, being the fields of the record. -/
theorem RecordShape.decodes {shape : RecordShape} {build : Fields → Reading α}
    {members : List (String × Value)} {a : α} (hkeys : members.map Prod.fst = shape.keys)
    (hnodup : shape.keys.Nodup)
    (h : ∀ fields : Fields, fields.Has members → build fields = .read a) :
    Decodes (shape.decode build) (.obj members) a := by
  constructor
  · rw [RecordShape.decode, h _ (.inl fun _ => rfl)]
    rfl
  · rw [← hkeys] at hnodup
    have hget := Value.get?_sorted_obj hnodup
    rw [Value.sorted_obj] at hget ⊢
    rw [RecordShape.decode, h _ (.inr ?_)]
    · rfl
    · exact hget

/-! ### What decoding guarantees -/

namespace Reading

theorem seq_eq_read {f : Reading (α → β)} {x : Reading α} {b : β} :
    f <*> x = .read b ↔ ∃ g a, f = .read g ∧ x = .read a ∧ g a = b := by
  constructor
  · intro h
    change f.ap x = .read b at h
    cases f with
    | read g =>
        cases x with
        | read a =>
            cases h
            exact ⟨g, a, rfl, rfl, rfl⟩
        | troubled turn error => cases h
    | troubled turn error =>
        cases x with
        | read a => cases h
        | troubled turn' error' =>
            rw [ap] at h
            split at h <;> cases h
  · rintro ⟨g, a, rfl, rfl, rfl⟩
    rfl

theorem map_eq_read {f : α → β} {x : Reading α} {b : β} :
    f <$> x = .read b ↔ ∃ a, x = .read a ∧ f a = b := by
  cases x with
  | read a =>
      constructor
      · intro h
        cases h
        exact ⟨a, rfl, rfl⟩
      · rintro ⟨_, hread, rfl⟩
        cases hread
        rfl
  | troubled turn error =>
      constructor
      · intro h
        cases h
      · rintro ⟨_, hread, -⟩
        cases hread

theorem settle_eq_ok_iff {x : Reading α} {a : α} : x.settle = .ok a ↔ x = .read a := by
  cases x <;> simp [settle]

end Reading

theorem exists_of_mem_mapM {decode : Decoder α} {items : List Value} {decoded : List α}
    (h : items.mapM decode = .ok decoded) {a : α} (ha : a ∈ decoded) :
    ∃ v ∈ items, decode v = .ok a := by
  induction items generalizing decoded with
  | nil =>
      cases h
      cases ha
  | cons v rest ih =>
      rw [List.mapM_cons] at h
      cases hv : decode v with
      | error error =>
          rw [hv] at h
          cases h
      | ok first =>
          cases hrest : rest.mapM decode with
          | error error =>
              rw [hv, hrest] at h
              cases h
          | ok others =>
              rw [hv, hrest] at h
              cases h
              rcases List.mem_cons.1 ha with rfl | ha
              · exact ⟨v, List.mem_cons_self, hv⟩
              · obtain ⟨w, hw, hdecode⟩ := ih hrest ha
                exact ⟨w, List.mem_cons_of_mem _ hw, hdecode⟩

theorem nullable_eq_some {decode : Decoder α} {v : Value} {a : α}
    (h : Decoder.nullable decode v = .ok (some a)) : decode v = .ok a := by
  have hmap (hv : (decode v).map some = .ok (some a)) : decode v = .ok a := by
    cases hdecode : decode v with
    | error error =>
        rw [hdecode] at hv
        cases hv
    | ok b =>
        rw [hdecode] at hv
        cases hv
        rfl
  cases v with
  | null => cases h
  | _ => exact hmap h

def RecordShape.fields? (shape : RecordShape) : Value → Option Fields
  | .obj members => some ⟨shape, .members members⟩
  | .arr items => some ⟨shape, .items items⟩
  | _ => none

/-- A record is decoded where its fields are read, and there are no more items than fields. -/
theorem RecordShape.decode_eq_ok_iff {shape : RecordShape} {build : Fields → Reading α}
    {v : Value} {a : α} :
    shape.decode build v = .ok a ↔
      ∃ fields, shape.fields? v = some fields ∧ build fields = .read a ∧
        ∀ items, v = .arr items → items.length ≤ shape.keys.length := by
  cases v with
  | obj members => simp [decode, fields?, Reading.settle_eq_ok_iff]
  | arr items =>
      simp only [decode, fields?, settleItems, Option.some.injEq, exists_eq_left',
        ← Reading.settle_eq_ok_iff, Value.arr.injEq, forall_eq']
      cases (build ⟨shape, .items items⟩).settle with
      | error error => simp
      | ok b =>
          simp only [Except.ok.injEq]
          split
          · rename_i hlength
            simp [hlength]
          · rename_i hlength
            simp [Nat.le_of_not_lt hlength]
  | _ => simp [decode, fields?]

theorem RecordShape.exists_of_decode {shape : RecordShape} {build : Fields → Reading α}
    {v : Value} {a : α} (h : shape.decode build v = .ok a) :
    ∃ fields, shape.fields? v = some fields ∧ build fields = .read a := by
  obtain ⟨fields, hfields, hread, -⟩ := decode_eq_ok_iff.1 h
  exact ⟨fields, hfields, hread⟩

def Decoder.Ensures (decode : Decoder α) (P : α → Prop) : Prop := ∀ v a, decode v = .ok a → P a

namespace Fields

variable {fields : Fields} {key : String} {decode : Decoder α} {a : α}

theorem reading_eq_read {found : Option (Except DecodeError α)} {absent : Reading α}
    (h : fields.reading key found absent = .read a) : found = some (.ok a) ∨ absent = .read a := by
  unfold reading at h
  split at h
  · cases h
    exact .inl rfl
  · cases h
  · exact .inr h

theorem exists_of_required (h : fields.required key decode = .read a) :
    ∃ v, fields.value? key = some v ∧ decode v = .ok a := by
  rcases reading_eq_read h with hfound | hmissing
  · exact Option.map_eq_some_iff.1 hfound
  · cases hmissing

theorem eq_or_exists_of_defaulted {absent : α} (h : fields.defaulted key absent decode = .read a) :
    a = absent ∨ ∃ v, fields.value? key = some v ∧ decode v = .ok a := by
  rcases reading_eq_read h with hfound | habsent
  · exact .inr (Option.map_eq_some_iff.1 hfound)
  · cases habsent
    exact .inl rfl

end Fields

namespace Decoder.Ensures

variable {decode : Decoder α} {P : α → Prop} {fields : Fields} {key : String} {a : α}

theorem required (h : decode.Ensures P) (hread : fields.required key decode = .read a) : P a := by
  obtain ⟨v, -, hv⟩ := Fields.exists_of_required hread
  exact h v a hv

theorem defaulted {absent : α} (h : decode.Ensures P) (habsent : P absent)
    (hread : fields.defaulted key absent decode = .read a) : P a := by
  rcases Fields.eq_or_exists_of_defaulted hread with rfl | ⟨v, -, hv⟩
  · exact habsent
  · exact h v a hv

theorem list (h : decode.Ensures P) :
    (Decoder.list decode).Ensures fun items => ∀ a ∈ items, P a := by
  intro v decoded hdecoded a ha
  cases v with
  | arr items =>
      obtain ⟨w, -, hw⟩ := exists_of_mem_mapM hdecoded ha
      exact h w a hw
  | _ => cases hdecoded

theorem nullable (h : decode.Ensures P) :
    (Decoder.nullable decode).Ensures fun decoded => ∀ a ∈ decoded, P a := by
  intro v decoded hdecoded a ha
  rw [Option.mem_def.1 ha] at hdecoded
  exact h v a (nullable_eq_some hdecoded)

theorem record {shape : RecordShape} {build : Fields → Reading α}
    (h : ∀ fields a, build fields = .read a → P a) : (shape.decode build).Ensures P := by
  intro v a hv
  obtain ⟨fields, -, hread⟩ := RecordShape.exists_of_decode hv
  exact h fields a hread

theorem optional {o : Option α} (h : decode.Ensures P)
    (hread : fields.optional key decode = .read o) : ∀ a ∈ o, P a :=
  h.nullable.defaulted (by simp) hread

end Decoder.Ensures

/-! ### Optional fields -/

/-- What an optional field may hold: it is missing, null or holds something as it is written. -/
def IsOptional (write : α → Value) (found : Option Value) : Prop :=
  found = none ∨ found = some .null ∨ ∃ a, found = some (write a)

/-- The decoder takes what is written and nothing else, never null. -/
structure Decoder.Takes (decode : Decoder α) (write : α → Value) (read? : Value → Option α) :
    Prop where
  decode_iff : ∀ v a, decode v = .ok a ↔ v = write a
  read?_iff : ∀ v a, read? v = some a ↔ v = write a
  refusesNull : decode.RefusesNull

def Value.flag? : Value → Option Bool
  | .bool b => some b
  | _ => none

theorem Decoder.takes_text : Decoder.text.Takes .str Value.text? where
  decode_iff v a := by cases v <;> simp [text]
  read?_iff v a := by cases v <;> simp [Value.text?]
  refusesNull := refusesNull_text

theorem Decoder.takes_flag : Decoder.flag.Takes .bool Value.flag? where
  decode_iff v a := by cases v <;> simp [flag]
  read?_iff v a := by cases v <;> simp [Value.flag?]
  refusesNull := fun _ h => by cases h

namespace Decoder.Takes

variable {decode : Decoder α} {write : α → Value} {read? : Value → Option α}

theorem ne_null (h : decode.Takes write read?) (a : α) : write a ≠ .null :=
  fun hnull => h.refusesNull a ((h.decode_iff _ _).2 hnull.symm)

theorem nullable_eq_ok_iff (h : decode.Takes write read?) {v : Value} {o : Option α} :
    nullable decode v = .ok o ↔ IsOptional write (some v) ∧ o = read? v := by
  by_cases hnull : v = .null
  · subst hnull
    have hread : read? .null = none := by
      refine Option.eq_none_iff_forall_ne_some.2 fun a ha => ?_
      exact h.ne_null a ((h.read?_iff _ _).1 ha).symm
    simp [nullable, IsOptional, hread, eq_comm]
  · have hmap : nullable decode v = (decode v).map some := by
      cases v with
      | null => exact absurd rfl hnull
      | _ => rfl
    rw [hmap]
    cases hdecode : decode v with
    | ok a =>
        obtain rfl := (h.decode_iff _ _).1 hdecode
        have hread := (h.read?_iff (write a) a).2 rfl
        simp [Except.map, IsOptional, hread, eq_comm]
    | error error =>
        have hwrite (a : α) : v ≠ write a := by
          intro hv
          rw [(h.decode_iff _ _).2 hv] at hdecode
          cases hdecode
        simp [Except.map, IsOptional, hnull, hwrite]

theorem optional_eq_read_iff (h : decode.Takes write read?) {fields : Fields} {key : String}
    {o : Option α} :
    fields.optional key decode = .read o ↔
      IsOptional write (fields.value? key) ∧ o = (fields.value? key).bind read? := by
  unfold Fields.optional Fields.defaulted Fields.reading
  cases fields.value? key with
  | none => simp [IsOptional, eq_comm]
  | some v =>
      rw [Option.bind_some, ← h.nullable_eq_ok_iff, Option.map_some]
      cases nullable decode v <;> simp

end Decoder.Takes
end SchemaPages.Json
