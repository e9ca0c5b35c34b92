/-!
The kinds of types that an introspected schema can name. A tag outside the eight of GraphQL is
kept as it is, so every tag survives being read and written.
-/

namespace SchemaPages.Introspection

inductive Kind where
  | scalar
  | object
  | interface
  | union
  | enumeration
  | inputObject
  | list
  | nonNull
  | other (tag : String)
deriving DecidableEq

namespace Kind

def tag : Kind → String
  | .scalar => "SCALAR"
  | .object => "OBJECT"
  | .interface => "INTERFACE"
  | .union => "UNION"
  | .enumeration => "ENUM"
  | .inputObject => "INPUT_OBJECT"
  | .list => "LIST"
  | .nonNull => "NON_NULL"
  | .other tag => tag

def known : List Kind :=
  [.scalar, .object, .interface, .union, .enumeration, .inputObject, .list, .nonNull]

def ofTag (tag : String) : Kind :=
  (known.find? (·.tag == tag)).getD (.other tag)

def isDocumented : Kind → Bool
  | .scalar | .object | .interface | .union | .enumeration | .inputObject => true
  | .list | .nonNull | .other _ => false

theorem tag_ofTag (tag : String) : (ofTag tag).tag = tag := by
  unfold ofTag
  cases h : known.find? (·.tag == tag) with
  | none => rfl
  | some kind => simpa using List.find?_some h

/-- No kind outside the eight carries one of their tags. -/
def IsProper : Kind → Prop
  | .other tag => ∀ kind ∈ known, kind.tag ≠ tag
  | _ => True

theorem isProper_ofTag (tag : String) : (ofTag tag).IsProper := by
  unfold ofTag
  cases h : known.find? (·.tag == tag) with
  | none =>
      intro kind hk
      simpa using List.find?_eq_none.1 h kind hk
  | some kind =>
      have hk := List.mem_of_find?_eq_some h
      simp only [known, List.mem_cons, List.not_mem_nil, or_false] at hk
      rcases hk with rfl | rfl | rfl | rfl | rfl | rfl | rfl | rfl <;> trivial

theorem ofTag_tag {kind : Kind} (h : kind.IsProper) : ofTag kind.tag = kind := by
  cases kind with
  | other tag =>
      have hf : known.find? (·.tag == tag) = none := by
        rw [List.find?_eq_none]
        intro kind hk
        simpa using h kind hk
      change (known.find? (·.tag == tag)).getD (.other tag) = .other tag
      rw [hf]
      rfl
  | _ => rfl

end Kind

end SchemaPages.Introspection
