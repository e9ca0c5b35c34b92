import SchemaPages.Introspection.Kind

/-!
References to types. A reference names a type, or it wraps another reference as a list of it or
as a value that is never null. Nothing keeps a schema from giving a wrapper a name or an inner
reference to a named type, so both parts are kept for either.
-/

namespace SchemaPages.Introspection

inductive TypeRef where
  | plain (kind : Kind) (name : Option String)
  | wrapping (kind : Kind) (name : Option String) (inner : TypeRef)
deriving DecidableEq

namespace TypeRef

def kind : TypeRef → Kind
  | .plain kind _ => kind
  | .wrapping kind _ _ => kind

def name : TypeRef → Option String
  | .plain _ name => name
  | .wrapping _ name _ => name

def inner : TypeRef → Option TypeRef
  | .plain _ _ => none
  | .wrapping _ _ inner => some inner

def ofParts (kind : Kind) (name : Option String) : Option TypeRef → TypeRef
  | none => .plain kind name
  | some inner => .wrapping kind name inner

def named (kind : Kind) (name : String) : TypeRef := .plain kind (some name)

def list (inner : TypeRef) : TypeRef := .wrapping .list none inner

def nonNull (inner : TypeRef) : TypeRef := .wrapping .nonNull none inner

/-- The outermost name. -/
def namedType : TypeRef → Option String
  | .plain _ name => name
  | .wrapping _ (some name) _ => some name
  | .wrapping _ none inner => inner.namedType

/-- Writes a reference in the notation of the schema language, names being written by `leaf`. A
reference without a name that wraps nothing is written as an empty name. -/
def write (leaf : String → String) : TypeRef → String
  | .wrapping .list _ inner => "[" ++ inner.write leaf ++ "]"
  | .wrapping .nonNull _ inner => inner.write leaf ++ "!"
  | .wrapping _ name _ | .plain _ name => leaf (name.getD "")

def display (ref : TypeRef) : String := ref.write id

end TypeRef

end SchemaPages.Introspection
