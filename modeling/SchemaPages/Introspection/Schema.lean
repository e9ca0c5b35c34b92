import SchemaPages.Introspection.TypeRef

/-!
An introspected schema: its types, its directives and the types of its root operations. Members
that belong to one kind of type only are absent from the others.
-/

namespace SchemaPages.Introspection

/-- An argument, or a field of an input object. The default value is written as a literal. -/
structure InputValue where
  name : String
  description : Option String
  type : TypeRef
  defaultValue : Option String
deriving DecidableEq

structure Field where
  name : String
  description : Option String
  args : List InputValue
  type : TypeRef
  isDeprecated : Bool
  deprecationReason : Option String
deriving DecidableEq

structure EnumValue where
  name : String
  description : Option String
  isDeprecated : Bool
  deprecationReason : Option String
deriving DecidableEq

structure TypeDef where
  name : String
  kind : Kind
  description : Option String := none
  fields : Option (List Field) := none
  inputFields : Option (List InputValue) := none
  interfaces : Option (List TypeRef) := none
  enumValues : Option (List EnumValue) := none
  possibleTypes : Option (List TypeRef) := none
deriving DecidableEq

/-- A directive. The name goes without its sign. -/
structure Directive where
  name : String
  description : Option String := none
  locations : List String := []
  args : List InputValue := []
  isRepeatable : Bool := false
deriving DecidableEq

structure RootType where
  name : String
deriving DecidableEq

structure Schema where
  types : List TypeDef := []
  directives : List Directive := []
  queryType : Option RootType := none
  mutationType : Option RootType := none
  subscriptionType : Option RootType := none
deriving DecidableEq

inductive Operation where
  | query
  | mutation
  | subscription
deriving DecidableEq

def Operation.text : Operation → String
  | .query => "query"
  | .mutation => "mutation"
  | .subscription => "subscription"

namespace Schema

def rootType (schema : Schema) : Operation → Option RootType
  | .query => schema.queryType
  | .mutation => schema.mutationType
  | .subscription => schema.subscriptionType

/-- The first operation whose root type has the name. -/
def rootOperation (schema : Schema) (name : String) : Option Operation :=
  [Operation.query, .mutation, .subscription].find? fun operation =>
    (schema.rootType operation).any (·.name == name)

end Schema

end SchemaPages.Introspection
