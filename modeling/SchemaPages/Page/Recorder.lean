import SchemaPages.Failure
import SchemaPages.Page.Renderer

/-!
A renderer that remembers what it is asked. Every call is kept, also one that fails.
-/

namespace SchemaPages.Page

open Introspection (TypeDef Directive)

inductive Call where
  | scalar (type : TypeDef)
  | object (type : TypeDef)
  | interface (type : TypeDef)
  | union (type : TypeDef)
  | enumeration (type : TypeDef)
  | inputObject (type : TypeDef)
  | directive (directive : Directive)
deriving DecidableEq

/-- Work that leaves a record of calls, the first one first. -/
abbrev Recorded := ExceptT Failure (StateM (List Call))

def Recorded.call (call : Call) (answer : Except Failure String) : Recorded String := do
  modify (· ++ [call])
  MonadExcept.ofExcept answer

def Renderer.recorded (renderer : Renderer (Except Failure)) : Renderer Recorded where
  scalar type := Recorded.call (.scalar type) (renderer.scalar type)
  object type := Recorded.call (.object type) (renderer.object type)
  interface type := Recorded.call (.interface type) (renderer.interface type)
  union type := Recorded.call (.union type) (renderer.union type)
  enumeration type := Recorded.call (.enumeration type) (renderer.enumeration type)
  inputObject type := Recorded.call (.inputObject type) (renderer.inputObject type)
  directive directive := Recorded.call (.directive directive) (renderer.directive directive)
  headers := renderer.headers
  assets := renderer.assets

end SchemaPages.Page
