import SchemaPages.Introspection.Schema

/-!
Renderers make the fragments of pages, by one operation for every kind of type that has a page and
one for directives. The operations run in any monad, so that a renderer may fail, write or keep a
record of what it was asked.
-/

namespace SchemaPages.Page

open Introspection (Kind TypeDef Directive)

structure Renderer (m : Type → Type) where
  scalar : TypeDef → m String
  object : TypeDef → m String
  interface : TypeDef → m String
  union : TypeDef → m String
  enumeration : TypeDef → m String
  inputObject : TypeDef → m String
  directive : Directive → m String
  /-- What goes into the head of every page. -/
  headers : List String := []
  /-- The files that the pages need. -/
  assets : List String := []

variable {m : Type → Type}

/-- The operation for a kind, if types of that kind have a page. -/
def Renderer.operation? (renderer : Renderer m) : Kind → Option (TypeDef → m String)
  | .scalar => some renderer.scalar
  | .object => some renderer.object
  | .interface => some renderer.interface
  | .union => some renderer.union
  | .enumeration => some renderer.enumeration
  | .inputObject => some renderer.inputObject
  | .list | .nonNull | .other _ => none

end SchemaPages.Page
