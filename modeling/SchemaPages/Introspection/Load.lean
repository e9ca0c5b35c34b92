import SchemaPages.Failure
import SchemaPages.Introspection.Decode
import SchemaPages.Json.Reader

/-!
Schemas read from values and from texts.
-/

namespace SchemaPages.Introspection.Schema

open Json (Value)

/-- Reads a schema from a value, which may be wrapped as a response. -/
def ofJson (v : Value) : Except Failure Schema :=
  match unwrapEnvelope v with
  | .obj members =>
    match Schema.decode (.obj members) with
    | .ok schema => .ok schema
    | .error error => .error (.schema (.badShape error))
  | _ => .error (.schema .notObject)

def ofText (text : String) : Except Failure Schema :=
  match Json.read text with
  | .ok v => ofJson v
  | .error error => .error (.schema (.badSyntax error))

end SchemaPages.Introspection.Schema
