import SchemaPages.Json.Printer
import SchemaPages.Text.Quoted

/-!
Decoding JSON values into records. A record is read from an object, whose members are looked up
by key, or from an array, whose items are the fields in the order of their declaration. Of several
things wrong with a record the one met first is reported: what is present is met before what is
missing, members in the order of their keys, items and missing fields in the order of declaration.
-/

namespace SchemaPages.Json

inductive Expected where
  | text
  | flag
  | sequence
  | mapping
  | record (name : String)
deriving DecidableEq

def Expected.message : Expected → String
  | .text => "a string"
  | .flag => "a boolean"
  | .sequence => "a sequence"
  | .mapping => "a map"
  | .record name => "struct " ++ name

/-- A record's name and the keys of its fields in the order of declaration. -/
structure RecordShape where
  name : String
  keys : List String
deriving DecidableEq

inductive DecodeError where
  | invalidType (found : Value) (expected : Expected)
  | missingField (key : String)
  | missingItem (index : Nat) (shape : RecordShape)
  | tooManyItems (count : Nat)
deriving DecidableEq

def Value.describe : Value → String
  | .null => "null"
  | .bool b => "boolean `" ++ (Value.bool b).scalarText ++ "`"
  | .num (.int n) => "integer `" ++ toString n ++ "`"
  | .num (.binary b) => "floating point `" ++ b.text ++ "`"
  | .str s => "string " ++ Text.quoted s
  | .arr _ => "sequence"
  | .obj _ => "map"

def RecordShape.describe (shape : RecordShape) : String :=
  let count := shape.keys.length
  s!"struct {shape.name} with {count} " ++ if count = 1 then "element" else "elements"

def DecodeError.message : DecodeError → String
  | .invalidType found expected =>
    "invalid type: " ++ found.describe ++ ", expected " ++ expected.message
  | .missingField key => "missing field `" ++ key ++ "`"
  | .missingItem index shape => s!"invalid length {index}, expected " ++ shape.describe
  | .tooManyItems count => s!"invalid length {count}, expected fewer elements in array"

abbrev Decoder (α : Type) := Value → Except DecodeError α

namespace Decoder

variable {α : Type}

def text : Decoder String
  | .str s => .ok s
  | v => .error (.invalidType v .text)

def flag : Decoder Bool
  | .bool b => .ok b
  | v => .error (.invalidType v .flag)

def list (item : Decoder α) : Decoder (List α)
  | .arr items => items.mapM item
  | v => .error (.invalidType v .sequence)

def nullable (inner : Decoder α) : Decoder (Option α)
  | .null => .ok none
  | v => (inner v).map some

end Decoder

/-- Fields read so far, or the trouble that was met first and when it was met. -/
inductive Reading (α : Type) where
  | read (value : α)
  | troubled (turn : Nat) (error : DecodeError)

namespace Reading

variable {α β : Type}

def ap : Reading (α → β) → Reading α → Reading β
  | .read f, .read a => .read (f a)
  | .read _, .troubled turn error => .troubled turn error
  | .troubled turn error, .read _ => .troubled turn error
  | .troubled turn error, .troubled turn' error' =>
    if turn' < turn then .troubled turn' error' else .troubled turn error

instance : Applicative Reading where
  pure := .read
  seq f x := f.ap (x ())

def settle : Reading α → Except DecodeError α
  | .read a => .ok a
  | .troubled _ error => .error error

end Reading

inductive Source where
  | members (members : Members)
  | items (items : List Value)

structure Fields where
  shape : RecordShape
  source : Source

namespace Fields

variable {α : Type}

def value? (fields : Fields) (key : String) : Option Value :=
  match fields.source with
  | .members members => Keyed.get? key members
  | .items items => items[fields.shape.keys.idxOf key]?

/-- When a field that is present is met. -/
def turn (fields : Fields) (key : String) : Nat :=
  match fields.source with
  | .members _ => fields.shape.keys.countP (· < key)
  | .items _ => fields.shape.keys.idxOf key

def missing (fields : Fields) (key : String) : Reading α :=
  let index := fields.shape.keys.idxOf key
  .troubled (fields.shape.keys.length + index) <|
    match fields.source with
    | .members _ => .missingField key
    | .items _ => .missingItem index fields.shape

/-- The reading of a field from what decoding gave, if the field is present. -/
def reading (fields : Fields) (key : String) (found : Option (Except DecodeError α))
    (absent : Reading α) : Reading α :=
  match found with
  | some (.ok a) => .read a
  | some (.error error) => .troubled (fields.turn key) error
  | none => absent

def required (fields : Fields) (key : String) (decode : Decoder α) : Reading α :=
  fields.reading key ((fields.value? key).map decode) (fields.missing key)

def defaulted (fields : Fields) (key : String) (absent : α) (decode : Decoder α) : Reading α :=
  fields.reading key ((fields.value? key).map decode) (.read absent)

def optional (fields : Fields) (key : String) (decode : Decoder α) : Reading (Option α) :=
  fields.defaulted key none (Decoder.nullable decode)

end Fields

namespace RecordShape

variable {α : Type}

/-- Settles the reading of an array, which may not have more items than there are fields. -/
def settleItems (shape : RecordShape) (items : List Value) (reading : Reading α) :
    Except DecodeError α :=
  match reading.settle with
  | .error error => .error error
  | .ok a => if shape.keys.length < items.length then .error (.tooManyItems items.length) else .ok a

def decode (shape : RecordShape) (build : Fields → Reading α) : Decoder α
  | .obj members => (build ⟨shape, .members members⟩).settle
  | .arr items => shape.settleItems items (build ⟨shape, .items items⟩)
  | v => .error (.invalidType v (.record shape.name))

end RecordShape

end SchemaPages.Json
