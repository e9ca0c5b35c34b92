import SchemaPages.Keyed
import SchemaPages.Number.Shortest

/-!
JSON values. The members of an object are pairs of a key and a value. An object that was read has
them in the order of their keys, each key once, with the value that was written last.
-/

namespace SchemaPages.Json

/-- A number is an integer or a finite binary number. -/
inductive Numeral where
  | int (value : Int)
  | binary (value : Number.Binary)
deriving DecidableEq

inductive Value where
  | null
  | bool (value : Bool)
  | num (value : Numeral)
  | str (value : String)
  | arr (items : List Value)
  | obj (members : List (String × Value))

instance : Inhabited Value := ⟨.null⟩

abbrev Members := Keyed Value

namespace Value

mutual

def decEq : (v w : Value) → Decidable (v = w)
  | .null, .null => isTrue rfl
  | .bool a, .bool b =>
    if h : a = b then isTrue (h ▸ rfl) else isFalse fun e => h (Value.bool.inj e)
  | .num a, .num b =>
    if h : a = b then isTrue (h ▸ rfl) else isFalse fun e => h (Value.num.inj e)
  | .str a, .str b =>
    if h : a = b then isTrue (h ▸ rfl) else isFalse fun e => h (Value.str.inj e)
  | .arr a, .arr b =>
    match decEqItems a b with
    | isTrue h => isTrue (h ▸ rfl)
    | isFalse h => isFalse fun e => h (Value.arr.inj e)
  | .obj a, .obj b =>
    match decEqMembers a b with
    | isTrue h => isTrue (h ▸ rfl)
    | isFalse h => isFalse fun e => h (Value.obj.inj e)
  | .null, .bool _ | .null, .num _ | .null, .str _ | .null, .arr _ | .null, .obj _
  | .bool _, .null | .bool _, .num _ | .bool _, .str _ | .bool _, .arr _ | .bool _, .obj _
  | .num _, .null | .num _, .bool _ | .num _, .str _ | .num _, .arr _ | .num _, .obj _
  | .str _, .null | .str _, .bool _ | .str _, .num _ | .str _, .arr _ | .str _, .obj _
  | .arr _, .null | .arr _, .bool _ | .arr _, .num _ | .arr _, .str _ | .arr _, .obj _
  | .obj _, .null | .obj _, .bool _ | .obj _, .num _ | .obj _, .str _ | .obj _, .arr _ =>
    isFalse (by simp)

def decEqItems : (a b : List Value) → Decidable (a = b)
  | [], [] => isTrue rfl
  | v :: rest, w :: others =>
    match decEq v w, decEqItems rest others with
    | isTrue h, isTrue t => isTrue (h ▸ t ▸ rfl)
    | isFalse h, _ => isFalse fun e => h (List.cons.inj e).1
    | _, isFalse t => isFalse fun e => t (List.cons.inj e).2
  | [], _ :: _ | _ :: _, [] => isFalse (by simp)

def decEqMembers : (a b : List (String × Value)) → Decidable (a = b)
  | [], [] => isTrue rfl
  | (k, v) :: rest, (l, w) :: others =>
    if hk : k = l then
      match decEq v w, decEqMembers rest others with
      | isTrue h, isTrue t => isTrue (hk ▸ h ▸ t ▸ rfl)
      | isFalse h, _ => isFalse fun e => h (Prod.mk.inj (List.cons.inj e).1).2
      | _, isFalse t => isFalse fun e => t (List.cons.inj e).2
    else isFalse fun e => hk (Prod.mk.inj (List.cons.inj e).1).1
  | [], _ :: _ | _ :: _, [] => isFalse (by simp)

end

instance : DecidableEq Value := decEq

def int (value : Int) : Value := .num (.int value)

def members? : Value → Option Members
  | .obj members => some members
  | _ => none

def text? : Value → Option String
  | .str text => some text
  | _ => none

end Value

namespace Value

def get? (key : String) : Value → Option Value
  | .obj members => Keyed.get? key members
  | _ => none

mutual

/-- The same value with the members of every object in the order of their keys. -/
def sorted : Value → Value
  | .arr items => .arr (sortedItems items)
  | .obj members => .obj (sortedMembers [] members)
  | v => v

def sortedItems : List Value → List Value
  | [] => []
  | v :: rest => v.sorted :: sortedItems rest

def sortedMembers (done : Members) : List (String × Value) → Members
  | [] => done
  | (k, v) :: rest => sortedMembers (Keyed.insert k v.sorted done) rest

end

end Value

end SchemaPages.Json
