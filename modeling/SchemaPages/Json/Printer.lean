import SchemaPages.Json.Value

/-!
Writing a JSON value, either on one line without blanks or over several lines, where every item
and member has a line of its own, two blanks deeper than its container. Members are written in
the order in which they stand.
-/

namespace SchemaPages.Json

def Numeral.text : Numeral → String
  | .int n => toString n
  | .binary b => b.text

def hexDigit (n : Nat) : Char :=
  if n < 10 then Char.ofNat (n + 48) else Char.ofNat (n + 87)

/-- One character inside a string: the quote, the backslash and the control characters are
escaped, the latter by a letter if they have one. -/
def escapeChar (c : Char) : List Char :=
  if c = '"' then ['\\', '"']
  else if c = '\\' then ['\\', '\\']
  else if c = '\x08' then ['\\', 'b']
  else if c = '\t' then ['\\', 't']
  else if c = '\n' then ['\\', 'n']
  else if c = '\x0c' then ['\\', 'f']
  else if c = '\r' then ['\\', 'r']
  else if c.toNat < 0x20 then
    ['\\', 'u', '0', '0', hexDigit (c.toNat / 16), hexDigit (c.toNat % 16)]
  else [c]

def encodeText (s : String) : String :=
  String.ofList ('"' :: s.toList.flatMap escapeChar ++ ['"'])

namespace Value

def scalarText : Value → String
  | .bool b => if b then "true" else "false"
  | .num n => n.text
  | .str s => encodeText s
  | _ => "null"

mutual

def compact : Value → String
  | .arr items => "[" ++ compactItems items ++ "]"
  | .obj members => "\x7b" ++ compactMembers members ++ "\x7d"
  | v => v.scalarText

def compactItems : List Value → String
  | [] => ""
  | [v] => v.compact
  | v :: rest => v.compact ++ "," ++ compactItems rest

def compactMembers : List (String × Value) → String
  | [] => ""
  | [(k, v)] => encodeText k ++ ":" ++ v.compact
  | (k, v) :: rest => encodeText k ++ ":" ++ v.compact ++ "," ++ compactMembers rest

end

def indent (depth : Nat) : String :=
  String.ofList (List.replicate (2 * depth) ' ')

mutual

/-- The value over several lines, inside `depth` containers. -/
def prettyAt (depth : Nat) : Value → String
  | .arr [] => "[]"
  | .arr items => "[\n" ++ prettyItems (depth + 1) items ++ "\n" ++ indent depth ++ "]"
  | .obj [] => "\x7b\x7d"
  | .obj members =>
    "\x7b\n" ++ prettyMembers (depth + 1) members ++ "\n" ++ indent depth ++ "\x7d"
  | v => v.scalarText

def prettyItems (depth : Nat) : List Value → String
  | [] => ""
  | [v] => indent depth ++ v.prettyAt depth
  | v :: rest => indent depth ++ v.prettyAt depth ++ ",\n" ++ prettyItems depth rest

def prettyMembers (depth : Nat) : List (String × Value) → String
  | [] => ""
  | [(k, v)] => indent depth ++ encodeText k ++ ": " ++ v.prettyAt depth
  | (k, v) :: rest =>
    indent depth ++ encodeText k ++ ": " ++ v.prettyAt depth ++ ",\n" ++ prettyMembers depth rest

end

def pretty (v : Value) : String := v.prettyAt 0

end Value

end SchemaPages.Json
