import SchemaPages.Toml.Number

/-!
Strings of configuration texts. A string stands between double quotes, with escapes, or between
single quotes, as it is; three quotes instead of one let it run over several lines.
-/

namespace SchemaPages.Toml

/-- The character may stand on a line: it is a tab or no control character. -/
def isOnLine (c : Char) : Bool :=
  c = '\t' || (0x20 ≤ c.toNat && c.toNat ≠ 0x7F)

def shortEscape? : Char → Option Char
  | 'b' => some '\x08'
  | 't' => some '\t'
  | 'n' => some '\n'
  | 'f' => some '\x0c'
  | 'r' => some '\r'
  | 'e' => some '\x1b'
  | '"' => some '"'
  | '\\' => some '\\'
  | _ => none

/-- How many hexadecimal digits follow the letter of an escape. -/
def escapeWidth? : Char → Option Nat
  | 'x' => some 2
  | 'u' => some 4
  | 'U' => some 8
  | _ => none

def character? (n : Nat) : Option Char :=
  if n.isValidChar then some (Char.ofNat n) else none

/-- What is being read inside double quotes. -/
inductive Mode where
  | plain
  /-- After a backslash. -/
  | escape
  /-- In an escape with so many digits to come after the value read so far. -/
  | hex (left value : Nat)
  /-- After a backslash at the end of a line, whether that end has been seen. -/
  | fold (seen : Bool)

def Mode.afterBackslash (done : List Char) (c : Char) : Option (Mode × List Char) :=
  match shortEscape? c, escapeWidth? c with
  | some c, _ => some (.plain, c :: done)
  | none, some width => some (.hex width 0, done)
  | none, none => none

def Mode.afterDigit (left value : Nat) (done : List Char) (c : Char) :
    Option (Mode × List Char) := do
  let n := value * 16 + (← digit? 16 c)
  if left ≤ 1 then return (.plain, (← character? n) :: done)
  else return (.hex (left - 1) n, done)

def scanBasic (mode : Mode) (done : List Char) : List Char → Option (String × List Char)
  | [] => none
  | c :: rest =>
    match mode with
    | .escape =>
      match Mode.afterBackslash done c with
      | some (mode, done) => scanBasic mode done rest
      | none => none
    | .hex left value =>
      match Mode.afterDigit left value done c with
      | some (mode, done) => scanBasic mode done rest
      | none => none
    | _ =>
      if c = '"' then some (String.ofList done.reverse, rest)
      else if c = '\\' then scanBasic .escape done rest
      else if isOnLine c then scanBasic .plain (c :: done) rest
      else none

/-- The end of a string of several lines, after three quotes: up to two more belong to it. -/
def closeLong (quote : Char) (done rest : List Char) : Option (String × List Char) :=
  let extra := rest.takeWhile (· = quote)
  if extra.length ≤ 2 then
    some (String.ofList (done.reverse ++ extra), rest.drop extra.length)
  else none

/-- A carriage return stands only before a line feed. -/
def isOnLines (c : Char) (rest : List Char) : Bool :=
  isOnLine c || c = '\n' || (c = '\r' && rest.head? = some '\n')

def scanLongBasic (mode : Mode) (done : List Char) : List Char → Option (String × List Char)
  | [] => none
  | c :: rest =>
    let plain : Option (String × List Char) :=
      if c = '"' ∧ rest.take 2 = ['"', '"'] then closeLong '"' done (rest.drop 2)
      else if c = '\\' then scanLongBasic .escape done rest
      else if isOnLines c rest then scanLongBasic .plain (c :: done) rest
      else none
    match mode with
    | .escape =>
      if c = ' ' ∨ c = '\t' then scanLongBasic (.fold false) done rest
      else if c = '\n' then scanLongBasic (.fold true) done rest
      else if c = '\r' ∧ rest.head? = some '\n' then scanLongBasic (.fold false) done rest
      else
        match Mode.afterBackslash done c with
        | some (mode, done) => scanLongBasic mode done rest
        | none => none
    | .hex left value =>
      match Mode.afterDigit left value done c with
      | some (mode, done) => scanLongBasic mode done rest
      | none => none
    | .fold seen =>
      if c = ' ' ∨ c = '\t' then scanLongBasic (.fold seen) done rest
      else if c = '\n' then scanLongBasic (.fold true) done rest
      else if c = '\r' ∧ rest.head? = some '\n' then scanLongBasic (.fold seen) done rest
      else if seen then plain
      else none
    | .plain => plain

def scanLiteral (s : List Char) : Option (String × List Char) :=
  let content := s.takeWhile (· ≠ '\'')
  match s.dropWhile (· ≠ '\'') with
  | _ :: rest => if content.all isOnLine then some (String.ofList content, rest) else none
  | [] => none

def scanLongLiteral (done : List Char) : List Char → Option (String × List Char)
  | [] => none
  | c :: rest =>
    if c = '\'' ∧ rest.take 2 = ['\'', '\''] then closeLong '\'' done (rest.drop 2)
    else if isOnLines c rest then scanLongLiteral (c :: done) rest
    else none

/-- The end of a line just after three quotes does not belong to the string. -/
def dropFirstBreak : List Char → List Char
  | '\n' :: rest => rest
  | '\r' :: '\n' :: rest => rest
  | s => s

def scanShort : List Char → Option (String × List Char)
  | '"' :: rest => scanBasic .plain [] rest
  | '\'' :: rest => scanLiteral rest
  | _ => none

def scanString : List Char → Option (String × List Char)
  | '"' :: '"' :: '"' :: rest => scanLongBasic .plain [] (dropFirstBreak rest)
  | '\'' :: '\'' :: '\'' :: rest => scanLongLiteral [] (dropFirstBreak rest)
  | s => scanShort s

end SchemaPages.Toml
