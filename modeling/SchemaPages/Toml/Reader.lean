import SchemaPages.Toml.Table
import SchemaPages.Toml.Text

/-!
Reading a configuration text: lines that assign values to keys, and headers that say which table
the lines after them belong to. Every step of a reader takes characters away or goes one level
deeper after it has taken one, so a fuel of twice the length of the text never runs out.
-/

namespace SchemaPages.Toml

open Json (Value)

def isGap (c : Char) : Bool := c = ' ' || c = '\t'

def skipGap (s : List Char) : List Char := s.dropWhile isGap

mutual

/-- Drops blanks, ends of lines and comments. -/
def skipFill : List Char → Option (List Char)
  | [] => some []
  | c :: rest =>
    if isGap c || c = '\n' then skipFill rest
    else if c = '\r' then if rest.head? = some '\n' then skipFill rest else none
    else if c = '#' then skipComment rest
    else some (c :: rest)

def skipComment : List Char → Option (List Char)
  | [] => some []
  | c :: rest =>
    if c = '\n' then skipFill rest
    else if c = '\r' then if rest.head? = some '\n' then skipFill rest else none
    else if isOnLine c then skipComment rest
    else none

end

/-- Nothing but a comment may come before the end of the line. -/
def endLine (s : List Char) : Option (List Char) :=
  match skipGap s with
  | [] => some []
  | '\n' :: rest => some rest
  | '\r' :: '\n' :: rest => some rest
  | '#' :: rest => skipComment rest
  | _ => none

def isKeyChar (c : Char) : Bool :=
  c.isAlphanum || c = '_' || c = '-'

def scanKey (s : List Char) : Option (String × List Char) :=
  match s with
  | '"' :: _ | '\'' :: _ => scanShort s
  | _ =>
    let name := s.takeWhile isKeyChar
    if name.isEmpty then none else some (String.ofList name, s.dropWhile isKeyChar)

/-- Reads a key with dots, around which blanks may stand, and the blanks after it. -/
def scanPath (fuel : Nat) (s : List Char) : Option (List String × List Char) := do
  let (key, rest) ← scanKey s
  match fuel, skipGap rest with
  | fuel + 1, '.' :: more => do
    let (keys, rest) ← scanPath fuel (skipGap more)
    return (key :: keys, rest)
  | _, rest => some ([key], rest)

def isBareChar (c : Char) : Bool :=
  isKeyChar c || c = '+' || c = '.' || c = ':'

/-- Reads a value without quotes. A blank may stand between a date and a time. -/
def scanBare (s : List Char) : Option (Value × List Char) :=
  let word := s.takeWhile isBareChar
  let rest := s.dropWhile isBareChar
  let next := (rest.drop 1).takeWhile isBareChar
  if isDate word && rest.head? = some ' ' && next.head?.any Char.isDigit then do
    return (← bare (word ++ ' ' :: next), rest.drop (next.length + 1))
  else do return (← bare word, rest)

/-- Arrays and tables in values nest no deeper than this. -/
def depthLimit : Nat := 80

mutual

def scanValue (fuel depth : Nat) (s : List Char) : Option (Value × List Char) :=
  match fuel, s with
  | 0, _ => none
  | fuel + 1, '[' :: rest => do
    if depthLimit ≤ depth then none
    else do
      let (items, rest) ← scanItems fuel (depth + 1) [] (← skipFill rest)
      return (.arr items, rest)
  | fuel + 1, '\x7b' :: rest => do
    if depthLimit ≤ depth then none
    else do
      let (entries, rest) ← scanEntries fuel (depth + 1) [] (← skipFill rest)
      return (.obj (jsonEntries entries), rest)
  | _ + 1, '"' :: _ | _ + 1, '\'' :: _ => do
    let (text, rest) ← scanString s
    return (.str text, rest)
  | _ + 1, _ => scanBare s

/-- Reads the items of an array from an item, or the end, on. -/
def scanItems (fuel depth : Nat) (done : List Value) (s : List Char) :
    Option (List Value × List Char) :=
  match fuel, s with
  | 0, _ => none
  | _ + 1, ']' :: rest => some (done.reverse, rest)
  | fuel + 1, _ => do
    let (v, rest) ← scanValue fuel depth s
    match ← skipFill rest with
    | ',' :: rest => scanItems fuel depth (v :: done) (← skipFill rest)
    | ']' :: rest => some ((v :: done).reverse, rest)
    | _ => none

def scanEntries (fuel depth : Nat) (done : Entries) (s : List Char) :
    Option (Entries × List Char) :=
  match fuel, s with
  | 0, _ => none
  | _ + 1, '\x7d' :: rest => some (done, rest)
  | fuel + 1, _ => do
    let (path, rest) ← scanPath s.length s
    match rest with
    | '=' :: rest => do
      let (v, rest) ← scanValue fuel depth (skipGap rest)
      let done ← Entries.assign true done v path
      match ← skipFill rest with
      | ',' :: rest => scanEntries fuel depth done (← skipFill rest)
      | '\x7d' :: rest => some (done, rest)
      | _ => none
    | _ => none

end

/-- What has been read of a document: its entries, and the table that lines belong to. -/
structure Document where
  entries : Entries := []
  header : List String := []

def scanHeader (document : Document) (s : List Char) : Option (Document × List Char) := do
  let (path, rest) ← scanPath s.length (skipGap s)
  match rest with
  | ']' :: rest => do
    let key ← path.getLast?
    let entries ← Entries.atPath (Entries.openTable key) document.entries path.dropLast
    return (⟨entries, path⟩, ← endLine rest)
  | _ => none

def scanElementHeader (document : Document) (s : List Char) : Option (Document × List Char) := do
  let (path, rest) ← scanPath s.length (skipGap s)
  match rest with
  | ']' :: ']' :: rest => do
    let key ← path.getLast?
    let entries ← Entries.atPath (Entries.openElement key) document.entries path.dropLast
    return (⟨entries, path⟩, ← endLine rest)
  | _ => none

def scanAssignment (document : Document) (s : List Char) : Option (Document × List Char) := do
  let (path, rest) ← scanPath s.length s
  match rest with
  | '=' :: rest => do
    let (v, rest) ← scanValue (2 * rest.length + 2) 0 (skipGap rest)
    let assign (entries : Entries) := Entries.assign true entries v path
    let entries ← Entries.atPath assign document.entries document.header
    return ({ document with entries := entries }, ← endLine rest)
  | _ => none

def scanLines (fuel : Nat) (document : Document) (s : List Char) : Option Document := do
  match fuel, ← skipFill s with
  | _, [] => some document
  | 0, _ => none
  | fuel + 1, '[' :: '[' :: rest => do
    let (document, rest) ← scanElementHeader document rest
    scanLines fuel document rest
  | fuel + 1, '[' :: rest => do
    let (document, rest) ← scanHeader document rest
    scanLines fuel document rest
  | fuel + 1, s => do
    let (document, rest) ← scanAssignment document s
    scanLines fuel document rest

/-- A byte order mark at the start does not belong to the text. -/
def dropByteOrderMark : List Char → List Char
  | '\ufeff' :: rest => rest
  | s => s

def read (text : String) : Option Value := do
  let s := dropByteOrderMark text.toList
  let document ← scanLines s.length {} s
  return .obj (jsonEntries document.entries)

end SchemaPages.Toml
