/-!
What can be wrong with a JSON text, and where. A fault knows the text that is left at its place;
the line and the column are counted afterwards, over the bytes of the text up to there.
-/

namespace SchemaPages.Json

inductive Problem where
  | endInValue
  | endInText
  | endInArray
  | endInObject
  | missingColon
  | missingCommaInArray
  | missingCommaInObject
  | brokenWord
  | missingValue
  | invalidEscape
  | invalidNumber
  | numberTooLarge
  | controlCharacter
  | keyNotText
  | loneSurrogate
  | halfSurrogate
  | trailingComma
  | trailingText
  | tooDeep
deriving DecidableEq

def Problem.message : Problem → String
  | .endInValue => "EOF while parsing a value"
  | .endInText => "EOF while parsing a string"
  | .endInArray => "EOF while parsing a list"
  | .endInObject => "EOF while parsing an object"
  | .missingColon => "expected `:`"
  | .missingCommaInArray => "expected `,` or `]`"
  | .missingCommaInObject => "expected `,` or `\x7d`"
  | .brokenWord => "expected ident"
  | .missingValue => "expected value"
  | .invalidEscape => "invalid escape"
  | .invalidNumber => "invalid number"
  | .numberTooLarge => "number out of range"
  | .controlCharacter => "control character (\\u0000-\\u001F) found while parsing a string"
  | .keyNotText => "key must be a string"
  | .loneSurrogate => "lone leading surrogate in hex escape"
  | .halfSurrogate => "unexpected end of hex escape"
  | .trailingComma => "trailing comma"
  | .trailingText => "trailing characters"
  | .tooDeep => "recursion limit exceeded"

/-- A problem `skip` bytes into what is left of the text. -/
structure Fault where
  problem : Problem
  rest : List Char
  skip : Nat
deriving DecidableEq

/-- A problem with the next character: its place is after one byte. -/
def Fault.here (problem : Problem) (rest : List Char) : Fault := ⟨problem, rest, 1⟩

/-- A problem whose place is just before what is left. -/
def Fault.before (problem : Problem) (rest : List Char) : Fault := ⟨problem, rest, 0⟩

def Fault.atEnd (problem : Problem) : Fault := ⟨problem, [], 0⟩

/-- A problem with its line, from 1, and the number of bytes since the line began. -/
structure SyntaxError where
  problem : Problem
  line : Nat
  column : Nat
deriving DecidableEq

def SyntaxError.message (e : SyntaxError) : String :=
  s!"{e.problem.message} at line {e.line} column {e.column}"

def byteLength (s : List Char) : Nat :=
  s.foldl (fun length c => length + c.utf8Size) 0

def Fault.locate (fault : Fault) (text : List Char) : SyntaxError :=
  let offset := byteLength text - byteLength fault.rest + fault.skip
  let seen := (String.ofList text).toUTF8.toList.take offset
  { problem := fault.problem
    line := seen.count 10 + 1
    column := (seen.reverse.takeWhile (· ≠ 10)).length }

end SchemaPages.Json
