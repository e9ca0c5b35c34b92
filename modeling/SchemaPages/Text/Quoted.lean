import SchemaPages.Text.LowerCase
import SchemaPages.Text.UnprintedTable

/-!
Texts in double quotes, as messages show them: everything that could be misread is escaped. The
zero character, tab, carriage return, line feed, the quote and the backslash have short forms;
any other character that is not printed on its own is shown by its code point.
-/

namespace SchemaPages.Text

/-- Shown by its code point inside quotes. -/
def isUnprinted (c : Char) : Bool :=
  inRanges unprintedRanges c.toNat

def quoteChar (c : Char) : List Char :=
  if c = '\x00' then ['\\', '0']
  else if c = '\t' then ['\\', 't']
  else if c = '\r' then ['\\', 'r']
  else if c = '\n' then ['\\', 'n']
  else if c = '"' ∨ c = '\\' then ['\\', c]
  else if isUnprinted c then
    ['\\', 'u', '\x7b'] ++ Nat.toDigits 16 c.toNat ++ ['\x7d']
  else [c]

def quoted (s : String) : String :=
  String.ofList ('"' :: s.toList.flatMap quoteChar ++ ['"'])

example : quoted "a\"\\\n" = "\"a\\\"\\\\\\n\"" := by decide +kernel

end SchemaPages.Text
