/-!
Text inside markup. Seven characters are written as character references, so escaped text holds
none of the characters that markup is made of, nor a quote that could end an attribute.
-/

namespace SchemaPages.Html

def escapeChar (c : Char) : List Char :=
  if c = '<' then ['&', 'l', 't', ';']
  else if c = '>' then ['&', 'g', 't', ';']
  else if c = '"' then ['&', 'q', 'u', 'o', 't', ';']
  else if c = '&' then ['&', 'a', 'm', 'p', ';']
  else if c = '\'' then ['&', '#', 'x', '2', '7', ';']
  else if c = '`' then ['&', '#', 'x', '6', '0', ';']
  else if c = '=' then ['&', '#', 'x', '3', 'D', ';']
  else [c]

def escape (s : String) : String :=
  String.ofList (s.toList.flatMap escapeChar)

theorem toList_escape (s : String) : (escape s).toList = s.toList.flatMap escapeChar := by
  simp [escape]

end SchemaPages.Html
