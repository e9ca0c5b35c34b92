/-!
Coloured text for terminals. A style starts with a control sequence and ends with the reset
sequence; since a reset inside the text would end the style as well, the style starts again after
it. With colours off the text stays as it is.
-/

namespace SchemaPages.Report

inductive Style where
  | bold
  | dimmed
  | green
  | yellow
  | cyan
deriving DecidableEq

def Style.code : Style → List Char
  | .bold => ['1']
  | .dimmed => ['2']
  | .green => ['3', '2']
  | .yellow => ['3', '3']
  | .cyan => ['3', '6']

def Style.opening (style : Style) : List Char :=
  '\x1b' :: '[' :: style.code ++ ['m']

def reset : List Char := ['\x1b', '[', '0', 'm']

/-- Puts a sequence after every reset. -/
def reopen (opening : List Char) : List Char → List Char
  | '\x1b' :: '[' :: '0' :: 'm' :: rest => reset ++ opening ++ reopen opening rest
  | c :: rest => c :: reopen opening rest
  | [] => []

def Style.paint (color : Bool) (style : Style) (text : List Char) : List Char :=
  if color then style.opening ++ reopen style.opening text ++ reset else text

/-- Whether colours are on, as the variables that force, refuse and allow them and the kind of the
output decide. A variable that is `0` neither forces nor allows colours. -/
def wantsColor (forced refused allowed : Option String) (isTerminal : Bool) : Bool :=
  if forced.any (· ≠ "0") then true
  else if refused.isSome then false
  else isTerminal && allowed.all (· ≠ "0")

end SchemaPages.Report
