import SchemaPages.Json.Value
import SchemaPages.Text.Cut

/-!
Values of configuration texts that are written without quotes: truth values, integers, floating
point numbers, dates and times. Digits may be grouped by single underscores. A number that is not
finite has no JSON form and becomes null, and a date becomes an object with its normal form.
-/

namespace SchemaPages.Toml

open Json (Value)

/-- The value of a digit up to `f`. -/
def digit? (base : Nat) (c : Char) : Option Nat :=
  let value :=
    if c.isDigit then c.toNat - 48
    else if 'a' ≤ c ∧ c ≤ 'f' then c.toNat - 87
    else if 'A' ≤ c ∧ c ≤ 'F' then c.toNat - 55
    else base
  if value < base then some value else none

/-- The digits of a number without the underscores, each of which stands between two digits. -/
def ungroup (base : Nat) (s : List Char) : Option (List Nat) := do
  let groups := Text.cut '_' s
  if groups.any (·.isEmpty) then none
  else groups.flatten.mapM (digit? base)

def ofDigits (base : Nat) (digits : List Nat) : Nat :=
  digits.foldl (fun n d => n * base + d) 0

/-- The digits of a decimal, which starts with zero only if it is zero. -/
def plainDigits (s : List Char) : Option (List Nat) := do
  let digits ← ungroup 10 s
  if 1 < digits.length ∧ digits.head? = some 0 then none else some digits

def unsign : List Char → Bool × List Char
  | '+' :: rest => (false, rest)
  | '-' :: rest => (true, rest)
  | s => (false, s)

/-- An integer in the range that JSON values hold. -/
def integer (negative : Bool) (n : Nat) : Option Value :=
  if negative then if n ≤ Nat.pow 2 63 then some (Value.int (-n)) else none
  else if n < Nat.pow 2 64 then some (Value.int n) else none

/-- An integer in another base, after the mark of the base. -/
def basedInteger (base : Nat) (s : List Char) : Option Value := do
  integer false (ofDigits base (← ungroup base s))

def decimal (negative : Bool) (digits : List Nat) (exponent : Int) : Option Value :=
  let n := ofDigits 10 digits
  let leading := exponent + digits.length
  let place :=
    if n = 0 ∨ leading < -400 then 0
    else if 400 + digits.length < leading then Number.placeLimit
    else Number.nearestDecimal n exponent
  if place < Number.placeLimit then some (.num (.binary ⟨negative, place⟩)) else none

def exponentOf (s : List Char) : Option Int := do
  let (negative, digits) := unsign s
  let n := ofDigits 10 (← ungroup 10 digits)
  return if negative then -n else n

def float (negative : Bool) (s : List Char) : Option Value := do
  let isMark (c : Char) : Bool := c = 'e' || c = 'E'
  let mantissa := s.takeWhile (!isMark ·)
  let exponent ←
    match s.dropWhile (!isMark ·) with
    | [] => some 0
    | _ :: rest => exponentOf rest
  match Text.cut '.' mantissa with
  | [whole] => do decimal negative (← plainDigits whole) exponent
  | [whole, fraction] => do
    let wholeDigits ← plainDigits whole
    let fractionDigits ← ungroup 10 fraction
    decimal negative (wholeDigits ++ fractionDigits) (exponent - fractionDigits.length)
  | _ => none

def number (negative : Bool) (s : List Char) : Option Value :=
  if s = ['i', 'n', 'f'] ∨ s = ['n', 'a', 'n'] then some .null
  else if s.all fun c => c.isDigit || c = '_' then do
    integer negative (ofDigits 10 (← plainDigits s))
  else float negative s

/-- Digits that stand for a number in a field of fixed width. -/
def fixed (s : List Char) : Option Nat := do
  if s.all Char.isDigit then some (ofDigits 10 (← s.mapM (digit? 10))) else none

def isLeapYear (year : Nat) : Bool :=
  year % 4 = 0 && (year % 100 ≠ 0 || year % 400 = 0)

def daysOf (year month : Nat) : Nat :=
  if month = 2 then if isLeapYear year then 29 else 28
  else if month = 4 ∨ month = 6 ∨ month = 9 ∨ month = 11 then 30
  else 31

def isDate : List Char → Bool
  | [a, b, c, d, '-', e, f, '-', g, h] =>
    match fixed [a, b, c, d], fixed [e, f], fixed [g, h] with
    | some year, some month, some day =>
      1 ≤ month && month ≤ 12 && 1 ≤ day && day ≤ daysOf year month
    | _, _, _ => false
  | _ => false

/-- The digits of a fraction of a second that are kept: nine at most, without zeros at the end. -/
def fractionText (digits : List Char) : List Char :=
  match ((digits.take 9).reverse.dropWhile (· = '0')).reverse with
  | [] => []
  | kept => '.' :: kept

def secondsText : List Char → Option (List Char)
  | [] => some [':', '0', '0']
  | ':' :: a :: b :: rest =>
    match fixed [a, b] with
    | some second =>
      if second ≤ 60 then
        match rest with
        | [] => some [':', a, b]
        | '.' :: digits =>
          if digits.isEmpty || !digits.all Char.isDigit then none
          else some (':' :: a :: b :: fractionText digits)
        | _ => none
      else none
    | none => none
  | _ => none

def timeText : List Char → Option (List Char)
  | a :: b :: ':' :: c :: d :: rest =>
    match fixed [a, b], fixed [c, d], secondsText rest with
    | some hour, some minute, some seconds =>
      if hour ≤ 23 ∧ minute ≤ 59 then some (a :: b :: ':' :: c :: d :: seconds) else none
    | _, _, _ => none
  | _ => none

/-- An offset from universal time in normal form, where no offset is written with a plus sign. -/
def offsetText : List Char → Option (List Char)
  | ['Z'] | ['z'] => some ['Z']
  | [sign, a, b, ':', c, d] =>
    match fixed [a, b], fixed [c, d] with
    | some hour, some minute =>
      if (sign = '+' ∨ sign = '-') ∧ hour ≤ 23 ∧ minute ≤ 59 then
        some [if hour = 0 ∧ minute = 0 then '+' else sign, a, b, ':', c, d]
      else none
    | _, _ => none
  | _ => none

def offsetTimeText (s : List Char) : Option (List Char) := do
  let isMark (c : Char) : Bool := c = 'Z' || c = 'z' || c = '+' || c = '-'
  let time ← timeText (s.takeWhile (!isMark ·))
  match s.dropWhile (!isMark ·) with
  | [] => some time
  | offset => do return time ++ (← offsetText offset)

def dateText (s : List Char) : Option (List Char) :=
  if s[2]? = some ':' then timeText s
  else if isDate (s.take 10) then
    match s.drop 10 with
    | [] => some s
    | mark :: rest =>
      if mark = 'T' ∨ mark = 't' ∨ mark = ' ' then do
        return s.take 10 ++ 'T' :: (← offsetTimeText rest)
      else none
  else none

/-- The key under which a date stands alone in an object. -/
def dateKey : String := "$__toml_private_datetime"

def bare (s : List Char) : Option Value :=
  match s with
  | ['t', 'r', 'u', 'e'] => some (.bool true)
  | ['f', 'a', 'l', 's', 'e'] => some (.bool false)
  | '0' :: 'x' :: rest => basedInteger 16 rest
  | '0' :: 'o' :: rest => basedInteger 8 rest
  | '0' :: 'b' :: rest => basedInteger 2 rest
  | _ =>
    if s[2]? = some ':' ∨ s[4]? = some '-' ∧ s.head?.any Char.isDigit ∧ isDate (s.take 10) then do
      return .obj [(dateKey, .str (String.ofList (← dateText s)))]
    else
      let (negative, rest) := unsign s
      number negative rest

end SchemaPages.Toml
