import SchemaPages.Json.Syntax
import SchemaPages.Json.Value

/-!
The lexemes of a JSON text. Scanning goes on until the end or until a string, a number or a word
breaks off; what is wrong with it becomes the last token, because whether it is the first thing
wrong with the text depends on what was to come at its place. Each scanner answers with the rest
of the text, which is an end of the text that it was given.
-/

namespace SchemaPages.Json

inductive Token where
  | openArray
  | closeArray
  | openObject
  | closeObject
  | comma
  | colon
  | text (value : String)
  | scalar (value : Value)
  | brokenText (fault : Fault)
  | brokenScalar (fault : Fault)
  | stray

/-- A token and the text from its first character on. -/
structure Lexeme where
  token : Token
  start : List Char

/-- What a scanner answers: a result with the rest of the text, or what is wrong. -/
abbrev Scan (α : Type) := Except Fault (α × List Char)

def isSpace (c : Char) : Bool :=
  c = ' ' || c = '\t' || c = '\n' || c = '\r'

def hexDigit? (c : Char) : Option Nat :=
  if c.isDigit then some (c.toNat - 48)
  else if 'a' ≤ c ∧ c ≤ 'f' then some (c.toNat - 87)
  else if 'A' ≤ c ∧ c ≤ 'F' then some (c.toNat - 55)
  else none

def scanHex (s : List Char) : Scan Nat :=
  match s with
  | a :: b :: c :: d :: rest =>
    match hexDigit? a, hexDigit? b, hexDigit? c, hexDigit? d with
    | some a, some b, some c, some d => .ok (((a * 16 + b) * 16 + c) * 16 + d, rest)
    | _, _, _, _ => .error ⟨.invalidEscape, s, 4⟩
  | _ => .error (if byteLength s < 4 then .atEnd .endInText else ⟨.invalidEscape, s, 4⟩)

def isHighSurrogate (n : Nat) : Bool := 0xD800 ≤ n && n < 0xDC00

def isLowSurrogate (n : Nat) : Bool := 0xDC00 ≤ n && n < 0xE000

/-- Reads the escape that must follow a first half `high` and gives the character of both. -/
def scanSecondHalf (high : Nat) : List Char → Scan Char
  | '\\' :: 'u' :: rest =>
    match scanHex rest with
    | .error fault => .error fault
    | .ok (low, rest) =>
      if isLowSurrogate low then
        .ok (Char.ofNat ((high - 0xD800) * 0x400 + (low - 0xDC00) + 0x10000), rest)
      else .error (.before .loneSurrogate rest)
  | '\\' :: c :: rest => .error (.here .halfSurrogate (c :: rest))
  | '\\' :: [] | [] => .error (.atEnd .endInText)
  | c :: rest => .error (.here .halfSurrogate (c :: rest))

def shortEscape? : Char → Option Char
  | '"' => some '"'
  | '\\' => some '\\'
  | '/' => some '/'
  | 'b' => some '\x08'
  | 'f' => some '\x0c'
  | 'n' => some '\n'
  | 'r' => some '\r'
  | 't' => some '\t'
  | _ => none

def scanEscape : List Char → Scan Char
  | [] => .error (.atEnd .endInText)
  | 'u' :: rest =>
    match scanHex rest with
    | .error fault => .error fault
    | .ok (n, rest) =>
      if isLowSurrogate n then .error (.before .loneSurrogate rest)
      else if isHighSurrogate n then scanSecondHalf n rest
      else .ok (Char.ofNat n, rest)
  | c :: rest =>
    match shortEscape? c with
    | some plain => .ok (plain, rest)
    | none => .error (.here .invalidEscape (c :: rest))

theorem scanHex_suffix {s rest : List Char} {n : Nat} (h : scanHex s = .ok (n, rest)) :
    rest <:+ s := by
  unfold scanHex at h
  split at h
  · rename_i a b c d r
    split at h
    · cases h
      exact ⟨[a, b, c, d], rfl⟩
    · cases h
  · cases h

theorem scanSecondHalf_suffix {high : Nat} {s rest : List Char} {c : Char}
    (h : scanSecondHalf high s = .ok (c, rest)) : rest <:+ s := by
  unfold scanSecondHalf at h
  split at h
  · split at h
    · cases h
    · rename_i hx
      split at h
      · rw [Except.ok.injEq, Prod.mk.injEq] at h
        exact h.2 ▸ (scanHex_suffix hx).trans ⟨['\\', 'u'], rfl⟩
      · cases h
  all_goals cases h

theorem scanEscape_suffix {s rest : List Char} {c : Char}
    (h : scanEscape s = .ok (c, rest)) : rest <:+ s := by
  unfold scanEscape at h
  split at h
  · cases h
  · split at h
    · cases h
    · rename_i r _ _ r' hx
      have hr : r' <:+ 'u' :: r := (scanHex_suffix hx).trans ⟨['u'], rfl⟩
      split at h
      · cases h
      · split at h
        · exact (scanSecondHalf_suffix h).trans hr
        · cases h
          exact hr
  · rename_i d r _
    split at h <;> cases h
    exact ⟨[d], rfl⟩

/-- Reads a string after its opening quote. `done` are the characters read so far, the latest
first. -/
def scanText (done : List Char) (s : List Char) : Scan String :=
  match s with
  | [] => .error (.atEnd .endInText)
  | '"' :: rest => .ok (String.ofList done.reverse, rest)
  | '\\' :: rest =>
    match _h : scanEscape rest with
    | .error fault => .error fault
    | .ok (c, rest') => scanText (c :: done) rest'
  | c :: rest =>
    if c.toNat < 0x20 then .error (.here .controlCharacter (c :: rest))
    else scanText (c :: done) rest
termination_by s.length
decreasing_by
  · have := (scanEscape_suffix _h).length_le
    simp only [List.length_cons]
    omega
  · simp

theorem scanText_suffix {done s rest : List Char} {t : String}
    (h : scanText done s = .ok (t, rest)) : rest <:+ s := by
  fun_induction scanText done s with
  | case1 => cases h
  | case2 done r =>
      cases h
      exact ⟨['"'], rfl⟩
  | case3 => cases h
  | case4 done r c r' hr ih =>
      exact (ih h).trans ((scanEscape_suffix hr).trans ⟨['\\'], rfl⟩)
  | case5 => cases h
  | case6 done c r _ _ _ ih => exact (ih h).trans ⟨[c], rfl⟩

/-- Appends digits to a number while it stays below the limit. Also gives the digits left. -/
def gather (limit : Nat) : Nat → List Char → Nat × List Char
  | n, [] => (n, [])
  | n, c :: rest =>
    let next := 10 * n + (c.toNat - 48)
    if next < limit then gather limit next rest else (n, c :: rest)

/-- The digits of a number are kept below this; further ones only move the exponent. -/
def significandLimit : Nat := Nat.pow 2 64

/-- Exponents from here on are not read. -/
def exponentLimit : Nat := Nat.pow 2 31

/-- The binary number for digits and a power of ten, `rest` being what follows it. -/
def decimalScan (negative : Bool) (digits : Nat) (exponent : Int) (rest : List Char) :
    Scan Numeral :=
  match Number.scaleByTen (Number.nearest digits 1) exponent with
  | some place => .ok (.binary ⟨negative, place⟩, rest)
  | none => .error (.before .numberTooLarge rest)

def scanExponentDigits (negative : Bool) (digits : Nat) (exponent : Int) (down : Bool)
    (s : List Char) : Scan Numeral :=
  match s with
  | [] => .error (.atEnd .endInValue)
  | c :: _ =>
    if !c.isDigit then .error (.here .invalidNumber s)
    else
      let rest := s.dropWhile Char.isDigit
      let (n, excess) := gather exponentLimit 0 (s.takeWhile Char.isDigit)
      if excess.isEmpty then
        decimalScan negative digits (if down then exponent - n else exponent + n) rest
      else if digits = 0 ∨ down then .ok (.binary ⟨negative, 0⟩, rest)
      else .error (.here .numberTooLarge (excess ++ rest))

def scanExponent (negative : Bool) (digits : Nat) (exponent : Int) : List Char → Scan Numeral
  | '+' :: rest => scanExponentDigits negative digits exponent false rest
  | '-' :: rest => scanExponentDigits negative digits exponent true rest
  | s => scanExponentDigits negative digits exponent false s

def scanAfterFraction (negative : Bool) (digits : Nat) (exponent : Int) :
    List Char → Scan Numeral
  | 'e' :: rest | 'E' :: rest => scanExponent negative digits exponent rest
  | s => decimalScan negative digits exponent s

def scanFraction (negative : Bool) (digits : Nat) (exponent : Int) (s : List Char) :
    Scan Numeral :=
  let read := s.takeWhile Char.isDigit
  let (n, excess) := gather significandLimit digits read
  if read.isEmpty then
    .error (if s.isEmpty then .atEnd .endInValue else .here .invalidNumber s)
  else
    scanAfterFraction negative n (exponent - (read.length - excess.length : Nat))
      (s.dropWhile Char.isDigit)

/-- An integer. A negative one that is zero or too large becomes a binary number. -/
def wholeNumeral (negative : Bool) (n : Nat) : Numeral :=
  if !negative then .int n
  else if 0 < n ∧ n ≤ Nat.pow 2 63 then .int (-n)
  else .binary ⟨true, Number.nearest n 1⟩

/-- Reads what may follow the digits before a point, of which `excess` were dropped. -/
def scanAfterWhole (negative : Bool) (n excess : Nat) : List Char → Scan Numeral
  | '.' :: rest => scanFraction negative n excess rest
  | 'e' :: rest | 'E' :: rest => scanExponent negative n excess rest
  | s => if excess = 0 then .ok (wholeNumeral negative n, s) else decimalScan negative n excess s

def scanNumber (negative : Bool) (s : List Char) : Scan Numeral :=
  match s with
  | [] => .error (.atEnd .endInValue)
  | c :: rest =>
    if !c.isDigit then .error (.here .invalidNumber s)
    else if c = '0' ∧ (rest.head?.map Char.isDigit) = some true then
      .error (.here .invalidNumber rest)
    else
      let (n, excess) := gather significandLimit 0 (s.takeWhile Char.isDigit)
      scanAfterWhole negative n excess.length (s.dropWhile Char.isDigit)

def scanWord (value : Value) : List Char → List Char → Scan Value
  | [], rest => .ok (value, rest)
  | _ :: _, [] => .error (.atEnd .endInValue)
  | w :: word, c :: rest =>
    if c = w then scanWord value word rest else .error (.here .brokenWord (c :: rest))

def Scan.number (scan : Scan Numeral) : Scan Value :=
  scan.map fun (n, rest) => (.num n, rest)

def scanScalar? (c : Char) (rest : List Char) : Option (Scan Value) :=
  if c = 'n' then some (scanWord .null ['u', 'l', 'l'] rest)
  else if c = 't' then some (scanWord (.bool true) ['r', 'u', 'e'] rest)
  else if c = 'f' then some (scanWord (.bool false) ['a', 'l', 's', 'e'] rest)
  else if c = '-' then some (Scan.number (scanNumber true rest))
  else if c.isDigit then some (Scan.number (scanNumber false (c :: rest)))
  else none

def mark? : Char → Option Token
  | '[' => some .openArray
  | ']' => some .closeArray
  | '\x7b' => some .openObject
  | '\x7d' => some .closeObject
  | ',' => some .comma
  | ':' => some .colon
  | _ => none

/-- The token that starts with `c`, and the rest of the text, which is given up after a token
that breaks off or fits nowhere. -/
def scanToken (c : Char) (rest : List Char) : Token × List Char :=
  match mark? c with
  | some token => (token, rest)
  | none =>
    if c = '"' then
      match scanText [] rest with
      | .ok (t, rest) => (.text t, rest)
      | .error fault => (.brokenText fault, [])
    else
      match scanScalar? c rest with
      | some (.ok (v, rest)) => (.scalar v, rest)
      | some (.error fault) => (.brokenScalar fault, [])
      | none => (.stray, [])

theorem decimalScan_rest {negative : Bool} {digits : Nat} {exponent : Int}
    {s rest : List Char} {n : Numeral}
    (h : decimalScan negative digits exponent s = .ok (n, rest)) : rest = s := by
  unfold decimalScan at h
  split at h <;> cases h
  rfl

theorem scanExponentDigits_suffix {negative down : Bool} {digits : Nat} {exponent : Int}
    {s rest : List Char} {n : Numeral}
    (h : scanExponentDigits negative digits exponent down s = .ok (n, rest)) :
    rest <:+ s := by
  unfold scanExponentDigits at h
  split at h
  · cases h
  · split at h
    · cases h
    · dsimp only at h
      split at h
      · rw [decimalScan_rest h]
        exact List.dropWhile_suffix _
      · split at h <;> cases h
        exact List.dropWhile_suffix _

theorem scanExponent_suffix {negative : Bool} {digits : Nat} {exponent : Int}
    {s rest : List Char} {n : Numeral}
    (h : scanExponent negative digits exponent s = .ok (n, rest)) : rest <:+ s := by
  unfold scanExponent at h
  split at h
  · exact (scanExponentDigits_suffix h).trans ⟨['+'], rfl⟩
  · exact (scanExponentDigits_suffix h).trans ⟨['-'], rfl⟩
  · exact scanExponentDigits_suffix h

theorem scanAfterFraction_suffix {negative : Bool} {digits : Nat} {exponent : Int}
    {s rest : List Char} {n : Numeral}
    (h : scanAfterFraction negative digits exponent s = .ok (n, rest)) : rest <:+ s := by
  unfold scanAfterFraction at h
  split at h
  · exact (scanExponent_suffix h).trans ⟨['e'], rfl⟩
  · exact (scanExponent_suffix h).trans ⟨['E'], rfl⟩
  · exact decimalScan_rest h ▸ List.suffix_refl _

theorem scanFraction_suffix {negative : Bool} {digits : Nat} {exponent : Int}
    {s rest : List Char} {n : Numeral}
    (h : scanFraction negative digits exponent s = .ok (n, rest)) : rest <:+ s := by
  unfold scanFraction at h
  dsimp only at h
  split at h
  · cases h
  · exact (scanAfterFraction_suffix h).trans (List.dropWhile_suffix _)

theorem scanAfterWhole_suffix {negative : Bool} {n excess : Nat}
    {s rest : List Char} {value : Numeral}
    (h : scanAfterWhole negative n excess s = .ok (value, rest)) : rest <:+ s := by
  unfold scanAfterWhole at h
  split at h
  · exact (scanFraction_suffix h).trans ⟨['.'], rfl⟩
  · exact (scanExponent_suffix h).trans ⟨['e'], rfl⟩
  · exact (scanExponent_suffix h).trans ⟨['E'], rfl⟩
  · split at h
    · cases h
      exact List.suffix_refl _
    · exact decimalScan_rest h ▸ List.suffix_refl _

theorem scanNumber_suffix {negative : Bool} {s rest : List Char} {n : Numeral}
    (h : scanNumber negative s = .ok (n, rest)) : rest <:+ s.tail := by
  unfold scanNumber at h
  split at h
  · cases h
  · rename_i c r
    split at h
    · cases h
    · rename_i hc
      split at h
      · cases h
      · refine (scanAfterWhole_suffix h).trans ?_
        have hd : c.isDigit = true := by simpa using hc
        rw [List.dropWhile_cons, hd, if_pos rfl]
        exact List.dropWhile_suffix _

theorem scanWord_suffix {value v : Value} {word s rest : List Char}
    (h : scanWord value word s = .ok (v, rest)) : rest <:+ s := by
  induction word generalizing s with
  | nil =>
      cases h
      exact List.suffix_refl _
  | cons w word ih =>
      cases s with
      | nil => cases h
      | cons c s =>
          unfold scanWord at h
          split at h
          · exact (ih h).trans ⟨[c], rfl⟩
          · cases h

theorem scanScalar?_length {c : Char} {s rest : List Char} {v : Value}
    (h : scanScalar? c s = some (.ok (v, rest))) : rest.length ≤ s.length := by
  have number {negative : Bool} {t : List Char}
      (hn : Scan.number (scanNumber negative t) = .ok (v, rest)) : rest <:+ t.tail := by
    unfold Scan.number at hn
    cases hs : scanNumber negative t with
    | error fault => simp [hs, Except.map] at hn
    | ok found =>
        obtain ⟨n, r⟩ := found
        simp only [hs, Except.map, Except.ok.injEq, Prod.mk.injEq] at hn
        exact hn.2 ▸ scanNumber_suffix hs
  unfold scanScalar? at h
  split at h
  · exact (scanWord_suffix (Option.some.inj h)).length_le
  split at h
  · exact (scanWord_suffix (Option.some.inj h)).length_le
  split at h
  · exact (scanWord_suffix (Option.some.inj h)).length_le
  split at h
  · exact ((number (Option.some.inj h)).trans (List.tail_suffix s)).length_le
  split at h
  · exact (number (Option.some.inj h)).length_le
  · cases h

theorem scanToken_length (c : Char) (s : List Char) : (scanToken c s).2.length ≤ s.length := by
  unfold scanToken
  split
  · exact Nat.le_refl _
  · split
    · split
      · rename_i h
        exact (scanText_suffix h).length_le
      · simp
    · split
      · rename_i h
        exact scanScalar?_length h
      · simp
      · simp

/-- The lexemes of a text, up to the first that breaks off. -/
def lexemes (s : List Char) : List Lexeme :=
  match _h : s.dropWhile isSpace with
  | [] => []
  | c :: rest => ⟨(scanToken c rest).1, c :: rest⟩ :: lexemes (scanToken c rest).2
termination_by s.length
decreasing_by
  have hs := (List.dropWhile_suffix (l := s) isSpace).length_le
  have ht := scanToken_length c rest
  rw [_h, List.length_cons] at hs
  omega

end SchemaPages.Json
