import SchemaPages.Number.Binary

/-!
The shortest decimal that reads back as a given binary number, and its text. Among the decimals
with one digit, then two, and so on, the two neighbours of the number are tried; the first that
lies closer to it than to any other binary number wins, and of two the nearer one.
-/

namespace SchemaPages.Number

/-- The decimal `digits * 10 ^ exponent`. -/
structure Decimal where
  digits : Nat
  exponent : Int
deriving DecidableEq

/-- The decimals that read back as one magnitude lie between `low` and `high`, which belong to
them if `closed`. All three numbers are in halves of the smallest positive magnitude. -/
structure Basin where
  low : Nat
  value : Nat
  high : Nat
  closed : Bool

def Basin.ofPlace (place : Nat) : Basin where
  low := scaled (place - 1) + scaled place
  value := 2 * scaled place
  high := scaled place + scaled (place + 1)
  closed := place % 2 == 0

def Basin.leading (b : Basin) : Int :=
  (Nat.toDigits 10 (b.value * Nat.pow 10 400 / (2 * unit))).length - 401

/-- A point of the grid of spacing `10 ^ exponent` that lies in the basin, nearest to its
value. -/
def Basin.onGrid? (b : Basin) (exponent : Int) : Option Nat :=
  let up := Nat.pow 10 (-exponent).toNat
  let step := 2 * unit * Nat.pow 10 exponent.toNat
  let holds (point : Nat) : Bool :=
    let spot := point * step
    if b.closed then b.low * up ≤ spot && spot ≤ b.high * up
    else b.low * up < spot && spot < b.high * up
  let below := b.value * up / step
  let above := below + 1
  let pick := roundDiv (b.value * up) step
  if holds pick then some pick
  else if holds below then some below
  else if holds above then some above
  else none

/-- The shortest decimal of a place above 0. Seventeen digits always suffice. -/
def shortest (place : Nat) : Decimal :=
  let b := Basin.ofPlace place
  let leading := b.leading
  let hit := (List.range 17).findSome? fun (n : Nat) =>
    (b.onGrid? (leading - n)).map fun point => Decimal.mk point (leading - n)
  hit.getD ⟨roundDiv b.value (2 * unit), 0⟩

def stripZeros (digits : List Char) : List Char :=
  match (digits.reverse.dropWhile (· = '0')).reverse with
  | [] => ['0']
  | kept => kept

/-- How a decimal is written: positional while the exponent of the leading digit is from
`positionalFrom` up to, but not including, `positionalTo`, and with an exponent elsewhere. -/
structure Form where
  positionalFrom : Int
  positionalTo : Int

/-- Exponents from -5 to 15 are written out. -/
def plain : Form := ⟨-5, 16⟩

/-- The text of the digits `ds`, of which the first stands for `10 ^ leading`. A positional text
has a point and at least one digit on either side; an exponent has its sign. -/
def Form.write (form : Form) (ds : List Char) (leading : Int) : List Char :=
  if form.positionalFrom ≤ leading ∧ leading < form.positionalTo then
    if leading < 0 then
      '0' :: '.' :: List.replicate (-leading - 1).toNat '0' ++ ds
    else
      let whole := leading.toNat + 1
      let tail := ds.drop whole
      ds.take whole ++ List.replicate (whole - ds.length) '0' ++ '.' ::
        (if tail.isEmpty then ['0'] else tail)
  else
    let mantissa :=
      match ds with
      | d :: e :: rest => d :: '.' :: e :: rest
      | _ => ds
    let sign := if leading < 0 then '-' else '+'
    mantissa ++ 'e' :: sign :: Nat.toDigits 10 leading.natAbs

def Binary.text (b : Binary) : String :=
  let magnitude :=
    if b.place = 0 then ['0', '.', '0']
    else
      let d := shortest b.place
      let digits := Nat.toDigits 10 d.digits
      plain.write (stripZeros digits) (d.exponent + digits.length - 1)
  String.ofList (if b.negative then '-' :: magnitude else magnitude)

end SchemaPages.Number
