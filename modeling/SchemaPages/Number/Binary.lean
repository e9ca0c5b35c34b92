/-!
Binary floating point numbers of 64 bits, in exact arithmetic. The magnitudes stand in one row
that starts with zero, and a number is kept as its sign and its place in that row. `scaled` is the
magnitude in units of the smallest positive one, so every magnitude is a natural number there, and
`nearest` finds the place of the magnitude closest to a quotient, the even place at a tie.
-/

namespace SchemaPages.Number

/-- A finite number: its sign and the place of its magnitude, zero being at place 0. -/
structure Binary where
  negative : Bool
  place : Nat
deriving DecidableEq

/-- How many places share one spacing. -/
def spread : Nat := Nat.pow 2 52

/-- The smallest positive magnitude is one over this. -/
def unit : Nat := Nat.pow 2 1074

/-- The first place beyond every finite magnitude. -/
def placeLimit : Nat := 2047 * spread

/-- The first place whose magnitude has the full precision. -/
def normalPlace : Nat := spread

def scaled (place : Nat) : Nat :=
  if place < spread then place
  else (spread + place % spread) * Nat.pow 2 (place / spread - 1)

/-- A quotient rounded to the nearest integer, to the even one at a tie. -/
def roundDiv (num den : Nat) : Nat :=
  let quotient := num / den
  let twice := 2 * (num % den)
  if twice < den then quotient
  else if den < twice then quotient + 1
  else quotient + quotient % 2

/-- The place of the magnitude nearest to `num / den`. It may lie beyond the finite ones. -/
def nearest (num den : Nat) : Nat :=
  let shift := (num * unit / den).log2 - 52
  shift * spread + roundDiv (num * unit) (den * Nat.pow 2 shift)

def mulPlaces (a b : Nat) : Nat :=
  nearest (scaled a * scaled b) (unit * unit)

def divPlaces (a b : Nat) : Nat :=
  nearest (scaled a) (scaled b)

def powerOfTen (exponent : Nat) : Nat :=
  nearest (Nat.pow 10 exponent) 1

def nearestDecimal (digits : Nat) (exponent : Int) : Nat :=
  nearest (digits * Nat.pow 10 exponent.toNat) (Nat.pow 10 (-exponent).toNat)

def greatestPower : Nat := 308

/-- Scales a magnitude by a power of ten, rounding after every product or quotient. A power that
is too small to be written down is reached in several quotients. There is no result when the
magnitude would not be finite. -/
def scaleByTen (place : Nat) (exponent : Int) : Option Nat :=
  if exponent < -(greatestPower : Int) then
    if place = 0 then some 0
    else scaleByTen (divPlaces place (powerOfTen greatestPower)) (exponent + greatestPower)
  else if exponent < 0 then some (divPlaces place (powerOfTen (-exponent).toNat))
  else if exponent ≤ greatestPower then
    let result := mulPlaces place (powerOfTen exponent.toNat)
    if result < placeLimit then some result else none
  else if place = 0 then some 0
  else none
termination_by (-exponent).toNat
decreasing_by simp only [greatestPower] at *; omega

end SchemaPages.Number
