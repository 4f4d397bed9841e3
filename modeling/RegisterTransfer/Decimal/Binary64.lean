/-!
# Binary floating point numbers in decimal

A number of 53 binary digits is written with the fewest decimal digits that no other such number is nearer to.
All arithmetic is exact: a number is a fraction of natural numbers, and rounding is a question about an interval
of fractions.
-/

namespace RegisterTransfer.Decimal

/-- A nonnegative fraction. -/
structure Fraction where
  num : Nat
  den : Nat

namespace Fraction

/-- A multiple of a power of `base`. -/
def scaled (base digits : Nat) (exponent : Int) : Fraction :=
  if 0 ≤ exponent then ⟨digits * Nat.pow base exponent.toNat, 1⟩
  else ⟨digits, Nat.pow base (-exponent).toNat⟩

def le (a b : Fraction) : Bool := a.num * b.den ≤ b.num * a.den

def lt (a b : Fraction) : Bool := a.num * b.den < b.num * a.den

/-- The distance between two fractions. -/
def distance (a b : Fraction) : Fraction :=
  ⟨(a.num * b.den - b.num * a.den) + (b.num * a.den - a.num * b.den), a.den * b.den⟩

/-- How often a fraction goes into another one, without the rest. -/
def quotient (a b : Fraction) : Nat := (a.num * b.den) / (a.den * b.num)

/-- The nearest natural number, a half going to the even neighbour. -/
def round (a : Fraction) : Nat :=
  let whole := a.num / a.den
  let twice := 2 * (a.num % a.den)
  if twice < a.den then whole
  else if a.den < twice then whole + 1
  else whole + whole % 2

/-- The exponent of the largest power of two that is not larger than a fraction. -/
def binaryExponent (a : Fraction) : Int :=
  let guess : Int := (a.num.log2 : Int) - a.den.log2
  if (scaled 2 1 guess).le a then guess else guess - 1

end Fraction

/-- The number `mantissa * 2 ^ exponent`, with a mantissa of at most 53 bits. -/
structure Binary64 where
  mantissa : Nat
  exponent : Int
  deriving DecidableEq

namespace Binary64

/-- The least exponent, that of the numbers next to zero. -/
def leastExponent : Int := -1074

/-- The least mantissa of numbers with all their bits. -/
def fullMantissa : Nat := Nat.pow 2 52

/-- The first exponent that is too large. -/
def exponentLimit : Int := 972

/-- The nearest number to a fraction, or none if the fraction is too large. -/
def nearest? (a : Fraction) : Option Binary64 :=
  if a.num = 0 then some ⟨0, leastExponent⟩
  else
    let exponent := max leastExponent (a.binaryExponent - 52)
    let unit := Fraction.scaled 2 1 exponent
    let mantissa := Fraction.round ⟨a.num * unit.den, a.den * unit.num⟩
    let result : Binary64 := 
      if mantissa = 2 * fullMantissa then ⟨fullMantissa, exponent + 1⟩ else ⟨mantissa, exponent⟩
    if result.exponent < exponentLimit then some result else none

def toFraction (x : Binary64) : Fraction := .scaled 2 x.mantissa x.exponent

/-- The middle between a number and the one below it. -/
def lowerEnd (x : Binary64) : Fraction :=
  if x.mantissa = fullMantissa ∧ leastExponent < x.exponent then .scaled 2 (4 * x.mantissa - 1) (x.exponent - 2)
  else .scaled 2 (2 * x.mantissa - 1) (x.exponent - 1)

/-- The middle between a number and the one above it. -/
def upperEnd (x : Binary64) : Fraction := .scaled 2 (2 * x.mantissa + 1) (x.exponent - 1)

/-- Whether a fraction is rounded to the number; the ends count for an even mantissa. -/
def rounds (x : Binary64) (a : Fraction) : Bool :=
  if x.mantissa % 2 = 0 then x.lowerEnd.le a && a.le x.upperEnd else x.lowerEnd.lt a && a.lt x.upperEnd

/-- The number of places before the point, less than one for a small fraction. -/
def magnitude (a : Fraction) : Int :=
  let whole := a.num / a.den
  if whole ≠ 0 then (Nat.toDigits 10 whole).length
  else 1 - (Nat.toDigits 10 (a.den / a.num)).length

/-- Of the two neighbours on a decimal grid, the nearer one that is rounded to the number, and of two at the same
distance the one above. -/
def onGrid? (x : Binary64) (exponent : Int) : Option Nat :=
  let exact := x.toFraction
  let unit := Fraction.scaled 10 1 exponent
  let below := exact.quotient unit
  let distanceOf (digits : Nat) := (Fraction.scaled 10 digits exponent).distance exact
  let fits (digits : Nat) := decide (digits ≠ 0) && x.rounds (.scaled 10 digits exponent)
  match fits below, fits (below + 1) with
  | true, true => if (distanceOf below).lt (distanceOf (below + 1)) then some below else some (below + 1)
  | true, false => some below
  | false, true => some (below + 1)
  | false, false => none

/-- Try grids of one digit, two digits and so on, from a place downwards. -/
def searchGrids (x : Binary64) : Nat → Int → Nat × Int
  | 0, exponent => (x.toFraction.quotient (.scaled 10 1 exponent), exponent)
  | count + 1, exponent =>
    match onGrid? x exponent with
    | some digits => (digits, exponent)
    | none => searchGrids x count (exponent - 1)

/-- The fewest digits that stand for a positive number, and the place of the last one. -/
def shortest (x : Binary64) : Nat × Int :=
  searchGrids x 18 (magnitude x.toFraction)

/-- Digits and the place of the last one, written out in full with at least one digit on each side of the
point. -/
def positional (digits : Nat) (exponent : Int) : String :=
  if 0 ≤ exponent then toString (digits * Nat.pow 10 exponent.toNat) ++ ".0"
  else
    let places := (-exponent).toNat
    let written := toString digits
    let padded := String.ofList (List.replicate (places + 1 - written.length) '0') ++ written
    let split := padded.length - places
    String.ofList (padded.toList.take split) ++ "." ++ String.ofList (padded.toList.drop split)

/-- The number in full, with the fewest digits that stand for it. -/
def text (x : Binary64) : String :=
  if x.mantissa = 0 then "0.0"
  else
    let (digits, exponent) := x.shortest
    positional digits exponent

end Binary64

end RegisterTransfer.Decimal
