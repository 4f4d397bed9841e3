import RegisterTransfer.Toml.Value

/-!
# Numbers, truth values, dates and times

A scalar without quotes is a run of characters that is read as a whole. Underscores may stand between digits,
decimal numbers have no leading zeros, and dates and times name days and moments that exist. The digits of an
integer are looked at up to the first underscore only; those behind it, and those of a bare mark of a base, may
turn out to make no integer, and then it has no value.
-/

namespace RegisterTransfer.Toml

/-- Cut at every occurrence of a character. -/
def splitAt (c : Char) : List Char → List (List Char)
  | [] => [[]]
  | d :: rest =>
    match splitAt c rest with
    | [] => [[d]]
    | first :: others => if d = c then [] :: first :: others else (d :: first) :: others

def isDecimalDigit (c : Char) : Bool := '0' ≤ c && c ≤ '9'

/-- The value of a digit in any base up to sixteen. -/
def digitValue (c : Char) : Nat :=
  if isDecimalDigit c then c.toNat - '0'.toNat
  else if 'a' ≤ c && c ≤ 'f' then c.toNat - 'a'.toNat + 10
  else if 'A' ≤ c && c ≤ 'F' then c.toNat - 'A'.toNat + 10
  else 16

/-- Whether a character is a digit of a base. -/
def isDigitOf (base : Nat) (c : Char) : Bool := decide (digitValue c < base)

def digitsValue (base : Nat) (cs : List Char) : Nat :=
  cs.foldl (fun value c ↦ value * base + digitValue c) 0

/-- Take the underscores out, each of which stands between two digits. -/
def ungrouped? (isDigit : Char → Bool) (cs : List Char) : Option (List Char) :=
  let groups := splitAt '_' cs
  if groups.tail.all (fun group ↦ group.head?.any isDigit) &&
      groups.dropLast.all (fun group ↦ group.getLast?.any isDigit) then
    some groups.flatten
  else none

/-- A sign, if there is one, and what follows it. -/
def signed : List Char → Bool × List Char
  | '+' :: rest => (false, rest)
  | '-' :: rest => (true, rest)
  | cs => (false, cs)

def withSign (negative : Bool) (value : Nat) : Int := if negative then -(value : Int) else value

/-- At least one digit, and digits only. -/
def natural? (base : Nat) (cs : List Char) : Option Nat :=
  if !cs.isEmpty && cs.all (isDigitOf base) then some (digitsValue base cs) else none

def integer? (base : Nat) (cs : List Char) : Option Int :=
  let (negative, digits) := signed cs
  (natural? base digits).map (withSign negative)

/-! ## Integers -/

/-- Digits behind the mark of a base, perhaps none at all. -/
def basedInteger? (base : Nat) (cs : List Char) : Option Value :=
  if cs.all fun c ↦ c == '_' || isDigitOf base c then
    (ungrouped? (isDigitOf base) cs).map fun digits ↦ .integer (integer? base digits)
  else none

/-- A decimal integer with its sign, of which nothing but the grouping is checked. -/
def decimalInteger? (cs : List Char) : Option Value :=
  (ungrouped? (isDigitOf 16) cs).map fun digits ↦ .integer (integer? 10 digits)

/-! ## Numbers with a fraction or an exponent -/

/-- Cut at the mark of an exponent. -/
def splitExponent (cs : List Char) : Option (List Char × Option (List Char)) :=
  match splitAt 'e' (cs.map fun c ↦ if c = 'E' then 'e' else c) with
  | [mantissa] => some (mantissa, none)
  | [mantissa, exponent] => some (mantissa, some exponent)
  | _ => none

def exponent? : Option (List Char) → Option Int
  | none => some 0
  | some cs => integer? 10 cs

/-- A number with a fraction, an exponent or both, without its sign. -/
def finite? (negative : Bool) (cs : List Char) : Option Number := do
  let (mantissa, exponent) ← splitExponent cs
  let scale ← exponent? exponent
  match splitAt '.' mantissa with
  | [whole] => return .finite negative (← natural? 10 whole) scale
  | [whole, fraction] =>
    let wholeValue ← natural? 10 whole
    let places ← natural? 10 fraction
    return .finite negative (wholeValue * Nat.pow 10 fraction.length + places) (scale - fraction.length)
  | _ => none

/-- Whether a number starts with a zero and has further digits in front of the point. -/
def hasLeadingZero (cs : List Char) : Bool :=
  let whole := cs.takeWhile fun c ↦ c == '_' || isDecimalDigit c
  cs.head? == some '0' && decide (1 < (whole.filter isDecimalDigit).length)

def float? (cs : List Char) : Option Number := do
  if hasLeadingZero (signed cs).2 then none
  else
    let (negative, digits) := signed (← ungrouped? isDecimalDigit cs)
    finite? negative digits

/-- A number without end, or none at all. -/
def special? (cs : List Char) : Option Number :=
  let (negative, rest) := signed cs
  if rest = ['i', 'n', 'f'] then some (.infinite negative)
  else if rest = ['n', 'a', 'n'] then some .notANumber
  else none

/-! ## Dates and times -/

/-- Exactly two digits with a value up to a bound. -/
def twoDigits? (bound : Nat) : List Char → Option Nat
  | [a, b] =>
    let value := digitsValue 10 [a, b]
    if isDecimalDigit a && isDecimalDigit b && decide (value ≤ bound) then some value else none
  | _ => none

def isLeapYear (year : Nat) : Bool := year % 4 = 0 && (year % 100 ≠ 0 || year % 400 = 0)

def daysIn (year month : Nat) : Nat :=
  if month = 2 then if isLeapYear year then 29 else 28
  else if month = 4 ∨ month = 6 ∨ month = 9 ∨ month = 11 then 30
  else 31

def isDate (cs : List Char) : Bool :=
  match splitAt '-' cs with
  | [year, month, day] =>
    year.length = 4 && year.all isDecimalDigit &&
      match twoDigits? 12 month, twoDigits? 31 day with
      | some m, some d => decide (1 ≤ m ∧ 1 ≤ d ∧ d ≤ daysIn (digitsValue 10 year) m)
      | _, _ => false
  | _ => false

/-- Hours and minutes, perhaps seconds, of which there may be 60, and perhaps a fraction of them. -/
def isTimeOfDay (cs : List Char) : Bool :=
  let (clock, fraction) := cs.span fun c ↦ c != '.'
  let fractionIsFine :=
    match fraction with
    | [] => true
    | _ :: digits => !digits.isEmpty && digits.all isDecimalDigit
  match splitAt ':' clock with
  | [hour, minute] => fraction.isEmpty && (twoDigits? 23 hour).isSome && (twoDigits? 59 minute).isSome
  | [hour, minute, second] =>
    fractionIsFine && (twoDigits? 23 hour).isSome && (twoDigits? 59 minute).isSome &&
      (twoDigits? 60 second).isSome
  | _ => false

/-- The distance from universal time: a mark for none, or hours and minutes. -/
def isOffset (cs : List Char) : Bool :=
  match cs with
  | ['Z'] | ['z'] => true
  | sign :: rest =>
    (sign == '+' || sign == '-') &&
      match splitAt ':' rest with
      | [hour, minute] => (twoDigits? 23 hour).isSome && (twoDigits? 59 minute).isSome
      | _ => false
  | [] => false

/-- A time of day with or without an offset. -/
def isClock (cs : List Char) : Bool :=
  let (clock, offset) := cs.span fun c ↦ isDecimalDigit c || c == ':' || c == '.'
  isTimeOfDay clock && (offset.isEmpty || isOffset offset)

def isTime (cs : List Char) : Bool :=
  isDate cs || isTimeOfDay cs ||
    match cs.drop 10 with
    | mark :: clock => (mark == 'T' || mark == 't' || mark == ' ') && isDate (cs.take 10) && isClock clock
    | [] => false

/-! ## Scalars -/

/-- A number, a date or a time. What follows the first digits tells them apart. -/
def numeric? (cs : List Char) : Option Value :=
  let (_, unsigned) := signed cs
  match unsigned.dropWhile isDecimalDigit with
  | [] =>
    if unsigned.head? = some '0' ∧ unsigned.length ≠ 1 then none
    else (integer? 10 cs).map fun value ↦ .integer (some value)
  | mark :: rest =>
    if mark = '-' ∨ mark = ':' then if isTime cs then some (.time (String.ofList cs)) else none
    else if rest.contains ' ' then none
    else if (mark :: rest).any fun c ↦ c = '.' ∨ c = 'e' ∨ c = 'E' then (float? cs).map .float
    else if mark = '_' then if unsigned.head? = some '0' then none else decimalInteger? cs
    else none

/-- A scalar that is written without quotes. -/
def scalar? (cs : List Char) : Option Value :=
  match cs with
  | ['t', 'r', 'u', 'e'] => some (.boolean true)
  | ['f', 'a', 'l', 's', 'e'] => some (.boolean false)
  | '0' :: 'x' :: digits => basedInteger? 16 digits
  | '0' :: 'o' :: digits => basedInteger? 8 digits
  | '0' :: 'b' :: digits => basedInteger? 2 digits
  | cs =>
    match special? cs with
    | some number => some (.float number)
    | none => numeric? cs

end RegisterTransfer.Toml
