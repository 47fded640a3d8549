
/-!
# The binary format and its texts

The numbers of the 64-bit binary format, and how these and whole numbers are written in decimal.
-/

namespace SecretAccess

/-!
## Binary floating point

Clock readings and lifetimes may be whole numbers or numbers in the 64-bit binary format. A finite
value of that format is a whole multiple of the smallest positive one, `2^-1074`, so it is held
here as a sign and that multiple, its *units*; a zero keeps its sign. Values at or above `2^1024`
do not exist: they become infinite.

Every operation first finds the exact result as a ratio of natural numbers and then rounds once, in
`ofRatio`, **to the nearest value of the format, a tie going to the even neighbour**.
-/

/-- A number in the 64-bit binary format. -/
inductive Binary64
  /-- No number; incomparable with every number, itself included. -/
  | nan
  /-- Beyond all finite values on one side. -/
  | infinite (negative : Bool)
  /-- A multiple of `2^-1074`. -/
  | finite (negative : Bool) (units : Nat)
  deriving Repr, DecidableEq, Inhabited

namespace Binary64

/-! ### Rounding -/

/-- How many units make one. -/
def unitsPerOne : Nat := Nat.pow 2 1074

/-- The number of units, `2^1024` in value, that is too large for the format. -/
def unitsLimit : Nat := Nat.pow 2 2098

/-- The distance, in units, between neighbours of the format around a magnitude: 53 significant
bits are kept. -/
def spacing (units : Nat) : Nat := Nat.pow 2 (units.log2 - 52)

/-- The whole number nearest to a ratio; a tie goes to the even one. -/
def nearestEven (num den : Nat) : Nat :=
  let below := num / den
  let rest := num % den
  if 2 * rest < den then below else if den < 2 * rest then below + 1 else below + below % 2

/-- The value nearest to `num / den` units, with a sign. -/
def ofRatio (negative : Bool) (num den : Nat) : Binary64 :=
  let step := spacing (num / den)
  let units := nearestEven num (den * step) * step
  if units < unitsLimit then .finite negative units else .infinite negative

/-- The value nearest to a whole number of units, which is positive unless below zero. -/
def ofUnits (units : Int) : Binary64 := ofRatio (units < 0) units.natAbs 1

/-- The value nearest to a whole number; infinite if the whole number is too large. -/
def ofInt (i : Int) : Binary64 := ofUnits (i * unitsPerOne)

/-- The zero of either sign. -/
def zero (negative : Bool) : Binary64 := .finite negative 0

/-! ### Arithmetic -/

/-- The units of a finite value with its sign; both zeros have none. -/
def signedUnits (negative : Bool) (units : Nat) : Int := if negative then -units else units

/-- The value with the other sign. -/
def neg : Binary64 → Binary64
  | nan => nan
  | infinite negative => infinite !negative
  | finite negative units => finite (!negative) units

/-- The rounded sum. Opposite infinities have none, and a sum of zero is negative only if both
parts are negative zeros. -/
def add : Binary64 → Binary64 → Binary64
  | nan, _ => nan
  | _, nan => nan
  | infinite a, infinite b => if a = b then infinite a else nan
  | infinite a, finite .. => infinite a
  | finite .., infinite b => infinite b
  | finite a m, finite b n =>
    let sum := signedUnits a m + signedUnits b n
    if sum = 0 then zero (a && b) else ofUnits sum

/-- The rounded difference. -/
def sub (x y : Binary64) : Binary64 := x.add y.neg

/-- The integer part of a finite value. -/
def trunc (negative : Bool) (units : Nat) : Int := signedUnits negative (units / unitsPerOne)

/-- The whole number at or next to a finite number of units; a half goes down. -/
def roundHalfDown (negative : Bool) (units : Nat) : Int :=
  let whole := units / unitsPerOne
  let rest := units % unitsPerOne
  if negative then
    -(if unitsPerOne ≤ 2 * rest then (whole + 1 : Nat) else (whole : Nat))
  else
    (if unitsPerOne < 2 * rest then (whole + 1 : Nat) else (whole : Nat))

/-- The floor of the quotient by a positive whole number: the part that divides evenly is rounded
to the format, its quotient is rounded again and taken to a whole number. A value that is not
finite has none, and a quotient of zero keeps the sign of the value. -/
def floorDiv (divisor : Nat) : Binary64 → Binary64
  | nan => nan
  | infinite _ => nan
  | finite negative units =>
    let rest := units % (divisor * unitsPerOne)
    match ofRatio negative (units - rest) 1 with
    | finite _ even =>
      match ofRatio negative even divisor with
      | finite _ quotient =>
        let borrowed := if negative && rest != 0 then unitsPerOne else 0
        match ofRatio negative (quotient + borrowed) 1 with
        | finite _ 0 => zero negative
        | finite _ floored => ofInt (roundHalfDown negative floored)
        | other => other
      | other => other
    | other => other

end Binary64

end SecretAccess

namespace SecretAccess.Binary64

/-!
## The fewest digits that read back

The decimal text of a finite value of the 64-bit format shows **the fewest digits that read back to
the value, and of those the nearest to it**. The decimals that read back form an interval around
the value: half way to each neighbour, with both ends included if and only if the value is an even
multiple of its spacing. Below a power of two the neighbour is only half as far.

The search goes through the decimal grids from coarse to fine and tests, on each, the two grid
points next to the value. All comparisons are exact, between natural numbers.
-/

/-! ### The interval that reads back -/

/-- Whether the gap to the next smaller value is half the gap to the next larger one. -/
def narrowBelow (units : Nat) : Bool := spacing units != 1 && units = Nat.pow 2 units.log2

/-- Whether a decimal reads back to the value. The decimal is `num / den` units; it is compared
with the ends of the interval in quarters of a unit. -/
def readsBack (units num den : Nat) : Bool :=
  let step := spacing units
  let low := (4 * units - (if narrowBelow units then step else 2 * step)) * den
  let high := (4 * units + 2 * step) * den
  if units / step % 2 = 0 then low ≤ 4 * num && 4 * num ≤ high
  else low < 4 * num && 4 * num < high

/-! ### Decimal grids -/

/-- A digit sequence and the power of ten that its last digit counts. -/
structure Decimal where
  /-- All digits, read as one whole number. -/
  digits : Nat
  /-- The power of ten of the last digit. -/
  exponent : Int
  deriving Repr, DecidableEq

/-- The numerator, in units, of one step of the grid `10^exponent`. -/
def gridNum (exponent : Int) : Nat := unitsPerOne * Nat.pow 10 exponent.toNat

/-- The denominator of one step of the grid `10^exponent`. -/
def gridDen (exponent : Int) : Nat := Nat.pow 10 (-exponent).toNat

/-- The grid point at or below a value, and the one above, whichever reads back; of two the nearer,
and of two equally near the even one. -/
def onGrid (units : Nat) (exponent : Int) : Option Nat :=
  let num := gridNum exponent
  let den := gridDen exponent
  let below := units * den / num
  match readsBack units (below * num) den, readsBack units ((below + 1) * num) den with
  | true, false => some below
  | false, true => some (below + 1)
  | false, false => none
  | true, true =>
    let twice := 2 * units * den
    let sum := (2 * below + 1) * num
    if twice < sum then some below
    else if sum < twice then some (below + 1)
    else some (below + below % 2)

/-- How many of the next `fuel` powers of ten bring a value below one no further than below one. -/
def zerosAfterPoint (units : Nat) : Nat → Nat
  | 0 => 0
  | fuel + 1 => if units * 10 < unitsPerOne then zerosAfterPoint (units * 10) fuel + 1 else 0

/-- The least power of ten above a positive value. -/
def decimalScale (units : Nat) : Int :=
  if units < unitsPerOne then -(zerosAfterPoint units 324 : Nat)
  else (Nat.toDigits 10 (units / unitsPerOne)).length

/-- The shortest decimal that reads back to a positive value. Seventeen digits always do, so the
last alternative, the value cut off to them, does not occur. -/
def shortest (units : Nat) : Decimal :=
  let scale := decimalScale units
  let candidate (count : Nat) : Option Decimal :=
    (onGrid units (scale - count)).map (⟨·, scale - count⟩)
  match (List.range' 1 17).findSome? candidate with
  | some decimal => decimal
  | none => ⟨units * gridDen (scale - 17) / gridNum (scale - 17), scale - 17⟩

end SecretAccess.Binary64

namespace SecretAccess

/-!
## Decimal text

The text of numbers in journals, messages and claims. A whole number is its digits after an optional
sign. A number of the binary format is always told apart from a whole number: it is written with a
decimal point, an exponent or a word. It is written in full while its first digit counts a power of
ten from `10^-4` to `10^15`, and with an exponent of at least two digits beyond.
-/

/-- The decimal text of a whole number. -/
def decimalText (i : Int) : String :=
  String.ofList ((if i < 0 then ['-'] else []) ++ Nat.toDigits 10 i.natAbs)

namespace Binary64

/-- The smallest power of ten of a first digit that is written without an exponent. -/
def plainFrom : Int := -4

/-- The power of ten of a first digit from which on an exponent is written. -/
def plainBelow : Int := 16

/-- A list of digits without the zeros at its end. -/
def trimZeros (digits : List Char) : List Char := (digits.reverse.dropWhile (· = '0')).reverse

/-- Digits with the decimal point after the first `point` of them, filled up with zeros. -/
def plainLayout (digits : List Char) (point : Int) : List Char :=
  if point ≤ 0 then '0' :: '.' :: (List.replicate (-point).toNat '0' ++ digits)
  else
    let whole := digits.take point.toNat
    let rest := digits.drop point.toNat
    whole ++ List.replicate (point.toNat - whole.length) '0' ++
      '.' :: (if rest = [] then ['0'] else rest)

/-- A power of ten behind its mark, with a sign and at least two digits. -/
def exponentChars (power : Int) : List Char :=
  let digits := Nat.toDigits 10 power.natAbs
  'e' :: (if power < 0 then '-' else '+') ::
    (List.replicate (2 - digits.length) '0' ++ digits)

/-- Digits with a point after the first and the power of ten of that digit. -/
def exponentLayout (digits : List Char) (power : Int) : List Char :=
  let mantissa := match digits with
    | [] => []
    | [d] => [d]
    | d :: rest => d :: '.' :: rest
  mantissa ++ exponentChars power

/-- The characters of a magnitude given in units. -/
def magnitudeChars (units : Nat) : List Char :=
  if units = 0 then ['0', '.', '0']
  else
    let decimal := shortest units
    let all := Nat.toDigits 10 decimal.digits
    let power := decimal.exponent + all.length - 1
    if plainFrom ≤ power ∧ power < plainBelow then plainLayout (trimZeros all) (power + 1)
    else exponentLayout (trimZeros all) power

/-- The text of a number of the binary format. -/
def text : Binary64 → String
  | nan => "nan"
  | infinite negative => if negative then "-inf" else "inf"
  | finite negative units =>
    String.ofList ((if negative then ['-'] else []) ++ magnitudeChars units)

end Binary64

end SecretAccess

namespace SecretAccess.Binary64

/-!
## A set number of digits

The text of a finite magnitude with a set number of digits after the point, with an exponent or
without. The digits are those of the **exact value, rounded once to the nearest, a tie going to the
even digit**.
-/

/-- The whole number nearest to the magnitude times a power of ten. -/
def scaled (units : Nat) (power : Int) : Nat :=
  nearestEven (units * Nat.pow 10 power.toNat) (unitsPerOne * Nat.pow 10 (-power).toNat)

/-- Whole digits, a point and further digits. Where there are no further digits the point is written
only on request. -/
def withPoint (keepPoint : Bool) (whole fraction : List Char) : List Char :=
  if fraction = [] && !keepPoint then whole else whole ++ '.' :: fraction

/-- The magnitude with a number of digits after the point. -/
def fixedChars (keepPoint : Bool) (units places : Nat) : List Char :=
  let digits := Nat.toDigits 10 (scaled units places)
  let all := List.replicate (places + 1 - digits.length) '0' ++ digits
  withPoint keepPoint (all.take (all.length - places)) (all.drop (all.length - places))

/-- The magnitude rounded to one digit and a number of further digits: all digits as one number, and
the power of ten of the first. -/
def rounded (units places : Nat) : Nat × Int :=
  if units = 0 then (0, 0)
  else
    let power := decimalScale units - 1
    let digits := scaled units (places - power)
    if digits = Nat.pow 10 (places + 1) then (digits / 10, power + 1) else (digits, power)

/-- One digit, a number of further digits, and the power of ten. -/
def scientificChars (keepPoint : Bool) (units places : Nat) : List Char :=
  let (number, power) := rounded units places
  let digits := Nat.toDigits 10 number
  let all := List.replicate (places + 1 - digits.length) '0' ++ digits
  withPoint keepPoint (all.take 1) (all.drop 1) ++ exponentChars power

/-- More digits than any magnitude has before zeros follow. -/
def mostDigits : Nat := 800

/-- The magnitude with a number of digits in all, written with an exponent only if the point would
stand far from them. Zeros at the end of the fraction are left out unless they are kept. -/
def generalChars (keepZeros : Bool) (units count : Nat) : List Char :=
  let places := (if keepZeros then count else min count mostDigits) - 1
  let (number, power) := rounded units places
  let trim (fraction : List Char) := if keepZeros then fraction else trimZeros fraction
  if -4 ≤ power && power ≤ places then
    let all := fixedChars true units (places - power).toNat
    let whole := all.takeWhile (· ≠ '.')
    withPoint keepZeros whole (trim (all.drop (whole.length + 1)))
  else
    let digits := Nat.toDigits 10 number
    let all := List.replicate (places + 1 - digits.length) '0' ++ digits
    withPoint keepZeros (all.take 1) (trim (all.drop 1)) ++ exponentChars power

end SecretAccess.Binary64
