import SecretAccess.Numeric.Number
import SecretAccess.Text.Characters

/-!
# Numerals

Reading numbers from text. Digits may be decimal digits of any script, and a single underscore may
stand between two digits. A whole number has an optional sign and at most `Number.digitLimit`
digits, leading zeros included. A number of the binary format may also have a point, an exponent, or
be one of the words for infinity and for no number; it is rounded once, from its exact value.

The texts read here have no blanks around them: callers strip them first.
-/

namespace SecretAccess.Numeral

open Text (digit?)

/-! ## Signs and digits -/

/-- Whether a text starts with a minus sign, and the rest after an optional sign. -/
def splitSign : List Char → Bool × List Char
  | '-' :: rest => (true, rest)
  | '+' :: rest => (false, rest)
  | cs => (false, cs)

/-- The values of digits that follow a digit: each is a digit, or an underscore and a digit. -/
def digitsAfterDigit : List Char → Option (List Nat)
  | [] => some []
  | ['_'] => none
  | '_' :: c :: rest => do return (← digit? c) :: (← digitsAfterDigit rest)
  | c :: rest => do return (← digit? c) :: (← digitsAfterDigit rest)

/-- The values of the digits of a numeral without a sign: at least one digit. -/
def digits? : List Char → Option (List Nat)
  | [] => none
  | c :: rest => do return (← digit? c) :: (← digitsAfterDigit rest)

/-- The number with the given digits, the highest first. -/
def ofDigits (digits : List Nat) : Nat := digits.foldl (fun n d => 10 * n + d) 0

/-! ## Whole numbers -/

/-- The whole number that a text without outer blanks stands for. -/
def int? (s : String) : Option Int :=
  let (negative, unsigned) := splitSign s.toList
  match digits? unsigned with
  | some digits =>
    if Number.digitLimit < digits.length then none
    else some (if negative then -ofDigits digits else ofDigits digits)
  | none => none

/-! ## Numbers of the binary format -/

/-- A character in lower case if it is an ASCII letter. -/
def asciiLower (c : Char) : Char := if 'A' ≤ c ∧ c ≤ 'Z' then Char.ofNat (c.toNat + 32) else c

/-- The magnitude a word stands for, in any ASCII letter case. -/
def word? (cs : List Char) : Option (Bool → Binary64) :=
  let lowered := String.ofList (cs.map asciiLower)
  if lowered = "inf" || lowered = "infinity" then some .infinite
  else if lowered = "nan" then some fun _ => .nan
  else none

/-- The digits of one side of a decimal point, where no digit at all is allowed. -/
def optionalDigits? : List Char → Option (List Nat)
  | [] => some []
  | cs => digits? cs

/-- The digits before and after the decimal point; there is at least one on either side. -/
def mantissa? (cs : List Char) : Option (List Nat × List Nat) := do
  let whole ← optionalDigits? (cs.takeWhile (· ≠ '.'))
  let fraction ← optionalDigits? ((cs.dropWhile (· ≠ '.')).drop 1)
  if whole = [] ∧ fraction = [] then none else some (whole, fraction)

/-- The power of ten behind the exponent mark, zero if there is no mark. -/
def exponent? : List Char → Option Int
  | [] => some 0
  | _ :: cs =>
    let (negative, unsigned) := splitSign cs
    (digits? unsigned).map fun digits => if negative then -ofDigits digits else ofDigits digits

/-- Whether a character marks an exponent. -/
def isExponentMark (c : Char) : Bool := c = 'e' || c = 'E'

/-- The value nearest to `digits * 10^exponent`. A first digit far outside the range of the format
decides without computing the power. -/
def ofDecimal (negative : Bool) (digits : List Nat) (exponent : Int) : Binary64 :=
  let significant := digits.dropWhile (· = 0)
  let position := significant.length + exponent
  if significant = [] || position < -400 then Binary64.zero negative
  else if 400 < position then .infinite negative
  else
    Binary64.ofRatio negative
      (ofDigits significant * Binary64.unitsPerOne * Nat.pow 10 exponent.toNat)
      (Nat.pow 10 (-exponent).toNat)

/-- The number of the binary format that a text without outer blanks stands for. -/
def real? (s : String) : Option Binary64 :=
  let (negative, unsigned) := splitSign s.toList
  match word? unsigned with
  | some magnitude => some (magnitude negative)
  | none => do
    let (whole, fraction) ← mantissa? (unsigned.takeWhile (!isExponentMark ·))
    let exponent ← exponent? (unsigned.dropWhile (!isExponentMark ·))
    some (ofDecimal negative (whole ++ fraction) (exponent - fraction.length))

end SecretAccess.Numeral
