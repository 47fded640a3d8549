import SecretAccess.Text.Characters

/-!
# Texts as they are written

How numbers and texts are spelled out for a reader or a program, and how texts are cut and joined.
-/

namespace SecretAccess.Text

/-!
## Hexadecimal digits

Lower-case hexadecimal text of a fixed width, for escapes, fingerprints and nonces.
-/

/-- The sixteen digits in order. -/
def hexDigits : List Char :=
  ['0', '1', '2', '3', '4', '5', '6', '7', '8', '9', 'a', 'b', 'c', 'd', 'e', 'f']

/-- The digit of a number below sixteen. -/
def hexDigit (n : Nat) : Char := hexDigits.getD n '0'

/-- The `width` lowest hexadecimal digits of a number, the highest first. -/
def hexChars : Nat → Nat → List Char
  | 0, _ => []
  | width + 1, n => hexChars width (n / 16) ++ [hexDigit (n % 16)]

/-- Whether a text is made of exactly `count` lower-case hexadecimal digits. -/
def isHexText (count : Nat) (s : String) : Bool :=
  s.toList.length = count && s.toList.all (hexDigits.contains ·)

/-!
## Quoted text

The written form of a text inside a list, a map or a message: between two quotes, on one line, and
with every character that cannot be printed spelled out. The quote is the apostrophe, unless the
text has apostrophes and no double quotes.
-/

/-- The quote that is written around a text. -/
def quoteOf (cs : List Char) : Char :=
  if cs.contains '\'' && !cs.contains '"' then '"' else '\''

/-- A character that is not printable, by its number: `\xNN`, `\uNNNN` or `\UNNNNNNNN`, whichever
is the shortest that holds it. -/
def escapeNumber (n : Nat) : List Char :=
  if n < 0x100 then '\\' :: 'x' :: hexChars 2 n
  else if n < 0x10000 then '\\' :: 'u' :: hexChars 4 n
  else '\\' :: 'U' :: hexChars 8 n

/-- One character inside a quoted text. -/
def quoteChar (quote c : Char) : List Char :=
  if c = quote || c = '\\' then ['\\', c]
  else if c = '\n' then ['\\', 'n']
  else if c = '\r' then ['\\', 'r']
  else if c = '\t' then ['\\', 't']
  else if isPrintable c then [c]
  else escapeNumber c.toNat

/-- A text between quotes. -/
def quoted (s : String) : String :=
  let quote := quoteOf s.toList
  String.ofList (quote :: (s.toList.flatMap (quoteChar quote) ++ [quote]))

/-!
## Segments

A text cut at every occurrence of one separating character, and segments joined again by a text.
Cutting loses nothing: n separators give n + 1 segments, some of which may be empty.
-/

/-- The pieces of a list of characters between the separators. -/
def cutAt (separator : Char) : List Char → List (List Char)
  | [] => [[]]
  | c :: rest =>
    match cutAt separator rest with
    | [] => [[c]]
    | piece :: pieces => if c = separator then [] :: piece :: pieces else (c :: piece) :: pieces

/-- There is at least one piece. -/
theorem cutAt_ne_nil (separator : Char) (cs : List Char) : cutAt separator cs ≠ [] := by
  cases cs with
  | nil => simp [cutAt]
  | cons c rest =>
    rw [cutAt]
    split
    · simp
    · split <;> simp

/-- The pieces of a text between the separators. -/
def segments (separator : Char) (s : String) : List String :=
  (cutAt separator s.toList).map String.ofList

/-- Texts one after another, with a separating text between neighbours. -/
def join (separator : String) (pieces : List String) : String :=
  separator.intercalate pieces

end SecretAccess.Text
