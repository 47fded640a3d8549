import SecretAccess.Fault

/-!
# The pieces of a template

A template is a text with placeholders. A placeholder is a percent sign followed by, in this order,

* the name of an argument between parentheses, which may be nested;
* flags: `-` to the left, `+` and blank for the sign, `0` for zeros in front, `#` for the alternate
  form;
* a width and, after a point, a precision, each a number or a `*` that takes an argument;
* a letter for the length, which means nothing;
* the character of the conversion.

All but the last may be absent. Two percent signs with nothing between them are no placeholder but
one percent sign. Reading goes through the characters once and keeps the placeholder
that is open. A template that ends inside a placeholder has that placeholder as its last piece,
without a conversion.
-/

namespace SecretAccess.Template

/-! ## Pieces -/

/-- A width or a precision. -/
inductive Amount
  /-- Written in the template. -/
  | fixed (n : Nat)
  /-- Taken from the next argument. -/
  | argument
  deriving Repr, DecidableEq

/-- A part of a template that an argument replaces. -/
structure Placeholder where
  /-- The name of the argument. -/
  name : Option (List Char)
  /-- Whether the text stands at the left of its width. -/
  left : Bool
  /-- Whether a number that is not negative shows a plus sign. -/
  plus : Bool
  /-- Whether a number that is not negative shows a blank for a sign. -/
  blank : Bool
  /-- Whether a number is filled up with zeros. -/
  zeros : Bool
  /-- Whether the alternate form is used. -/
  alternate : Bool
  /-- The least width. -/
  width : Option Amount
  /-- The precision. -/
  precision : Option Amount
  /-- The conversion and its place in the template, or why there is none. -/
  conversion : Except TemplateFault (Char × Nat)

namespace Placeholder

/-- The placeholder of which nothing is read yet. -/
def start : Placeholder :=
  ⟨none, false, false, false, false, false, none, none, .error .cutOff⟩

/-- The placeholder with a further flag, if the character is one. -/
def flag? (p : Placeholder) (c : Char) : Option Placeholder :=
  match c with
  | '-' => some { p with left := true }
  | '+' => some { p with plus := true }
  | ' ' => some { p with blank := true }
  | '0' => some { p with zeros := true }
  | '#' => some { p with alternate := true }
  | _ => none

end Placeholder

/-- A part of a template. -/
inductive Piece
  /-- A character that stands for itself. -/
  | literal (c : Char)
  /-- A part that an argument replaces. -/
  | placeholder (p : Placeholder)

/-! ## Reading -/

/-- What may come next in an open placeholder. -/
inductive Stage
  /-- Anything. -/
  | start
  /-- The rest of a name, inside so many parentheses. -/
  | name (depth : Nat)
  /-- Anything but a name. -/
  | flags
  /-- Further digits of the width, or what follows a width. -/
  | widthDigits
  /-- What follows a width. -/
  | point
  /-- The precision. -/
  | precision
  /-- Further digits of the precision, or what follows a precision. -/
  | precisionDigits
  /-- What follows a precision. -/
  | length
  /-- The conversion. -/
  | conversion
  deriving Repr, DecidableEq

/-- A template that is read up to some point. -/
structure Reading where
  /-- The pieces so far, the latest first. -/
  pieces : List Piece
  /-- The placeholder that is open. -/
  current : Option (Stage × Placeholder)

/-- The value of an ASCII digit. -/
def digitOf? (c : Char) : Option Nat :=
  if '0' ≤ c && c ≤ '9' then some (c.toNat - 48) else none

/-- An amount with a further digit. -/
def extendAmount (digit : Nat) : Option Amount → Option Amount
  | some (.fixed n) => some (.fixed (10 * n + digit))
  | other => other

namespace Reading

/-- Leave the placeholder open, at a stage. -/
def hold (r : Reading) (stage : Stage) (p : Placeholder) : Reading := ⟨r.pieces, some (stage, p)⟩

/-- Close the placeholder with its conversion. -/
def close (r : Reading) (p : Placeholder) (c : Char) (position : Nat) : Reading :=
  ⟨.placeholder { p with conversion := .ok (c, position) } :: r.pieces, none⟩

/-- Read a character where the length may stand. -/
def atLength (r : Reading) (p : Placeholder) (c : Char) (position : Nat) : Reading :=
  if c = 'h' || c = 'l' || c = 'L' then r.hold .conversion p else r.close p c position

/-- Read a character where the point of a precision may stand. -/
def atPoint (r : Reading) (p : Placeholder) (c : Char) (position : Nat) : Reading :=
  if c = '.' then r.hold .precision { p with precision := some (.fixed 0) }
  else r.atLength p c position

/-- Read a character where a width may stand. -/
def atWidth (r : Reading) (p : Placeholder) (c : Char) (position : Nat) : Reading :=
  if c = '*' then r.hold .point { p with width := some .argument }
  else match digitOf? c with
    | some digit => r.hold .widthDigits { p with width := some (.fixed digit) }
    | none => r.atPoint p c position

/-- Read a character where a flag may stand. -/
def atFlags (r : Reading) (p : Placeholder) (c : Char) (position : Nat) : Reading :=
  match p.flag? c with
  | some flagged => r.hold .flags flagged
  | none => r.atWidth p c position

/-- Read a character of a name. -/
def atName (r : Reading) (p : Placeholder) (depth : Nat) (c : Char) : Reading :=
  if c = ')' && depth ≤ 1 then r.hold .flags p
  else
    let deeper := if c = '(' then depth + 1 else if c = ')' then depth - 1 else depth
    r.hold (.name deeper) { p with name := p.name.map (· ++ [c]) }

/-- Read one character of a template. -/
def advance (r : Reading) (c : Char) (position : Nat) : Reading :=
  match r.current with
  | none =>
    if c = '%' then r.hold .start .start else ⟨.literal c :: r.pieces, none⟩
  | some (stage, p) =>
    match stage with
    | .start =>
      if c = '%' then ⟨.literal '%' :: r.pieces, none⟩
      else if c = '(' then r.hold (.name 1) { p with name := some [] }
      else r.atFlags p c position
    | .name depth => r.atName p depth c
    | .flags => r.atFlags p c position
    | .widthDigits =>
      match digitOf? c with
      | some digit => r.hold .widthDigits { p with width := extendAmount digit p.width }
      | none => r.atPoint p c position
    | .point => r.atPoint p c position
    | .precision =>
      if c = '*' then r.hold .length { p with precision := some .argument }
      else match digitOf? c with
        | some digit => r.hold .precisionDigits { p with precision := some (.fixed digit) }
        | none => r.atLength p c position
    | .precisionDigits =>
      match digitOf? c with
      | some digit => r.hold .precisionDigits { p with precision := extendAmount digit p.precision }
      | none => r.atLength p c position
    | .length => r.atLength p c position
    | .conversion => r.close p c position

/-- Read all characters from a place on. -/
def advanceAll (r : Reading) (position : Nat) : List Char → Reading
  | [] => r
  | c :: rest => advanceAll (r.advance c position) (position + 1) rest

/-- The pieces of what is read, the earliest first. -/
def allPieces (r : Reading) : List Piece :=
  match r.current with
  | none => r.pieces.reverse
  | some (.name _, p) =>
    (.placeholder { p with conversion := .error .nameCutOff } :: r.pieces).reverse
  | some (_, p) => (.placeholder p :: r.pieces).reverse

end Reading

/-- The pieces of a template. -/
def piecesOf (template : String) : List Piece :=
  (Reading.advanceAll ⟨[], none⟩ 0 template.toList).allPieces

end SecretAccess.Template
