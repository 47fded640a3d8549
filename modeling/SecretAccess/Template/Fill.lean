import SecretAccess.Numeric.Binary64
import SecretAccess.Template.Piece
import SecretAccess.Value

/-!
# Templates with their arguments

How one argument is written in the place of a placeholder, and how all placeholders of a template
are filled.
-/

namespace SecretAccess.Template

/-!
## Conversions

How one argument is written in the place of a placeholder. There are conversions for texts (`s`,
`r`, `a`), whole numbers (`d`, `i`, `u`, `o`, `x`, `X`), numbers of the binary format (`e`, `f`, `g`
and their capitals) and characters (`c`). Each gives a body, which is then laid out in its width:
the sign comes first, then the mark of a base, and the filling stands before, between or after them.
-/

/-- How a body is laid out. -/
structure Form where
  /-- Whether the body stands at the left of its width. -/
  left : Bool
  /-- Whether a number that is not negative shows a plus sign. -/
  plus : Bool
  /-- Whether a number that is not negative shows a blank for a sign. -/
  blank : Bool
  /-- Whether a number is filled up with zeros. -/
  zeros : Bool
  /-- Whether the alternate form is used. -/
  alternate : Bool
  /-- The least width. -/
  width : Nat
  /-- The precision, if one is set. -/
  precision : Option Nat
  deriving Repr, DecidableEq

/-! ### Layout -/

/-- A text in its width. -/
def Form.textChars (form : Form) (body : List Char) : List Char :=
  let filling := List.replicate (form.width - body.length) ' '
  if form.left then body ++ filling else filling ++ body

/-- A number in its width: whether it is negative, the mark of its base, and its digits. -/
def Form.numberChars (form : Form) (negative : Bool) (mark digits : List Char) : List Char :=
  let sign :=
    if negative then ['-'] else if form.plus then ['+'] else if form.blank then [' '] else []
  let missing := form.width - (sign.length + mark.length + digits.length)
  if form.left then sign ++ mark ++ digits ++ List.replicate missing ' '
  else if form.zeros then sign ++ mark ++ List.replicate missing '0' ++ digits
  else List.replicate missing ' ' ++ sign ++ mark ++ digits

/-! ### Texts -/

/-- A text cut off after its precision, in its width. -/
def Form.cutChars (form : Form) (s : String) : List Char :=
  form.textChars (match form.precision with
    | some n => s.toList.take n
    | none => s.toList)

/-- A written text with every character outside ASCII spelled out. -/
def asciiText (s : String) : String :=
  String.ofList (s.toList.flatMap fun c =>
    if c.toNat < 128 then [c] else Text.escapeNumber c.toNat)

/-! ### Whole numbers -/

/-- The whole number that an argument is. -/
def wholeOf? : Value → Option Int
  | .bool b => some (if b then 1 else 0)
  | .number (.int i) => some i
  | _ => none

/-- The whole number of an argument, for the conversions that take the integer part. -/
def wholePart (c : Char) (v : Value) : Except Fault Int :=
  match wholeOf? v, v with
  | some i, _ => .ok i
  | none, .number n => n.trunc
  | none, other => .error (.template (.numberRequired c other.kind))

/-- The whole number of an argument, for the conversions that take nothing else. -/
def wholeOnly (c : Char) (v : Value) : Except Fault Int :=
  match wholeOf? v with
  | some i => .ok i
  | none => .error (.template (.integerRequired c v.kind))

/-- A precision from which on no whole number is written. -/
def precisionLimit : Nat := Nat.pow 2 31 - 3

/-- A whole number in a base. The precision is the least number of digits, and the alternate form
shows the mark of the base. The digit limit is one of decimal digits. -/
def Form.wholeChars (form : Form) (base : Nat) (mark : List Char) (upper : Bool) (i : Int) :
    Except Fault (List Char) :=
  if precisionLimit ≤ form.precision.getD 1 then .error (.template .precisionTooLarge)
  else if base = 10 && Number.isVast i then .error .tooManyDigits
  else
    let digits := Nat.toDigits base i.natAbs
    let cased := if upper then digits.map Char.toUpper else digits
    let shown := List.replicate (form.precision.getD 1 - cased.length) '0' ++ cased
    .ok (form.numberChars (i < 0) (if form.alternate then mark else []) shown)

/-! ### Numbers of the binary format -/

/-- The number of the binary format that an argument is. -/
def realOf (v : Value) : Except Fault Binary64 :=
  match wholeOf? v, v with
  | some i, _ => (Number.int i).toBinary
  | none, .number n => n.toBinary
  | none, other => .error (.template (.realRequired other.kind))

/-- The characters of a magnitude under one of the conversions `e`, `f` and `g`. -/
def magnitudeOf (form : Form) (style : Char) (units : Nat) : List Char :=
  let precision := form.precision.getD 6
  if style = 'e' then Binary64.scientificChars form.alternate units precision
  else if style = 'f' then Binary64.fixedChars form.alternate units precision
  else Binary64.generalChars form.alternate units (max precision 1)

/-- A number of the binary format. -/
def Form.realChars (form : Form) (style : Char) (upper : Bool) (x : Binary64) : List Char :=
  let cased (digits : List Char) := if upper then digits.map Char.toUpper else digits
  match x with
  | .nan => form.numberChars false [] (cased ['n', 'a', 'n'])
  | .infinite negative => form.numberChars negative [] (cased ['i', 'n', 'f'])
  | .finite negative units =>
    form.numberChars negative [] (cased (magnitudeOf form style units))

/-! ### Characters -/

/-- The character that an argument is, or whose number it is. -/
def charOf (v : Value) : Except TemplateFault Char :=
  match wholeOf? v, v with
  | some i, _ =>
    if i < 0 || 0x110000 ≤ i then .error .characterOutOfRange
    else .ok (Char.ofNat i.toNat)
  | none, .text s =>
    match s.toList with
    | [c] => .ok c
    | _ => .error .characterRequired
  | none, _ => .error .characterRequired

/-! ### All conversions -/

/-- An argument under a conversion. -/
def convert (form : Form) (c : Char) (position : Nat) (v : Value) : Except Fault (List Char) :=
  match c with
  | 's' => v.display.map form.cutChars
  | 'r' => v.written.map form.cutChars
  | 'a' => v.written.map fun s => form.cutChars (asciiText s)
  | 'd' | 'i' | 'u' => wholePart c v >>= form.wholeChars 10 [] false
  | 'o' => wholeOnly c v >>= form.wholeChars 8 ['0', 'o'] false
  | 'x' => wholeOnly c v >>= form.wholeChars 16 ['0', 'x'] false
  | 'X' => wholeOnly c v >>= form.wholeChars 16 ['0', 'X'] true
  | 'e' | 'f' | 'g' => (realOf v).map (form.realChars c false)
  | 'E' | 'F' | 'G' => (realOf v).map (form.realChars c.toLower true)
  | 'c' =>
    match charOf v with
    | .ok c => .ok (form.textChars [c])
    | .error fault => .error (.template fault)
  | _ => .error (.template (.conversionUnknown c position))

/-!
## Filling a template

The placeholders of a template are filled one after another, from named arguments or from one
argument without a name. An argument without a name is used **exactly once**: a second placeholder
that asks for it finds nothing, and a template that does not ask for it is a fault. A named argument
may be used any number of times or not at all. A list counts as arguments with names of which none
can be found, so it need not be used.
-/

/-! ### Arguments -/

/-- The arguments that are left for a template. -/
structure Supply where
  /-- Where named arguments are looked up, if anywhere. -/
  named : Option Value
  /-- The argument that the next placeholder without a name takes. -/
  next : Value
  /-- Whether it is used up. -/
  used : Bool

namespace Supply

/-- The arguments that a value stands for. A list of one map that is not empty stands for the
map. -/
def ofValue : Value → Except TemplateFault Supply
  | .text s => .ok ⟨none, .text s, false⟩
  | .list [.map (entry :: rest)] =>
    .ok ⟨some (.map (entry :: rest)), .map (entry :: rest), false⟩
  | .list items => .ok ⟨some (.list items), .list items, false⟩
  | .map [_] => .error (.nameUnknown "0")
  | .map entries => .ok ⟨some (.map entries), .map entries, false⟩
  | other => .error (.uncountable other.kind)

/-- The next argument. -/
def take (supply : Supply) : Except TemplateFault (Value × Supply) :=
  if supply.used then .error .argumentMissing
  else .ok (supply.next, { supply with used := true })

/-- Make the argument of a name the next one. -/
def select (supply : Supply) (name : String) : Except TemplateFault Supply :=
  match supply.named with
  | none => .error .namesMissing
  | some (.map entries) =>
    match entries.find? fun entry => entry.1.sameKey (.text name) with
    | some (_, v) => .ok { supply with next := v, used := false }
    | none => .error (.nameUnknown (Text.quoted name))
  | some _ => .error .listHasNoNames

/-- Make the argument that a placeholder names the next one. -/
def selectFor (supply : Supply) (p : Placeholder) : Except TemplateFault Supply :=
  match p.name, supply.named, p.conversion with
  | none, _, _ => .ok supply
  | some _, none, _ => .error .namesMissing
  | some _, some _, .error .nameCutOff => .error .nameCutOff
  | some name, some _, _ => supply.select (String.ofList name)

/-- The value of an amount, if there is one. -/
def amount (supply : Supply) (use : AmountUse) :
    Option Amount → Except TemplateFault (Option Int × Supply)
  | none => .ok (none, supply)
  | some (.fixed n) => if use.bound ≤ n then .error (.amountTooBig use) else .ok (some n, supply)
  | some .argument => do
    let (v, rest) ← supply.take
    match wholeOf? v with
    | none => .error .amountNotInteger
    | some i =>
      if i < -use.bound || use.bound ≤ i then .error (.amountOutOfRange use)
      else .ok (some i, rest)

end Supply

/-! ### Filling -/

/-- The form that a placeholder asks for. A negative width stands for its size, at the left; a
negative precision for none of the digits. -/
def formOf (p : Placeholder) (width precision : Option Int) : Form :=
  { left := p.left || (width.getD 0) < 0
    plus := p.plus
    blank := p.blank
    zeros := p.zeros
    alternate := p.alternate
    width := (width.getD 0).natAbs
    precision := precision.map Int.toNat }

/-- The amounts of a placeholder as a form, and the arguments that are left. -/
def readForm (supply : Supply) (p : Placeholder) : Except TemplateFault (Form × Supply) := do
  let supply ← supply.selectFor p
  let (width, supply) ← supply.amount .width p.width
  let (precision, supply) ← supply.amount .precision p.precision
  return (formOf p width precision, supply)

/-- Write a fault of a template as a fault. -/
def lift {α : Type} : Except TemplateFault α → Except Fault α
  | .ok a => .ok a
  | .error fault => .error (.template fault)

/-- A width from which on no text is held. -/
def widthLimit : Nat := Nat.pow 2 40

/-- An argument under a conversion, unless its width is beyond every text. -/
def write (form : Form) (c : Char) (position : Nat) (v : Value) : Except Fault (List Char) :=
  if form.width < widthLimit then convert form c position v
  else do
    let _ ← convert { form with width := 0 } c position v
    .error (.template .tooLong)

/-- What stands in the place of a placeholder, and the arguments that are left. -/
def fillOne (supply : Supply) (p : Placeholder) : Except Fault (List Char × Supply) := do
  let (form, supply) ← lift (readForm supply p)
  let (c, position) ← lift p.conversion
  let (v, supply) ← lift supply.take
  return (← write form c position v, supply)

/-- The pieces of a template, filled one after another. -/
def fillAll : Supply → List Piece → Except Fault (List Char)
  | supply, [] =>
    if supply.named.isNone && !supply.used then .error (.template .argumentUnused) else .ok []
  | supply, .literal c :: rest => do return c :: (← fillAll supply rest)
  | supply, .placeholder p :: rest => do
    let (written, supply) ← fillOne supply p
    return written ++ (← fillAll supply rest)

/-- The arguments that a value stands for. -/
def supplyOf (arguments : Value) : Except Fault Supply := lift (Supply.ofValue arguments)

/-- A template with its placeholders filled from some arguments. -/
def fillFrom (supply : Supply) (template : String) : Except Fault String := do
  return String.ofList (← fillAll supply (piecesOf template))

end SecretAccess.Template
