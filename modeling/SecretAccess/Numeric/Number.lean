import SecretAccess.Numeric.Binary64
import SecretAccess.Fault

/-!
# Numbers

A number from outside is a whole number of any size or a number of the 64-bit binary format, and
stays of its kind. **Comparison is exact** between the two kinds. A sum or difference of the two
kinds is taken in the binary format, to which the whole number is rounded first; a whole number that
does not fit is a fault.

A truth value may stand where a number is asked for. It is kept, and shown, as a truth value, and
counts as the whole number one or zero wherever it is compared or calculated with.
-/

namespace SecretAccess

/-- A whole number, a number of the binary format, or a truth value in the place of a number. -/
inductive Number
  /-- A whole number. -/
  | int (i : Int)
  /-- A number of the binary format. -/
  | real (x : Binary64)
  /-- A truth value, which counts as one or zero. -/
  | flag (b : Bool)
  deriving Repr, DecidableEq, Inhabited

namespace Number

/-! ## Order -/

/-- Where a number stands among all numbers: at either end, or at an exact number of units. -/
inductive Place
  /-- Below every finite number. -/
  | bottom
  /-- At a number of units of `2^-1074`. -/
  | at (units : Int)
  /-- Above every finite number. -/
  | top
  deriving Repr, DecidableEq

/-- Whether one place is strictly below another. -/
def Place.below : Place → Place → Bool
  | .bottom, .bottom => false
  | .bottom, _ => true
  | .at m, .at n => m < n
  | .at _, .top => true
  | .at _, .bottom => false
  | .top, _ => false

/-- The place of a number; what is no number has none. -/
def place? : Number → Option Place
  | int i => some (.at (i * Binary64.unitsPerOne))
  | real .nan => none
  | real (.infinite negative) => some (if negative then .bottom else .top)
  | real (.finite negative units) => some (.at (Binary64.signedUnits negative units))
  | flag b => some (.at (b.toInt * Binary64.unitsPerOne))

/-- Whether one number is strictly below another. -/
def lt : Number → Number → Bool
  | int i, int j => i < j
  | a, b =>
    match a.place?, b.place? with
    | some p, some q => p.below q
    | _, _ => false

/-- Whether two numbers stand at one place. -/
def same : Number → Number → Bool
  | int i, int j => i = j
  | a, b =>
    match a.place?, b.place? with
    | some p, some q => p = q
    | _, _ => false

/-- Whether one number is below another or at the same place. -/
def le (a b : Number) : Bool := a.lt b || a.same b

/-- Whether a number is zero. -/
def isZero (a : Number) : Bool := a.same (int 0)

/-- Whole numbers stand in their own order. -/
@[simp] theorem int_lt_int (i j : Int) : (int i).lt (int j) = decide (i < j) := rfl

/-- Whole numbers stand at one place only if they are equal. -/
@[simp] theorem int_same_int (i j : Int) : (int i).same (int j) = decide (i = j) := rfl

/-- Whole numbers stand in their own order. -/
@[simp] theorem int_le_int (i j : Int) : (int i).le (int j) = decide (i ≤ j) := by
  by_cases h : i ≤ j <;> simp [le, h] <;> omega

/-! ## Arithmetic -/

/-- The number that a number counts as: a truth value counts as a whole number. -/
def counted : Number → Number
  | flag b => int b.toInt
  | n => n

/-- A number in the binary format. -/
def toBinary : Number → Except Fault Binary64
  | int i =>
    match Binary64.ofInt i with
    | .infinite _ => .error .tooLargeForBinary
    | x => .ok x
  | real x => .ok x
  | flag b => .ok (Binary64.ofInt b.toInt)

/-- The sum. -/
def add (m n : Number) : Except Fault Number :=
  match m.counted, n.counted with
  | int i, int j => .ok (int (i + j))
  | a, b => do return real ((← a.toBinary).add (← b.toBinary))

/-- The difference. -/
def sub (m n : Number) : Except Fault Number :=
  match m.counted, n.counted with
  | int i, int j => .ok (int (i - j))
  | a, b => do return real ((← a.toBinary).sub (← b.toBinary))

/-- Whole numbers are added without rounding. -/
@[simp] theorem int_add_int (i j : Int) : (int i).add (int j) = .ok (int (i + j)) := rfl

/-- Whole numbers are subtracted without rounding. -/
@[simp] theorem int_sub_int (i j : Int) : (int i).sub (int j) = .ok (int (i - j)) := rfl

/-- The integer part, towards zero. -/
def trunc : Number → Except Fault Int
  | int i => .ok i
  | real .nan => .error .undefinedInteger
  | real (.infinite _) => .error .infiniteInteger
  | real (.finite negative units) => .ok (Binary64.trunc negative units)
  | flag b => .ok b.toInt

/-- A whole number is its own integer part. -/
@[simp] theorem trunc_int (i : Int) : (int i).trunc = .ok i := rfl

/-- The quotient by a positive whole number, taken down to a whole number. -/
def floorDiv (divisor : Nat) : Number → Number
  | int i => int (i.fdiv divisor)
  | real x => real (x.floorDiv divisor)
  | flag b => int (b.toInt.fdiv divisor)

/-! ## Text -/

/-- The most digits a whole number may have to be read or written as text. -/
def digitLimit : Nat := 4300

/-- Whether a whole number has more digits than may be read or written. -/
def isVast (i : Int) : Bool := digitLimit < (Nat.toDigits 10 i.natAbs).length

/-- The text of a whole number within the digit limit. -/
def boundedText (i : Int) : Except Fault String :=
  if isVast i then .error .tooManyDigits else .ok (decimalText i)

/-- The text of a number. There is none for a whole number beyond the digit limit. -/
def text : Number → Except Fault String
  | int i => boundedText i
  | real x => .ok x.text
  | flag b => .ok (if b then "True" else "False")

end Number

end SecretAccess
