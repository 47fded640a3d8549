import SecretAccess.Text.Characters
import SecretAccess.Value

/-!
# Names of secrets

A name has 1 to 127 characters, each an ASCII letter, an ASCII digit or a dash, and neither the
first nor the last is a dash. The check goes through the characters once. It reports the first rule
that a value breaks: that there is a name at all, that it is not too long, that its characters are
allowed.
-/

namespace SecretAccess

/-- What is wrong with the name of a secret. -/
inductive NameFault
  /-- There is no text, or only blanks. -/
  | missing
  /-- There are too many characters. -/
  | tooLong
  /-- A character is not allowed where it stands. -/
  | characters
  deriving Repr, DecidableEq

/-- The wording of a refused name. -/
def NameFault.message : NameFault → String
  | missing => "Secret name is required"
  | tooLong => "Secret name must be 127 characters or fewer"
  | characters =>
    "Secret name must contain only alphanumeric characters and dashes, " ++
    "and must start and end with an alphanumeric character"

namespace ResourceName

/-- The most characters a name may have. -/
def maxLength : Nat := 127

/-- Whether a character is an ASCII letter or digit. -/
def isAlphanumeric (c : Char) : Bool :=
  ('a' ≤ c && c ≤ 'z') || ('A' ≤ c && c ≤ 'Z') || ('0' ≤ c && c ≤ '9')

/-- Whether the characters after `last` may end a name: all of them are allowed, and the last
character of all, `last` if there are no more, is a letter or digit. -/
def closes (last : Char) : List Char → Bool
  | [] => isAlphanumeric last
  | c :: rest => (isAlphanumeric c || c = '-') && closes c rest

/-- Whether characters spell a name. -/
def spells : List Char → Bool
  | [] => false
  | c :: rest => isAlphanumeric c && closes c rest

/-- The text under which a value is looked up in an allow-list, where letter case plays no part. -/
def lookupText : Value → Except Fault String
  | .text s => .ok s
  | other => .error (.caseless other.kind)

/-- The name that a value is, or the first rule that it breaks. -/
def check (v : Value) : Except NameFault String :=
  match v.text? with
  | none => .error .missing
  | some s =>
    if Text.isBlankText s then .error .missing
    else if maxLength < s.length then .error .tooLong
    else if spells s.toList then .ok s
    else .error .characters

end ResourceName

end SecretAccess
