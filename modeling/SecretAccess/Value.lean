import SecretAccess.Numeric.Number
import SecretAccess.Text.Written

/-!
# External values

Claims, allow-lists, resource names and permission lists come from outside as values of any shape:
null, booleans, numbers, texts, lists and maps, nested at will. This module holds the type, its
text, the elements of a value, and the building of maps from entries.

A value has two texts. `Value.display` is the text of the value by itself; `Value.written` is its
text inside a list or a map, where a text stands between quotes. The two differ on texts only. A
value that holds a whole number beyond the digit limit, at whatever depth, has neither.

Texts are texts of characters. A text from outside may also hold surrogates, which are no
characters; they are told from characters only where a text is turned into bytes, which happens to
nonces alone (`SecretAccess.Nonce`).
-/

namespace SecretAccess

/-- A value from outside. A map holds its entries in the order of their first writing. -/
inductive Value
  /-- The absent value. -/
  | null
  /-- A truth value. -/
  | bool (b : Bool)
  /-- A number. -/
  | number (n : Number)
  /-- A text. -/
  | text (s : String)
  /-- Values in order. -/
  | list (items : List Value)
  /-- Keys with their values, in order. -/
  | map (entries : List (Value × Value))
  deriving Repr, Inhabited

namespace Value

/-- A text or null. -/
def ofText? : Option String → Value
  | some s => text s
  | none => null

/-- A whole number. -/
def ofInt (i : Int) : Value := number (.int i)

/-- A number; a truth value in its place is a truth value. -/
def ofNumber : Number → Value
  | .flag b => bool b
  | n => number n

/-- The number that a value stands for, if it does. -/
def number? : Value → Option Number
  | number n => some n
  | bool b => some (.flag b)
  | _ => none

/-- The text that a value is, if it is one. -/
def text? : Value → Option String
  | text s => some s
  | _ => none

/-- The word for the kind of a value, as messages name it. -/
def kind : Value → String
  | null => "NoneType"
  | bool _ => "bool"
  | number (.int _) => "int"
  | number (.real _) => "float"
  | number (.flag _) => "bool"
  | text _ => "str"
  | list _ => "list"
  | map _ => "dict"

/-- Whether a value counts as present: it is not null, false, zero or empty. -/
def isPresent : Value → Bool
  | null => false
  | bool b => b
  | number n => !n.isZero
  | text s => s != ""
  | list items => !items.isEmpty
  | map entries => !entries.isEmpty

/-! ## Text -/

mutual

/-- The text of a value inside a list or a map. -/
def written : Value → Except Fault String
  | null => .ok "None"
  | bool b => .ok (if b then "True" else "False")
  | number n => n.text
  | text s => .ok (Text.quoted s)
  | list items => do return "[" ++ Text.join ", " (← writtenItems items) ++ "]"
  | map entries => do return "\x7b" ++ Text.join ", " (← writtenEntries entries) ++ "\x7d"

/-- The texts of the items of a list. -/
def writtenItems : List Value → Except Fault (List String)
  | [] => .ok []
  | item :: rest => do return (← written item) :: (← writtenItems rest)

/-- The texts of the entries of a map, a colon between key and value. -/
def writtenEntries : List (Value × Value) → Except Fault (List String)
  | [] => .ok []
  | (key, value) :: rest => do
    return ((← written key) ++ ": " ++ (← written value)) :: (← writtenEntries rest)

end

/-- The text of a value by itself. -/
def display : Value → Except Fault String
  | text s => .ok s
  | value => value.written

/-! ## Elements -/

/-- The elements of a value: the items of a list, the characters of a text, the keys of a map.
No other value has elements. -/
def elements : Value → Except Fault (List Value)
  | list items => .ok items
  | text s => .ok (s.toList.map fun c => text (String.singleton c))
  | map entries => .ok (entries.map (·.1))
  | value => .error (.notIterable value.kind)

/-! ## Fields -/

/-- The value under a name, if there is one. -/
def field? (name : String) : Value → Option Value
  | map entries => (entries.find? fun entry => entry.1.text? = some name).map (·.2)
  | _ => none

/-- The value under a name, which has to be there. -/
def field (name : String) : Value → Except Fault Value
  | map entries =>
    match (map entries).field? name with
    | some value => .ok value
    | none => .error (.fieldMissing name)
  | other => .error (.notFields other.kind)

/-! ## Pairs -/

/-- The name and the value that a value of two elements holds. -/
def pair : Value → Except Fault (Value × Value)
  | value =>
    match value.elements with
    | .ok [name, held] => .ok (name, held)
    | .ok [] => .error (.pairTooShort 0)
    | .ok [_] => .error (.pairTooShort 1)
    | .ok _ => .error .pairTooLong
    | .error _ => .error (.notPair value.kind)

/-! ## Keys -/

/-- The number that a key is counted as: truth values are the numbers zero and one. -/
def keyNumber? : Value → Option Number
  | bool b => some (.int (if b then 1 else 0))
  | number n => some n
  | _ => none

/-- Whether two keys are one and the same: equal texts, nulls, or numbers at one place. -/
def sameKey : Value → Value → Bool
  | null, null => true
  | text s, text t => s = t
  | a, b =>
    match a.keyNumber?, b.keyNumber? with
    | some m, some n => m.same n
    | _, _ => false

/-- A value as a key; lists and maps are none. -/
def asKey : Value → Except Fault Value
  | list _ => .error (.notKey "list")
  | map _ => .error (.notKey "dict")
  | value => .ok value

/-- The distinct ones of some keys, each where it occurs first. -/
def distinctKeys : List Value → List Value
  | [] => []
  | key :: rest => key :: (distinctKeys rest).filter (!sameKey key ·)

/-- Write an entry: at its place if the key is present, at the end otherwise. The key keeps the
form in which it was first written. -/
def putEntry (key value : Value) : List (Value × Value) → List (Value × Value)
  | [] => [(key, value)]
  | (k, v) :: rest =>
    if k.sameKey key then (k, value) :: rest else (k, v) :: putEntry key value rest

/-- The map of some entries, each a value of two elements, written one after another. -/
def mapOf (entries : List Value) : Except Fault Value := do
  let written ← entries.foldlM (fun acc entry => do
    let (key, value) ← entry.pair
    return putEntry (← key.asKey) value acc) []
  return map written

end Value

end SecretAccess
