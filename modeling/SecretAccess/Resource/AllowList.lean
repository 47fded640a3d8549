import SecretAccess.Table
import SecretAccess.Text.Characters
import SecretAccess.Text.LetterCase
import SecretAccess.Value

/-!
# Secrets and their categories

Which secrets the store dispenses, and the category that each secret has.
-/

namespace SecretAccess

/-!
## Allow-lists

An allow-list says which secrets the store dispenses, by category. It is read from an external map
of category to names, and kept in lower case; blanks around a category are dropped. The categories
keep the order in which they were first written, which is the order in which they are searched. Two
keys that agree after this are one category, and the names written last are its names.
-/

/-- The dispensable secrets by category. -/
structure AllowList where
  /-- Categories with their names, in the order of the search; a name occurs once in a category. -/
  categories : List (String × List String)
  deriving Repr, DecidableEq

namespace AllowList

/-! ### Reading -/

/-- What is wrong with a key that may not be a category. The refusal shows the key as it is written,
which a whole number beyond the digit limit cannot be. -/
def faultOfKey (key : Value) : Fault :=
  match key.written with
  | .ok shown => .config (.categoryName shown)
  | .error fault => fault

/-- The text of a key, if it may be a category: any text that is not blank. -/
def categoryOfKey (key : Value) : Except Fault String :=
  match key.text?.filter (!Text.isBlankText ·) with
  | some s => .ok s
  | none => .error (faultOfKey key)

/-- The text that an item stands for, if it may be a name: any text but the empty one. -/
def nameOfItem? (item : Value) : Option String := item.text?.filter (· ≠ "")

/-- The names, in lower case, that a value lists for a category. -/
def namesOfValue (category : String) (v : Value) : Except Fault (List String) :=
  match v with
  | .text _ => .error (.config (.namesAreText category))
  | v => do
    match (← v.elements).mapM nameOfItem? with
    | some names => .ok (names.map Text.lower).eraseDups
    | none => .error (.config (.namesNotTexts category))

/-- One entry of the external map as a category with its names. The category loses its outer blanks
and is brought to lower case. -/
def readEntry (entry : Value × Value) : Except Fault (String × List String) := do
  let category ← categoryOfKey entry.1
  let names ← namesOfValue category entry.2
  return (Text.lower (Text.strip category), names)

/-- The categories of entries that are written one after another. -/
def ofEntries (entries : List (String × List String)) : AllowList :=
  ⟨entries.foldl (fun acc (category, names) => Table.put category names acc) []⟩

/-- The allow-list that an external value stands for. -/
def ofValue : Value → Except Fault AllowList
  | .map entries => do return ofEntries (← entries.mapM readEntry)
  | _ => .error (.config .allowListNotMap)

/-! ### Asking -/

/-- The names of the categories, in the order of the search. -/
def categoryNames (allowed : AllowList) : List String := allowed.categories.map (·.1)

/-- The first category that lists a secret, in any letter case. -/
def categoryFor? (allowed : AllowList) (name : String) : Option String :=
  (allowed.categories.find? fun (_, names) => names.contains (Text.lower name)).map (·.1)

/-- Whether a secret is listed, and so dispensable at all. -/
def isEntitled (allowed : AllowList) (name : String) : Bool := (allowed.categoryFor? name).isSome

/-- Texts in the order of their code points. -/
def sorted (texts : List String) : List String := texts.mergeSort (· ≤ ·)

end AllowList

end SecretAccess

namespace SecretAccess.AllowList

/-!
## The shipped allow-list

The secrets that are dispensed where no other allow-list is given. Every name and category is in
lower case already, and none occurs twice.
-/

/-- Credentials of sign-in providers. -/
def oauthNames : List String :=
  ["discord-bot-token", "oauth-facebook-app-id", "oauth-facebook-app-secret",
   "oauth-google-client-id", "oauth-google-client-secret", "oauth-discord-client-id",
   "oauth-discord-client-secret", "oauth-twitch-client-id", "oauth-twitch-client-secret",
   "oauth-github-client-id", "oauth-github-client-secret", "oauth-apple-client-id",
   "oauth-apple-client-secret", "oauth-amazon-client-id", "oauth-amazon-client-secret",
   "oauth-microsoft-personal-client-id", "oauth-microsoft-personal-client-secret",
   "oauth-microsoft-work-client-id", "oauth-microsoft-work-client-secret",
   "oauth-steam-api-key", "oauth-battlenet-client-id", "oauth-battlenet-client-secret",
   "oauth-epic-client-id", "oauth-epic-client-secret", "oauth-xbox-client-id",
   "oauth-xbox-client-secret"]

/-- Credentials of the sign-in service itself. -/
def betterauthNames : List String :=
  ["betterauth-secret", "betterauth-exchange-private-key", "better-auth-webhook-secret"]

/-- Credentials of the services behind it. -/
def infrastructureNames : List String :=
  ["postgres-password", "rabbitmq-password", "redis-password"]

/-- The allow-list that is used by default. -/
def shipped : AllowList :=
  ⟨[("oauth", oauthNames), ("betterauth", betterauthNames),
    ("infrastructure", infrastructureNames)]⟩

end SecretAccess.AllowList

namespace SecretAccess.Category

/-!
## The category of a secret

Every secret has a category: the first that lists it, otherwise the one that its name begins with by
convention, otherwise `custom`. Only a listed secret is dispensable.
-/

/-- The category of a secret that nothing else puts anywhere. -/
def custom : String := "custom"

/-- How the names of a category begin by convention. -/
def conventions : List (String × String) :=
  [("oauth-", "oauth"), ("betterauth-", "betterauth"), ("infrastructure-", "infrastructure"),
   ("infra-", "infrastructure")]

/-- Whether a text begins with another. -/
def beginsWith (start s : String) : Bool := start.toList.isPrefixOf s.toList

/-- The category that a name begins with, in any letter case. -/
def infer? (name : String) : Option String :=
  (conventions.find? fun (start, _) => beginsWith start (Text.lower name)).map (·.2)

/-- The category of a secret under an allow-list. -/
def resolve (allowed : AllowList) (name : String) : String :=
  ((allowed.categoryFor? name).or (infer? name)).getD custom

end SecretAccess.Category
