import SecretAccess.Journal.Entry
import SecretAccess.Resource.Name
import SecretAccess.Text.LetterCase
import SecretAccess.Value

/-!
# Permissions

What a caller may ask for, what a permission grants, and when the one covers the other.
-/

namespace SecretAccess

/-!
## Actions

The four things a caller may ask to do with a secret. A permission names an action by its word, in
any letter case; journals and denial reasons show its label.
-/

/-- What a caller wants to do with a secret. -/
inductive Action
  /-- Read the secret. -/
  | read
  /-- Set the secret. -/
  | write
  /-- Replace the secret by a new one. -/
  | rotate
  /-- Remove the secret. -/
  | delete
  deriving Repr, DecidableEq

namespace Action

/-- Every action. -/
def all : List Action := [read, write, rotate, delete]

/-- The word for an action in permissions and audit records. -/
def word : Action → String
  | read => "read"
  | write => "write"
  | rotate => "rotate"
  | delete => "delete"

/-- The word for an action in denial reasons and journals. -/
def label : Action → String
  | read => "Read"
  | write => "Write"
  | rotate => "Rotate"
  | delete => "Delete"

/-- The action that a text names, in any letter case. -/
def ofText? (s : String) : Option Action := all.find? (·.word = Text.lower s)

/-- The action that a value names; only a text does. -/
def ofValue? (v : Value) : Option Action := v.text?.bind ofText?

/-- The action that a value names by its exact word. -/
def ofWord (v : Value) : Except Fault Action :=
  match v.text?.bind fun s => all.find? (·.word = s) with
  | some action => .ok action
  | none => do throw (.unknownAction (← v.written))

end Action

/-!
## Scopes

A permission is a text of two or three segments, in any letter case:

* `secrets:*` is every action on every secret;
* `secrets:ACTION:*` is one action on every secret;
* `secrets:ACTION:VALUE` is one action on the category or the single secret `VALUE`;

where `ACTION` is the word of an action, or `*` for all of them. The scope of a permission is what
it grants. Anything else, in particular a text with an empty segment, has no scope and grants
nothing. Whether `VALUE` is called a category or a secret depends on the known categories; what the
scope covers does not (`Scope.covers`).
-/

/-- The kinds of scope, from the widest to the narrowest. -/
inductive ScopeKind
  /-- Every action on every secret. -/
  | everything
  /-- An action on every secret. -/
  | everySecret
  /-- An action on the secrets of a category. -/
  | category
  /-- An action on one secret. -/
  | oneSecret
  deriving Repr, DecidableEq

namespace ScopeKind

/-- Every kind of scope. -/
def all : List ScopeKind := [everything, everySecret, category, oneSecret]

/-- The word for a kind of scope. -/
def word : ScopeKind → String
  | everything => "global_admin"
  | everySecret => "action_wildcard"
  | category => "category"
  | oneSecret => "specific_secret"

/-- The kind of scope that a value names by its exact word. -/
def ofWord (v : Value) : Except Fault ScopeKind :=
  match v.text?.bind fun s => all.find? (·.word = s) with
  | some kind => .ok kind
  | none => do throw (.unknownScopeKind (← v.written))

end ScopeKind

/-- What a permission grants. -/
structure Scope where
  /-- How wide the scope is. -/
  kind : ScopeKind
  /-- The action that is granted; none stands for all actions. -/
  action : Option Action
  /-- The category or secret, in lower case; empty for the two widest kinds. -/
  value : String
  deriving Repr, DecidableEq

namespace Scope

/-! ### Vocabulary -/

/-- The first segment of every permission. -/
def lead : String := "secrets"

/-- The segment that stands for everything. -/
def wildcard : String := "*"

/-- The categories that exist whatever the allow-list says. -/
def builtinCategories : List String := ["oauth", "betterauth", "infrastructure", "custom"]

/-! ### Scopes from outside -/

/-- The action that a field names by its exact word; none or null stands for all actions. -/
def actionOfField : Option Value → Except Fault (Option Action)
  | none => .ok none
  | some .null => .ok none
  | some v => do return some (← Action.ofWord v)

/-- The scope whose kind, action and value are fields of a value. Without a value it is empty. -/
def ofFields (v : Value) : Except Fault Scope := do
  let kind ← ScopeKind.ofWord (← v.field "kind")
  let action ← actionOfField (v.field? "action")
  return ⟨kind, action, ((v.field? "value").bind Value.text?).getD ""⟩

/-! ### Reading one permission -/

/-- What an action segment grants: all actions, one action, or nothing that is known. -/
def actionOf? (segment : String) : Option (Option Action) :=
  if segment = wildcard then some none else (Action.ofText? segment).map some

/-- The scope of an action on the category or secret that the last segment names. -/
def onSegment (known : List String) (action : Option Action) (segment : String) : Scope :=
  if segment = wildcard then ⟨.everySecret, action, ""⟩
  else if (known.map Text.lower).contains segment then ⟨.category, action, segment⟩
  else ⟨.oneSecret, action, segment⟩

/-- The scope that the segments of a permission have. -/
def ofSegments (known : List String) (segments : List String) : Option Scope :=
  if segments.head? ≠ some lead || segments.any (· = "") then none
  else match segments with
    | [_, only] => if only = wildcard then some ⟨.everything, none, ""⟩ else none
    | [_, action, last] => (actionOf? action).map (onSegment known · last)
    | _ => none

/-- The scope of a permission text, given the known categories in any letter case. -/
def ofText? (known : List String) (s : String) : Option Scope :=
  ofSegments known (Text.segments ':' (Text.lower s))

/-- The scope of a permission; only texts have one. -/
def ofValue? (known : List String) (v : Value) : Option Scope := v.text?.bind (ofText? known)

/-! ### Known categories from outside -/

/-- The categories that a value lists. -/
def categoriesOf (known : Value) : Except Fault (List String) := do
  (← known.elements).mapM ResourceName.lookupText

/-- The scope of a permission, given the known categories as a value. The value is not looked at
unless the last segment of the permission names a category or a secret. -/
def ofValueAmong? (known v : Value) : Except Fault (Option Scope) :=
  match ofValue? [] v with
  | some ⟨.oneSecret, _, _⟩ => do return ofValue? (← categoriesOf known) v
  | scope? => .ok scope?

/-! ### Reading all permissions of a caller -/

/-- The report of a permission without a scope. -/
def ignoredEntry (permission : Value) : Journal.Entry :=
  ⟨.debug, "policy", "permission_ignored", [("permission", permission)]⟩

/-- Read one more permission: what has been read and reported so far gains its scope, or the report
that it has none. -/
def readNext (lowered : List String) (sofar : List Scope × List Journal.Entry)
    (permission : Value) : List Scope × List Journal.Entry :=
  match ofValue? lowered permission with
  | none => (sofar.1, sofar.2 ++ [ignoredEntry permission])
  | some scope => (sofar.1 ++ [scope], sofar.2)

/-- The scopes of some permissions in their order, and a report of each permission that has none.
The known categories are brought to lower case once for all of them. -/
def ofValues (known : List String) (permissions : List Value) :
    List Scope × List Journal.Entry :=
  permissions.foldl (readNext (known.map Text.lower)) ([], [])

end Scope

/-!
## What a scope covers

A request asks for an action on a secret, or on a whole category. A scope covers it if its action is
the requested one or all of them, and its value is the category of the request or the exact name of
the secret; the two widest kinds leave out one or both of these conditions. Letter case plays no
part. Access is denied unless some scope covers the request.
-/

/-- What is asked for: an action on one secret of a category, or on all of them. -/
structure Request where
  /-- The action asked for. -/
  action : Action
  /-- The category asked for, or that of the secret. -/
  category : String
  /-- The secret asked for; none if all of the category is. -/
  name : Option String
  deriving Repr, DecidableEq

namespace Scope

/-- Whether a scope grants an action on what it covers. -/
def allows (scope : Scope) (action : Action) : Bool :=
  scope.action = none || scope.action = some action

/-- Whether a value, in lower case, names the category or the secret of a request. -/
def names (value : String) (request : Request) : Bool :=
  value = Text.lower request.category || some value = request.name.map Text.lower

/-- Whether a scope covers a request. -/
def covers (scope : Scope) (request : Request) : Bool :=
  match scope.kind with
  | .everything => true
  | .everySecret => scope.allows request.action
  | .category | .oneSecret => scope.allows request.action && names scope.value request

/-- The first of some scopes that covers a request. -/
def firstCovering (scopes : List Scope) (request : Request) : Option Scope :=
  scopes.find? (·.covers request)

end Scope

end SecretAccess
