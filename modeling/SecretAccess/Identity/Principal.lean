import SecretAccess.Decision
import SecretAccess.Emergency.Grant
import SecretAccess.Table
import SecretAccess.Text.LetterCase
import SecretAccess.Value

/-!
# Callers

What the authentication layer says of a caller, and what the engine makes of it.
-/

namespace SecretAccess.Claims

/-!
## Claims

The authentication layer hands over what it knows of a caller as a bag of claims: a map, or a
sequence of pairs of a name and a value in which names may repeat. Claims are gathered by name, in
lower case, **in the order of the bag**; a list counts as its items, and nulls are left out. All
values become texts, so a bag that holds a whole number beyond the digit limit cannot be gathered.
-/

/-! ### Texts -/

/-- The text of a claim: truth values are spelled as in claims, all else by its own text. -/
def textOf : Value → Except Fault String
  | .bool b => .ok (if b then "true" else "false")
  | value => value.display

/-- The texts that one claim contributes. -/
def textsOf : Value → Except Fault (List String)
  | .null => .ok []
  | .list items => (items.filter fun v => !(v matches .null)).mapM textOf
  | value => [value].mapM textOf

/-- The name under which a claim is gathered. -/
def nameOf (name : Value) : Except Fault String := name.display.map Text.lower

/-! ### Gathering -/

/-- What is gathered from a bag. -/
structure Gathered where
  /-- The texts of all claims by name. -/
  texts : List (String × List String)
  /-- The nonces among the claims, with those that are no texts. -/
  nonces : List Nonce
  deriving Repr

namespace Gathered

/-- Nothing. -/
def empty : Gathered := ⟨[], []⟩

/-- Gather the claim of a name. -/
def add (g : Gathered) (name value : Value) : Except Fault Gathered := do
  let name ← nameOf name
  let texts ← textsOf value
  return ⟨Table.extend name texts g.texts,
    g.nonces ++ if name = Grant.nonceClaim then texts.map Nonce.ofText else []⟩

/-- Gather one claim. -/
def addEntry (g : Gathered) : Entry → Except Fault Gathered
  | .named name value => g.add name value
  | .nonce nonce => .ok { g with nonces := g.nonces ++ [nonce] }

/-- Gather the claim that a value of two elements is. -/
def addPair (g : Gathered) (pair : Value) : Except Fault Gathered := do
  let (name, value) ← pair.pair
  g.add name value

/-- The texts gathered under a name. -/
def valuesOf (name : String) (g : Gathered) : List String := (Table.get? name g.texts).getD []

/-- The first text gathered under a name. -/
def first? (name : String) (g : Gathered) : Option String := (g.valuesOf name).head?

end Gathered

/-- What is gathered from claims. -/
def gather (entries : List Entry) : Except Fault Gathered :=
  entries.foldlM Gathered.addEntry .empty

/-- What is gathered from a bag. -/
def gatherBag : Value → Except Fault Gathered
  | .map entries => gather (entries.map fun (name, value) => .named name value)
  | bag => do (← bag.elements).foldlM Gathered.addPair .empty

end SecretAccess.Claims

namespace SecretAccess

/-!
## Principals

A principal is a caller with everything a decision needs: identity, permissions, and the emergency
grant if one is presented. It is built once, from the claims. A caller whom the authentication layer
rejected, or who has no identity, is anonymous and has nothing.
-/

open Claims (Gathered)

/-- Someone who makes requests. -/
structure Principal where
  /-- The identity and type of the caller. -/
  caller : Caller
  /-- The permissions as they came in. -/
  permissions : List Value
  /-- The emergency grant, if one is presented. -/
  grant : Option Grant
  /-- Whether the caller is authenticated. -/
  authenticated : Bool
  deriving Repr

namespace Principal

/-- The caller whom nothing is known of. -/
def anonymous : Principal := ⟨Caller.unknown, [], none, false⟩

/-! ### Names of claims -/

/-- The claim with the identity of the caller. -/
def subjectClaim : String := "sub"

/-- The claim with the type of the caller. -/
def typeClaim : String := "principal_type"

/-- The claim with the permissions of the caller. -/
def permissionClaim : String := "permission"

/-! ### From claims -/

/-- The grant that gathered claims present: there is one if the flag says `true`, in any letter
case. -/
def grantOf? (claims : Gathered) : Option Grant :=
  match claims.first? Grant.flagClaim with
  | none => none
  | some flag =>
    if Text.lower flag = "true" then
      some
        { reason := claims.first? Grant.reasonClaim
          expiresAt := Value.ofText? (claims.first? Grant.expirationClaim)
          nonce := claims.nonces.head? }
    else none

/-- The type that gathered claims state, in lower case. -/
def typeOf (claims : Gathered) : String :=
  Text.lower (((claims.first? typeClaim).filter (· ≠ "")).getD Caller.defaultType)

/-- The principal that gathered claims describe. -/
def ofGathered (claims : Gathered) : Principal :=
  match (claims.first? subjectClaim).filter (· ≠ "") with
  | none => anonymous
  | some userId =>
    { caller := ⟨some userId, typeOf claims⟩
      permissions := (claims.valuesOf permissionClaim).map .text
      grant := grantOf? claims
      authenticated := true }

/-- The principal that a bag of claims describes. An empty bag, and any bag that the authentication
layer did not accept, is not looked into. -/
def ofClaims (bag : Value) (accepted : Bool) : Except Fault Principal :=
  if !bag.isPresent || !accepted then .ok anonymous
  else do return ofGathered (← Claims.gatherBag bag)

/-- The principal that a map of claims describes, where nonces may hold surrogates. -/
def ofEntries (entries : List Claims.Entry) (accepted : Bool) : Except Fault Principal :=
  if entries.isEmpty || !accepted then .ok anonymous
  else do return ofGathered (← Claims.gather entries)

end Principal

end SecretAccess
