import SecretAccess.Emergency.Judgement
import SecretAccess.Identity.Principal
import SecretAccess.Journal.Line
import SecretAccess.Permission.Scope
import SecretAccess.Resource.AllowList
import SecretAccess.Resource.Name
import SecretAccess.Settings.Environment

/-!
# The service

Decides whether a principal may act on a secret or on a category. A request passes three gates in
this order, and the first that answers decides:

1. *admission*: the caller is authenticated and the resource is named properly;
2. *emergency*: a principal with a grant is judged by the grant **alone**;
3. *permissions*: access is granted if and only if the scope of some permission covers the request.

Only the second gate touches the nonce tracker, so ordinary decisions are plain functions, and
requests are steps on the tracker. One request may be for several secrets at once, and `bootstrap`
sets a service up from the environment of a process.
-/

namespace SecretAccess

/-- What a service decides by. -/
structure Service where
  /-- The dispensable secrets, by which a secret gets its category. -/
  allowed : AllowList
  /-- The longest remaining lifetime of an emergency grant, in seconds. -/
  longestGrant : Number
  deriving Repr

namespace Service

/-- The categories that the service knows. -/
def knownCategories (service : Service) : List String :=
  service.allowed.categoryNames ++ Scope.builtinCategories

/-- The category of a secret. -/
def categoryOf (service : Service) (name : String) : String :=
  Category.resolve service.allowed name

/-! ## Admission -/

/-- The denial of a caller who is not authenticated. -/
def unauthenticated : Decision :=
  .deny Caller.unknown .notAuthenticated "User is not authenticated"

/-- The name of a secret that an admitted request is about, or the denial. -/
def admission (principal : Principal) (name : Value) : Except Decision String :=
  if principal.authenticated then
    match ResourceName.check name with
    | .ok s => .ok s
    | .error fault => .error (.deny principal.caller .invalidResourceName fault.message)
  else .error unauthenticated

/-- The category that an admitted request is about, or the denial. A known category needs no further
check of its name. -/
def categoryAdmission (service : Service) (principal : Principal) (name : Value) :
    Except Decision String :=
  match name.text?.filter fun s => service.knownCategories.contains (Text.lower s) with
  | some known => if principal.authenticated then .ok known else .error unauthenticated
  | none => admission principal name

/-! ## Permissions -/

/-- The part of the engine that reports decisions by permission. -/
def source : String := "authorization"

/-- The report of access to a secret. -/
def grantedEntry (caller : Caller) (action : Action) (name : String) (scope : Scope) :
    Journal.Entry :=
  ⟨.debug, source, "access_granted",
   [("action", .text action.label), ("secret_name", .text name),
    ("user_id", .ofText? caller.userId), ("scope_kind", .text scope.kind.word)]⟩

/-- The report of access denied to a secret. -/
def deniedEntry (caller : Caller) (action : Action) (name category : String) : Journal.Entry :=
  ⟨.warning, source, "access_denied",
   [("action", .text action.label), ("secret_name", .text name), ("category", .text category),
    ("user_id", .ofText? caller.userId)]⟩

/-- The report of access denied to a category. -/
def categoryDeniedEntry (caller : Caller) (action : Action) (category : String) : Journal.Entry :=
  ⟨.warning, source, "category_access_denied",
   [("action", .text action.label), ("category", .text category),
    ("user_id", .ofText? caller.userId)]⟩

/-- The denial for lack of a permission. -/
def missingPermission (caller : Caller) (action : Action) (resource : String) : Decision :=
  .deny caller .noMatchingPermission
    ("Missing permission for " ++ action.label ++ " on " ++ resource)

/-- Decide about a secret by the permissions of a principal. -/
def permit (service : Service) (principal : Principal) (action : Action) (name : String) :
    Decision × List Journal.Entry :=
  let category := service.categoryOf name
  let (scopes, ignored) := Scope.ofValues service.knownCategories principal.permissions
  match Scope.firstCovering scopes ⟨action, category, some name⟩ with
  | some scope =>
    (.grant principal.caller, ignored ++ [grantedEntry principal.caller action name scope])
  | none =>
    (missingPermission principal.caller action ("secret '" ++ name ++ "'"),
     ignored ++ [deniedEntry principal.caller action name category])

/-- Decide about a category by the permissions of a principal. -/
def permitCategory (service : Service) (principal : Principal) (action : Action)
    (category : String) : Decision × List Journal.Entry :=
  let (scopes, ignored) := Scope.ofValues service.knownCategories principal.permissions
  match Scope.firstCovering scopes ⟨action, category, none⟩ with
  | some _ => (.grant principal.caller, ignored)
  | none =>
    (missingPermission principal.caller action ("category '" ++ category ++ "'"),
     ignored ++ [categoryDeniedEntry principal.caller action category])

/-! ## Requests -/

/-- A decision that leaves the tracker alone. -/
def untouched {α : Type} (tracker : Tracker) (decided : α × List Journal.Entry) : Step α :=
  ⟨.ok decided.1, tracker, decided.2⟩

/-- Decide whether a principal may act on a secret. -/
def authorize (service : Service) (clock : Number) (tracker : Tracker) (principal : Principal)
    (name : Value) (action : Action) : Step Decision :=
  match admission principal name with
  | .error denial => untouched tracker (denial, [])
  | .ok secret =>
    match principal.grant with
    | some grant =>
      Emergency.judge service.longestGrant clock tracker grant (.text secret) principal.caller
    | none => untouched tracker (service.permit principal action secret)

/-- Decide whether a principal may act on every secret of a category. -/
def authorizeCategory (service : Service) (clock : Number) (tracker : Tracker)
    (principal : Principal) (name : Value) (action : Action) : Step Decision :=
  match service.categoryAdmission principal name with
  | .error denial => untouched tracker (denial, [])
  | .ok category =>
    match principal.grant with
    | some grant =>
      Emergency.judge service.longestGrant clock tracker grant
        (.text ("category:" ++ category)) principal.caller
    | none => untouched tracker (service.permitCategory principal action category)

end Service

/-!
## Requests for several secrets

One action on several secrets at once. Repeated names count once, where they first occur. A
principal with a grant is judged once for all admitted names, so **a batch spends one nonce**;
otherwise each name is decided as it would be alone. Refused names are denied first, then the
others, each group in the order of the request.
-/

/-- The answer to a request for several secrets. -/
structure BatchDecision where
  /-- The names to which access is granted, in the order of the request. -/
  granted : List String
  /-- The other names with their denials. -/
  denied : List (Value × Decision)
  /-- Whether an emergency grant gave access. -/
  isEmergency : Bool
  deriving Repr

namespace BatchDecision

/-- Whether something was asked for and all of it is granted. -/
def isFullyAuthorized (batch : BatchDecision) : Bool :=
  !batch.granted.isEmpty && batch.denied.isEmpty

end BatchDecision

namespace Service

/-- The distinct names that a value lists, or the fault of the first that cannot be told apart. -/
def namesOf (v : Value) : Except Fault (List Value) := do
  return Value.distinctKeys (← (← v.elements).mapM Value.asKey)

/-- The names that are admitted. -/
def admitted (principal : Principal) (names : List Value) : List String :=
  names.filterMap fun name => (admission principal name).toOption

/-- The names that are not admitted, with their denials. -/
def refused (principal : Principal) (names : List Value) : List (Value × Decision) :=
  names.filterMap fun name =>
    match admission principal name with
    | .ok _ => none
    | .error denial => some (name, denial)

/-- The report of a batch that was decided by permissions. -/
def batchEntry (caller : Caller) (action : Action) (requested : Nat) (batch : BatchDecision) :
    Journal.Entry :=
  ⟨.info, source, "batch_authorized",
   [("action", .text action.label), ("user_id", .ofText? caller.userId),
    ("requested", .ofInt requested), ("granted", .ofInt batch.granted.length),
    ("denied", .ofInt batch.denied.length)]⟩

/-- Decide about each name by the permissions of a principal. -/
def permitEach (service : Service) (principal : Principal) (action : Action)
    (names : List Value) : BatchDecision × List Journal.Entry :=
  let decided := (admitted principal names).map fun name =>
    (name, service.permit principal action name)
  let batch : BatchDecision :=
    { granted := (decided.filter (·.2.1.isAuthorized)).map (·.1)
      denied := refused principal names ++
        (decided.filter (!·.2.1.isAuthorized)).map fun (name, decision, _) => (.text name, decision)
      isEmergency := false }
  (batch, decided.flatMap (·.2.2) ++ [batchEntry principal.caller action names.length batch])

/-- What the judgement of a grant makes of a batch: all admitted names get it. -/
def batchOf (accepted : List String) (refusals : List (Value × Decision)) (decision : Decision) :
    BatchDecision :=
  if decision.isAuthorized then ⟨accepted, refusals, true⟩
  else ⟨[], refusals ++ accepted.map fun name => (.text name, decision), false⟩

/-- Decide about distinct names. -/
def authorizeNames (service : Service) (clock : Number) (tracker : Tracker)
    (principal : Principal) (names : List Value) (action : Action) : Step BatchDecision :=
  if names.isEmpty then untouched tracker (⟨[], [], false⟩, [])
  else
    let accepted := admitted principal names
    match principal.grant, accepted with
    | some grant, _ :: _ =>
      let step := Emergency.judge service.longestGrant clock tracker grant
        (.text ("batch:" ++ Text.join "," accepted)) principal.caller
      ⟨step.result.map (batchOf accepted (refused principal names)), step.tracker, step.journal⟩
    | _, _ => untouched tracker (service.permitEach principal action names)

/-- Decide whether a principal may act on each of several secrets. -/
def authorizeMany (service : Service) (clock : Number) (tracker : Tracker)
    (principal : Principal) (names : Value) (action : Action) : Step BatchDecision :=
  match namesOf names with
  | .error fault => ⟨.error fault, tracker, []⟩
  | .ok distinct => service.authorizeNames clock tracker principal distinct action

end Service

/-!
## Setting up a service

A service is put together from settings, an allow-list and a tracker, each with a default: the
environment, the shipped list, and the tracker that the settings ask for. `bootstrap` is the start
of a process: it also sets up the journal, before the service is built.
-/

/-- A service that is ready for requests. -/
structure Started where
  /-- What decides. -/
  service : Service
  /-- Where nonces are recorded. -/
  tracker : Tracker
  /-- What was reported on the way. -/
  journal : List Journal.Entry
  deriving Repr

namespace Service

/-- Put a service together from settings. -/
def start (settings : Settings) (allowed : AllowList) (tracker : Option Tracker) : Started :=
  let (tracker, journal) := match tracker with
    | some tracker => (tracker, [])
    | none => settings.tracker
  ⟨⟨allowed, settings.longestGrant⟩, tracker, journal⟩

/-- Put a service together; settings that are not given are read from the environment. -/
def create (env : Environment) (settings : Option Settings) (allowed : Option AllowList)
    (tracker : Option Tracker) : Except Fault Started := do
  let settings ← match settings with
    | some settings => pure settings
    | none => env.settings
  return start settings (allowed.getD .shipped) tracker

/-- Start a process: read the settings, set up the journal, and put the service together. -/
def bootstrap (env : Environment) (allowed : Option AllowList) :
    Except Fault (Started × Journal.Setup) := do
  let settings ← env.settings
  let journal ← Journal.Setup.ofNames settings.journalLevel settings.journalFormat.word
  return (start settings (allowed.getD .shipped) none, journal)

end Service

end SecretAccess
