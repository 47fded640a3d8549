import SecretAccess.Value

/-!
# Decisions

The answer to a request: access is granted, or it is denied with a code and a reason. A denial is
data, never a fault. The decision also says whom it is about and whether emergency access was used,
so that it can be audited by itself.
-/

namespace SecretAccess

/-! ## Denials -/

/-- Why access is denied. -/
inductive DenialCode
  /-- The caller is not authenticated. -/
  | notAuthenticated
  /-- The name of the secret or category is refused. -/
  | invalidResourceName
  /-- No permission of the caller covers the request. -/
  | noMatchingPermission
  /-- The emergency grant has no expiration. -/
  | emergencyMissingExpiration
  /-- The emergency grant has expired, or its expiration is no point in time. -/
  | emergencyExpired
  /-- The emergency grant would stay valid for too long. -/
  | emergencyExceedsMaximum
  /-- The emergency grant has no nonce. -/
  | emergencyMissingNonce
  /-- The nonce of the emergency grant was used before. -/
  | emergencyReplayed
  /-- Whether the nonce of the emergency grant was used before cannot be told. -/
  | emergencyUnverifiable
  deriving Repr, DecidableEq

namespace DenialCode

/-- Every denial code. -/
def all : List DenialCode :=
  [notAuthenticated, invalidResourceName, noMatchingPermission, emergencyMissingExpiration,
   emergencyExpired, emergencyExceedsMaximum, emergencyMissingNonce, emergencyReplayed,
   emergencyUnverifiable]

/-- The word for a denial code. -/
def word : DenialCode → String
  | notAuthenticated => "not_authenticated"
  | invalidResourceName => "invalid_resource_name"
  | noMatchingPermission => "no_matching_permission"
  | emergencyMissingExpiration => "break_glass_missing_expiration"
  | emergencyExpired => "break_glass_expired"
  | emergencyExceedsMaximum => "break_glass_exceeds_maximum_ttl"
  | emergencyMissingNonce => "break_glass_missing_nonce"
  | emergencyReplayed => "break_glass_nonce_replayed"
  | emergencyUnverifiable => "break_glass_nonce_unverifiable"

/-- The denial code of a word. -/
def ofWord? (s : String) : Option DenialCode := all.find? (·.word = s)

/-- The denial code that a value names by its exact word. -/
def ofValue (v : Value) : Except Fault DenialCode :=
  match v.text?.bind ofWord? with
  | some code => .ok code
  | none => do throw (.unknownDenialCode (← v.written))

end DenialCode

/-! ## Decisions -/

/-- Who makes a request, as far as a decision shows it. -/
structure Caller where
  /-- The identity of the caller, if known. -/
  userId : Option String
  /-- What the caller is: a `user`, a `service` or something else. -/
  principalType : String
  deriving Repr, DecidableEq

namespace Caller

/-- The type of a caller that does not state one. -/
def defaultType : String := "user"

/-- The caller of whom nothing is known. -/
def unknown : Caller := ⟨none, defaultType⟩

/-- Whether the caller is a service account. -/
def isService (caller : Caller) : Bool := caller.principalType = "service"

end Caller

/-- The answer to one request. The fields are kept apart, so that a decision can be filled in from
outside; `Decision.granted` and `Decision.denied` are the two ways in which the engine fills it. -/
structure Decision where
  /-- Whether access is granted. -/
  isAuthorized : Bool
  /-- Whom the decision is about. -/
  caller : Caller
  /-- Whether an emergency grant gave access. -/
  isEmergency : Bool
  /-- The reason of a denial in words. -/
  reason? : Option String
  /-- The code of a denial. -/
  code? : Option DenialCode
  deriving Repr, DecidableEq

namespace Decision

/-- Access. -/
def granted (caller : Caller) (isEmergency : Bool) : Decision where
  isAuthorized := true
  caller := caller
  isEmergency := isEmergency
  reason? := none
  code? := none

/-- A denial, with its code and its reason in words. -/
def denied (code : DenialCode) (reason : String) (caller : Caller) (isEmergency : Bool) :
    Decision where
  isAuthorized := false
  caller := caller
  isEmergency := isEmergency
  reason? := some reason
  code? := some code

/-- Ordinary access. -/
def grant (caller : Caller) : Decision := granted caller false

/-- Emergency access. -/
def grantEmergency (caller : Caller) : Decision := granted caller true

/-- A denial, which is never for emergency access. -/
def deny (caller : Caller) (code : DenialCode) (reason : String) : Decision :=
  denied code reason caller false

/-- The status that the web layer answers with: 200 for access, 401 for a caller who is not
authenticated, 403 for every other denial. -/
def httpStatus (d : Decision) : Nat :=
  if d.isAuthorized then 200
  else if d.code? = some .notAuthenticated then 401
  else 403

end Decision

end SecretAccess
