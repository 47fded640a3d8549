import SecretAccess.Decision
import SecretAccess.Emergency.Grant
import SecretAccess.Emergency.Tracker
import SecretAccess.Numeric.Numeral

/-!
# Judging emergency grants

A grant is judged in two parts. `vet` looks at the grant alone, at the clock and at the longest
lifetime allowed, and reports **the first rule that the grant breaks**: there is an expiration, it
is a whole number later than the clock, it is not too far off, and there is a nonce. Only a grant
that passes reaches the tracker, so only such a grant can use up a nonce; and every grant that the
tracker accepts gives access.
-/

namespace SecretAccess.Emergency

/-! ## Rejections -/

/-- Why a grant gives no access. -/
inductive Rejection
  /-- There is no expiration. -/
  | missingExpiration
  /-- The expiration is no whole number. -/
  | malformedExpiration
  /-- The expiration is not later than the clock. -/
  | expired (expiration : Int)
  /-- The expiration is further off than the longest lifetime allowed, which is so many minutes as
  is written. -/
  | tooLong (expiration : Int) (longest : Number) (minutes : String)
  /-- There is no nonce. -/
  | missingNonce
  /-- The nonce was used before. -/
  | replayed (fingerprint : String)
  /-- The tracker cannot tell whether the nonce was used before. -/
  | unverifiable (fingerprint : String)
  deriving Repr, DecidableEq

namespace Rejection

/-- The denial code of a rejection. -/
def code : Rejection → DenialCode
  | missingExpiration => .emergencyMissingExpiration
  | malformedExpiration => .emergencyExpired
  | expired _ => .emergencyExpired
  | tooLong .. => .emergencyExceedsMaximum
  | missingNonce => .emergencyMissingNonce
  | replayed _ => .emergencyReplayed
  | unverifiable _ => .emergencyUnverifiable

/-- The reason of a rejection in words. -/
def reason : Rejection → String
  | missingExpiration => "Break-glass token must include an expiration (break_glass_exp)."
  | malformedExpiration =>
    "Break-glass token expiration (break_glass_exp) is not a valid " ++
    "Unix timestamp and is treated as expired."
  | expired _ => "Break-glass token has expired."
  | tooLong _ _ minutes => "Break-glass token TTL exceeds maximum of " ++ minutes ++ " minutes."
  | missingNonce => "Break-glass token must include a single-use nonce (break_glass_nonce)."
  | replayed _ => "Break-glass token nonce has already been used."
  | unverifiable _ => "Break-glass token nonce could not be verified."

/-- What the journal shows of a rejection beside its code. -/
def fields : Rejection → List (String × Value)
  | missingExpiration => []
  | malformedExpiration => []
  | expired expiration => [("expires_at", .ofInt expiration)]
  | tooLong expiration longest _ =>
    [("expires_at", .ofInt expiration), ("max_ttl_seconds", .ofNumber longest)]
  | missingNonce => []
  | replayed fingerprint => [("nonce_fingerprint", .text fingerprint)]
  | unverifiable fingerprint => [("nonce_fingerprint", .text fingerprint)]

end Rejection

/-! ## The grant alone -/

/-- What a grant is worth once all but its nonce is judged. -/
structure Vetted where
  /-- When the grant expires. -/
  expiration : Int
  /-- For how long it is still valid. -/
  remaining : Number
  /-- The text of its nonce without outer blanks, which is not empty. -/
  nonce : String
  deriving Repr, DecidableEq

/-- The text of an expiration without outer blanks, if there is any. -/
def expirationText? : Value → Except Fault (Option String)
  | .null => .ok none
  | v => do return some (Text.strip (← v.display)) |>.filter (· ≠ "")

/-- The nonce of a grant without outer blanks, if there is any. -/
def bareNonce? (nonce : Option Nonce) : Option Nonce := (nonce.map Nonce.strip).filter (!·.isEmpty)

/-- Judge a grant by itself: the first rule that it breaks, or what it is worth. A fault arises
where something has no text or no value on the way: the expiration as it came in, the remaining time
as a number, the longest lifetime in whole minutes, or the nonce as text of characters. -/
def vet (longest clock : Number) (grant : Grant) : Except Fault (Except Rejection Vetted) := do
  match ← expirationText? grant.expiresAt with
  | none => return .error .missingExpiration
  | some written =>
    match Numeral.int? written with
    | none => return .error .malformedExpiration
    | some expiration =>
      if (Number.int expiration).le clock then return .error (.expired expiration)
      else
        let remaining ← (Number.int expiration).sub clock
        if longest.lt remaining then
          return .error (.tooLong expiration longest (← (longest.floorDiv 60).text))
        else match bareNonce? grant.nonce with
          | none => return .error .missingNonce
          | some nonce => return .ok ⟨expiration, remaining, ← nonce.text⟩

/-! ## The journal -/

/-- The part of the engine that reports emergency decisions. -/
def source : String := "breakglass"

/-- The report of a rejected grant. -/
def deniedEntry (resource : Value) (caller : Caller) (rejection : Rejection) : Journal.Entry :=
  ⟨.warning, source, "break_glass_denied",
   [("resource", resource), ("user_id", .ofText? caller.userId),
    ("denial_code", .text rejection.code.word)] ++ rejection.fields⟩

/-- The report of emergency access. -/
def grantedEntry (resource : Value) (caller : Caller) (grant : Grant) (vetted : Vetted) :
    Journal.Entry :=
  ⟨.warning, source, "break_glass_granted",
   [("resource", resource), ("user_id", .ofText? caller.userId),
    ("reason", .text ((grant.reason.filter (· ≠ "")).getD "No reason provided")),
    ("nonce_fingerprint", .text (Nonce.fingerprintOf vetted.nonce)),
    ("expires_at", .ofInt vetted.expiration)]⟩

/-! ## Decisions -/

/-- The denial that a rejection comes to. -/
def denial (caller : Caller) (rejection : Rejection) : Decision :=
  .deny caller rejection.code rejection.reason

/-- Judge the nonce of a vetted grant, which uses it up. -/
def redeem (clock : Number) (tracker : Tracker) (grant : Grant) (vetted : Vetted)
    (resource : Value) (caller : Caller) : Step Decision :=
  let fingerprint := Nonce.fingerprintOf vetted.nonce
  let use := tracker.consume clock vetted.nonce (some vetted.remaining)
  let reject (rejection : Rejection) : Step Decision :=
    ⟨.ok (denial caller rejection), use.tracker,
     use.journal ++ [deniedEntry resource caller rejection]⟩
  match use.result with
  | .ok true =>
    ⟨.ok (.grantEmergency caller), use.tracker,
     use.journal ++ [grantedEntry resource caller grant vetted]⟩
  | .ok false => reject (.replayed fingerprint)
  | .error (.storeUnavailable _) => reject (.unverifiable fingerprint)
  | .error fault => ⟨.error fault, use.tracker, use.journal⟩

/-- Decide a request by an emergency grant. -/
def judge (longest clock : Number) (tracker : Tracker) (grant : Grant) (resource : Value)
    (caller : Caller) : Step Decision :=
  match vet longest clock grant with
  | .error fault => ⟨.error fault, tracker, []⟩
  | .ok (.error rejection) =>
    ⟨.ok (denial caller rejection), tracker, [deniedEntry resource caller rejection]⟩
  | .ok (.ok vetted) => redeem clock tracker grant vetted resource caller

/-- Decide a request by an emergency grant if one is presented; otherwise nothing is decided. -/
def judge? (longest clock : Number) (tracker : Tracker) (grant : Option Grant) (resource : Value)
    (caller : Caller) : Step (Option Decision) :=
  match grant with
  | none => ⟨.ok none, tracker, []⟩
  | some grant =>
    let step := judge longest clock tracker grant resource caller
    ⟨step.result.map some, step.tracker, step.journal⟩

end SecretAccess.Emergency
