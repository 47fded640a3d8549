import SecretAccess.Emergency.Grant
import SecretAccess.Journal.Entry
import SecretAccess.Value

/-!
# Where used nonces are recorded

The store that several processes share, and the trackers in memory and on that store.
-/

namespace SecretAccess

/-!
## The shared nonce store

Several processes can share one store of keys that expire. A key is claimed in one step that checks
and records: the claim is refused while the key is **live, its expiry being later than the clock**,
and otherwise recorded with a new expiry. A store may also answer out of turn or fail, as arranged
by a script of replies; it then records nothing.
-/

/-- One claim as the store receives it. -/
structure Claim where
  /-- The key to claim. -/
  key : String
  /-- The value to record under the key. -/
  mark : String
  /-- Whether the claim is refused if the key is live. -/
  onlyIfAbsent : Bool
  /-- For how long the key stays live, in seconds. -/
  lifetime : Number
  deriving Repr, DecidableEq

/-- An answer that the store gives out of turn. -/
inductive Reply
  /-- The given value. -/
  | answer (v : Value)
  /-- The store reports that it is unavailable. -/
  | unavailable (reason : String)
  /-- The connection breaks down. -/
  | broken (reason : String)
  deriving Repr

/-- A store of keys that expire. -/
structure Store where
  /-- All claims so far. -/
  claims : List Claim
  /-- The expiry of each recorded key; the first entry of a key counts. -/
  expiries : List (String × Number)
  /-- Answers to give before any other, in order. -/
  script : List Reply
  deriving Repr

namespace Store

/-- The store without keys. -/
def empty : Store := ⟨[], [], []⟩

/-- Arrange a further answer. -/
def arrange (store : Store) (reply : Reply) : Store :=
  { store with script := store.script ++ [reply] }

/-- Whether a key is live. -/
def isLive (store : Store) (clock : Number) (key : String) : Bool :=
  match store.expiries.lookup key with
  | some expiry => clock.lt expiry
  | none => false

/-- Claim a key by the rule of the store: whether the claim is accepted, and the store after it. A
claim that is not refused for a live key overwrites the expiry of the key. -/
def claimByRule (store : Store) (clock : Number) (claim : Claim) : Except Fault Bool × Store :=
  if claim.onlyIfAbsent && store.isLive clock claim.key then (.ok false, store)
  else match clock.add claim.lifetime with
    | .ok expiry => (.ok true, { store with expiries := (claim.key, expiry) :: store.expiries })
    | .error fault => (.error fault, store)

/-- Hand a claim to the store: whether it is accepted, and the store after it. -/
def claim (store : Store) (clock : Number) (claim : Claim) : Except Fault Bool × Store :=
  let recorded := { store with claims := store.claims ++ [claim] }
  match store.script with
  | [] => recorded.claimByRule clock claim
  | reply :: rest =>
    let answered := { recorded with script := rest }
    match reply with
    | .answer v => (.ok v.isPresent, answered)
    | .unavailable reason => (.error (.storeUnavailable reason), answered)
    | .broken reason => (.error (.transport reason), answered)

end Store

/-!
## Nonce trackers

A tracker accepts each nonce once. It keeps fingerprints, in the memory of the process or in a
shared store. In memory a fingerprint stays recorded for good; in a store it stays **at least as
long as the grant is valid**, and never shorter than the retention.

Operations that may touch a tracker are steps: they give a result or a fault, the tracker
afterwards, and the entries for the journal. A fault takes back neither tracker nor entries.
-/

/-! ### Trackers -/

/-- How a shared store is reached. -/
structure Connection where
  /-- The address of the store. -/
  url : String
  /-- How long a call may take, in seconds. -/
  timeout : Number
  deriving Repr, DecidableEq

/-- How a tracker uses a shared store. -/
structure StoreUse where
  /-- What the key of every nonce begins with. -/
  keyStem : String
  /-- The least number of seconds that a nonce stays recorded. -/
  retention : Number
  /-- The connection, if the tracker opened it itself. -/
  connection : Option Connection
  deriving Repr, DecidableEq

/-- Where used nonces are recorded. -/
inductive Tracker
  /-- In the memory of the process: fingerprints in the order of their use. -/
  | memory (used : List String)
  /-- In a store that other processes share. -/
  | shared (use : StoreUse) (store : Store)
  deriving Repr

/-! ### Steps -/

/-- What an operation on a tracker comes to. -/
structure Step (α : Type) where
  /-- The answer, or the fault that kept it away. -/
  result : Except Fault α
  /-- The tracker after the operation. -/
  tracker : Tracker
  /-- What is reported, in order. -/
  journal : List Journal.Entry

namespace Tracker

/-- The tracker in memory without nonces. -/
def empty : Tracker := .memory []

/-- The beginning of keys unless another is set. -/
def defaultKeyStem : String := "secrets:breakglass:nonce:"

/-- The retention unless another is set. -/
def defaultRetention : Number := .int 3900

/-- The tracker on an empty shared store. -/
def onStore (use : StoreUse) : Tracker := .shared use Store.empty

/-- Arrange an answer of the shared store, if there is one. -/
def arrange (reply : Reply) : Tracker → Tracker
  | .memory used => .memory used
  | .shared use store => .shared use (store.arrange reply)

/-- For how long a nonce is recorded in a store, given how long its grant is still valid: the next
whole second after that, or the retention if that is longer. -/
def recordingTime (retention : Number) : Option Number → Except Fault Number
  | none => .ok retention
  | some remaining => do
    let covering := Number.int ((← remaining.trunc) + 1)
    return if covering.lt retention then retention else covering

/-- The report of a store that does not answer. -/
def unavailableEntry (fingerprint reason : String) : Journal.Entry :=
  ⟨.error, "nonces", "nonce_store_unavailable",
   [("nonce_fingerprint", .text fingerprint), ("error", .text reason)]⟩

/-- The claim of a nonce in a store. -/
def claimOf (use : StoreUse) (fingerprint : String) (lifetime : Number) : Claim :=
  ⟨use.keyStem ++ fingerprint, "1", true, lifetime⟩

/-- Record the text of a nonce whose grant is valid for the given remaining time. The result says
whether this is its first use. -/
def consume (tracker : Tracker) (clock : Number) (nonce : String) (remaining : Option Number) :
    Step Bool :=
  let fingerprint := Nonce.fingerprintOf nonce
  match tracker with
  | .memory used =>
    if used.contains fingerprint then ⟨.ok false, .memory used, []⟩
    else ⟨.ok true, .memory (used ++ [fingerprint]), []⟩
  | .shared use store =>
    match recordingTime use.retention remaining with
    | .error fault => ⟨.error fault, .shared use store, []⟩
    | .ok lifetime =>
      match store.claim clock (claimOf use fingerprint lifetime) with
      | (.error (.storeUnavailable reason), after) =>
        ⟨.error (.storeUnavailable reason), .shared use after,
         [unavailableEntry fingerprint reason]⟩
      | (result, after) => ⟨result, .shared use after, []⟩

end Tracker

end SecretAccess
