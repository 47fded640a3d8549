import SecretAccess.Emergency.Tracker
import SecretAccess.Journal.Line
import SecretAccess.Numeric.Numeral
import SecretAccess.Text.Characters
import SecretAccess.Text.LetterCase

/-!
# Settings and where they come from

The tunables of the engine, and the variables of a process that set them.
-/

namespace SecretAccess

/-!
## Settings

The tunables of the engine. A draft holds what was asked for; `Draft.check` gives the settings, or
the first rule that the draft breaks: three values are numbers that are not zero or less, in the
order in which they are written here, and the journal format is a known one. A number of the binary
format that stands for no number passes, since it is not zero or less.
-/

/-- The tunables as they were asked for. -/
structure Draft where
  /-- The longest remaining lifetime of an emergency grant, in seconds. -/
  longestGrant : Value
  /-- The least time that a nonce stays recorded in a shared store, in seconds. -/
  nonceRetention : Value
  /-- The address of the shared store; none keeps nonces in the memory of the process. -/
  storeUrl : Option String
  /-- How long a call to the store may take, in seconds. -/
  storeTimeout : Value
  /-- What the keys of nonces begin with. -/
  keyStem : String
  /-- The name of the journal's threshold. -/
  journalLevel : String
  /-- The format of the journal, whatever was given. -/
  journalFormat : Value
  deriving Repr

/-- The tunables of a running engine. -/
structure Settings where
  /-- The longest remaining lifetime of an emergency grant, in seconds. -/
  longestGrant : Number
  /-- The least time that a nonce stays recorded in a shared store, in seconds. -/
  nonceRetention : Number
  /-- The address of the shared store; none keeps nonces in the memory of the process. -/
  storeUrl : Option String
  /-- How long a call to the store may take, in seconds. -/
  storeTimeout : Number
  /-- What the keys of nonces begin with. -/
  keyStem : String
  /-- The name of the journal's threshold. -/
  journalLevel : String
  /-- The format of the journal. -/
  journalFormat : Journal.Format
  deriving Repr, DecidableEq

namespace Draft

/-- The longest remaining lifetime unless another is set: an hour. -/
def defaultLongestGrant : Number := .int 3600

/-- How long a call to the store may take unless it is set: half a second. -/
def defaultTimeout : Number := .real (.finite false (Binary64.unitsPerOne / 2))

/-- What is used where nothing else is asked for. -/
def default : Draft where
  longestGrant := .ofNumber defaultLongestGrant
  nonceRetention := .ofNumber Tracker.defaultRetention
  storeUrl := none
  storeTimeout := .ofNumber defaultTimeout
  keyStem := Tracker.defaultKeyStem
  journalLevel := "INFO"
  journalFormat := .text "json"

/-- The names of the settings. -/
def names : List String :=
  ["break_glass_max_ttl_seconds", "nonce_retention_seconds", "nonce_store_url",
   "nonce_store_timeout_seconds", "nonce_key_prefix", "log_level", "log_format"]

/-- Refuse the first name that is none of a setting. -/
def requireNames (given : List String) : Except Fault Unit :=
  match given.find? fun name => !names.contains name with
  | some name => .error (.unknownSetting name)
  | none => .ok ()

/-- The number that a value is, which must not be zero or less. -/
def positiveOf (setting : String) (v : Value) : Except Fault Number :=
  match v.number? with
  | some n => if n.le (.int 0) then .error (.config (.notPositive setting)) else .ok n
  | none => .error (.notComparable v.kind)

/-- The format that a value asks for; only the exact words will do. -/
def formatOf (v : Value) : Except Fault Journal.Format :=
  match v.text?.bind Journal.Format.ofWord? with
  | some format => .ok format
  | none => do throw (.config (.journalFormat (← v.display)))

/-- The settings of a draft, or the first rule that it breaks. -/
def check (draft : Draft) : Except Fault Settings := do
  let longestGrant ← positiveOf "break_glass_max_ttl_seconds" draft.longestGrant
  let nonceRetention ← positiveOf "nonce_retention_seconds" draft.nonceRetention
  let storeTimeout ← positiveOf "nonce_store_timeout_seconds" draft.storeTimeout
  let journalFormat ← formatOf draft.journalFormat
  return {
    longestGrant
    nonceRetention
    storeUrl := draft.storeUrl
    storeTimeout
    keyStem := draft.keyStem
    journalLevel := draft.journalLevel
    journalFormat }

end Draft

namespace Settings

/-- The tracker that settings ask for: one on a shared store if an address is set, otherwise one in
memory, which is reported. -/
def tracker (settings : Settings) : Tracker × List Journal.Entry :=
  match settings.storeUrl.filter (· ≠ "") with
  | some url =>
    (.onStore ⟨settings.keyStem, settings.nonceRetention, some ⟨url, settings.storeTimeout⟩⟩, [])
  | none => (.empty, [⟨.info, "nonces", "nonce_tracker_in_memory", []⟩])

end Settings

/-!
## Settings from the environment

Every setting has a variable of its own. Blanks around a value are dropped, and a variable that is
unset or blank leaves the setting at its default. The draft that results is checked like any other.
-/

/-- The variables of a process with their values. -/
abbrev Environment := List (String × String)

namespace Environment

/-- What the names of all variables begin with. -/
def lead : String := "SECRETS_AUTHZ_"

/-- The value of a variable without outer blanks, if there is any. -/
def value? (env : Environment) (name : String) : Option String :=
  ((env.lookup (lead ++ name)).map Text.strip).filter (· ≠ "")

/-- The whole number that a variable holds. -/
def int (env : Environment) (name : String) (default : Value) : Except Fault Value :=
  match env.value? name with
  | none => .ok default
  | some written =>
    match Numeral.int? written with
    | some i => .ok (.ofInt i)
    | none => .error (.config (.notInteger (lead ++ name) written))

/-- The number of the binary format that a variable holds. -/
def real (env : Environment) (name : String) (default : Value) : Except Fault Value :=
  match env.value? name with
  | none => .ok default
  | some written =>
    match Numeral.real? written with
    | some x => .ok (.ofNumber (.real x))
    | none => .error (.config (.notNumber (lead ++ name) written))

/-- What an environment asks for. -/
def draft (env : Environment) : Except Fault Draft := do
  let unset := Draft.default
  let longestGrant ← env.int "BREAK_GLASS_MAX_TTL_SECONDS" unset.longestGrant
  let nonceRetention ← env.int "NONCE_RETENTION_SECONDS" unset.nonceRetention
  let storeTimeout ← env.real "NONCE_STORE_TIMEOUT_SECONDS" unset.storeTimeout
  return {
    longestGrant
    nonceRetention
    storeUrl := env.value? "NONCE_STORE_URL"
    storeTimeout
    keyStem := (env.value? "NONCE_KEY_PREFIX").getD unset.keyStem
    journalLevel := Text.upper ((env.value? "LOG_LEVEL").getD unset.journalLevel)
    journalFormat :=
      match env.value? "LOG_FORMAT" with
      | some written => .text (Text.lower written)
      | none => unset.journalFormat }

/-- The settings of an environment. -/
def settings (env : Environment) : Except Fault Settings := do (← env.draft).check

end Environment

end SecretAccess
