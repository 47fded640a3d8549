import SecretAccess.Value

/-!
# Journal entries

What the engine reports about its work: an event at a level, from a named part of the engine, with
named values. Operations return their entries in the order in which they arise; writing them to a
stream is left to the caller.
-/

namespace SecretAccess.Journal

/-- How grave an event is. -/
inductive Level
  /-- Of interest while looking for a defect. -/
  | debug
  /-- The ordinary course of things. -/
  | info
  /-- A denial, or a use of emergency access. -/
  | warning
  /-- A failure of the nonce store. -/
  | error
  /-- A failure of the whole process. -/
  | critical
  deriving Repr, DecidableEq

/-- The word for a level. -/
def Level.word : Level → String
  | debug => "debug"
  | info => "info"
  | warning => "warning"
  | error => "error"
  | critical => "critical"

/-- The level that a word asks for; one level has a second word. -/
def Level.ofWord? (s : String) : Option Level :=
  match s with
  | "debug" => some debug
  | "info" => some info
  | "warning" | "warn" => some warning
  | "error" => some error
  | "critical" => some critical
  | _ => none

/-- The number of a level; graver levels have larger ones. -/
def Level.number : Level → Nat
  | debug => 10
  | info => 20
  | warning => 30
  | error => 40
  | critical => 50

/-- The source of entries that no named part reports. -/
def defaultSource : String := "secrets_authz"

/-- The source that an optional name stands for. -/
def sourceOf (name : Option String) : String := (name.filter (· ≠ "")).getD defaultSource

/-- One reported event. -/
structure Entry where
  /-- How grave the event is. -/
  level : Level
  /-- The part of the engine that reports it. -/
  source : String
  /-- The name of the event. -/
  event : String
  /-- Named values, in the order of the report. -/
  fields : List (String × Value)
  deriving Repr

/-- What a journal writes: an entry of the engine, or a report of a caller, which may lack an event
or have one that is no text. -/
structure Notice where
  /-- How grave the event is. -/
  level : Level
  /-- The part of the engine that reports it. -/
  source : String
  /-- The event, null if there is none. -/
  event : Value
  /-- Named values, in the order of the report. -/
  fields : List (String × Value)
  deriving Repr

/-- An entry as it is written. -/
def Entry.notice (entry : Entry) : Notice :=
  ⟨entry.level, entry.source, .text entry.event, entry.fields⟩

end SecretAccess.Journal
