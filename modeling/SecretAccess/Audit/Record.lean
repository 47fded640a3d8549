import SecretAccess.Decision
import SecretAccess.Journal.Entry
import SecretAccess.Permission.Scope
import SecretAccess.Value

/-!
# Moments and audit records

When a decision was made, and what is kept of it.
-/

namespace SecretAccess

/-!
## Time stamps

A moment of the calendar, to the microsecond, with or without its distance from universal time. Its
text is the international form `YYYY-MM-DDTHH:MM:SS`, followed by the microseconds unless there are
none, and by the distance if it is known: `+HH:MM`, `+HH:MM:SS` if it has seconds, or
`+HH:MM:SS.ffffff` if it has microseconds.

A moment is asked for by its parts, which are values from outside. Three things can be wrong with
them, and `Moment.ofParts` looks for these in turn: the distance from universal time is no number or
a day or more, there are too many parts or a part is no whole number of the size of a machine word,
a part is not in the calendar.
-/

/-- A moment as clocks and calendars show it. -/
structure Moment where
  /-- The year, of at most four digits. -/
  year : Nat
  /-- The month, from one. -/
  month : Nat
  /-- The day of the month, from one. -/
  day : Nat
  /-- The hour. -/
  hour : Nat
  /-- The minute. -/
  minute : Nat
  /-- The second. -/
  second : Nat
  /-- The microsecond. -/
  microsecond : Nat
  /-- How many microseconds the clock is ahead of universal time, if that is known. -/
  offset : Option Int
  deriving Repr, DecidableEq

namespace Moment

/-! ### The calendar -/

/-- Whether a year has a leap day. -/
def isLeap (year : Nat) : Bool := year % 4 = 0 && (year % 100 ≠ 0 || year % 400 = 0)

/-- How many days a month has. -/
def daysIn (year month : Nat) : Nat :=
  if month = 2 then if isLeap year then 29 else 28
  else if [4, 6, 9, 11].contains month then 30 else 31

/-- A part of a moment that lies between two bounds. -/
def part (least most : Nat) (fault : MomentFault) (got : Int) : Except MomentFault Nat :=
  if least ≤ got ∧ got ≤ most then .ok got.toNat else .error fault

/-- The moment with these numbers, or the first of them that is not in the calendar. -/
def ofNumbers (year month day hour minute second microsecond : Int) (offset : Option Int) :
    Except MomentFault Moment := do
  let year ← part 1 9999 (.year year) year
  let month ← part 1 12 .month month
  let day ← part 1 (daysIn year month) .day day
  let hour ← part 0 23 .hour hour
  let minute ← part 0 59 .minute minute
  let second ← part 0 59 .second second
  let microsecond ← part 0 999999 .microsecond microsecond
  return ⟨year, month, day, hour, minute, second, microsecond, offset⟩

/-! ### Parts from outside -/

/-- Whether a number fits a signed word of so many bits. -/
def fitsWord (bits : Nat) (n : Int) : Bool :=
  let half : Int := Int.ofNat (Nat.pow 2 (bits - 1))
  0 ≤ n + half && n < half

/-- The microseconds of a number of seconds in the binary format. The whole seconds count exactly,
the microseconds of the fraction are rounded to the format, and the sum is rounded to a whole
number, a half to the even neighbour. -/
def microsecondsOf : Binary64 → Except Fault Int
  | .nan => .error .undefinedInteger
  | .infinite _ => .error .infiniteInteger
  | .finite negative units =>
    let one := Binary64.unitsPerOne
    match Binary64.ofRatio negative (units % one * 1000000) 1 with
    | .finite _ fraction =>
      .ok (Binary64.signedUnits negative
        (Binary64.nearestEven (units / one * 1000000 * one + fraction) one))
    | _ => .error .infiniteInteger

/-- The distance from universal time that a value stands for: a number of seconds, where truth
values count as zero and one, or null if the distance is not known. -/
def offsetOf : Value → Except Fault (Option Int)
  | .null => .ok none
  | .bool b => .ok (some (if b then 1000000 else 0))
  | .number (.int seconds) => .ok (some (seconds * 1000000))
  | .number (.real seconds) => do return some (← microsecondsOf seconds)
  | other => .error (.moment (.offsetKind other.kind))

/-- A distance from universal time of less than a day. A distance whose days are too many to be
counted is refused for that, and not for being a day or more. -/
def checkOffset : Option Int → Except MomentFault (Option Int)
  | none => .ok none
  | some got =>
    let days := got.fdiv MomentFault.dayLength
    if !fitsWord 32 days then .error .offsetBeyondWord
    else if MomentFault.mostDays < days.natAbs then .error (.offsetDays days)
    else if got.natAbs < MomentFault.dayLength then .ok (some got)
    else .error (.offset got)

/-- The number that a value is as a part of a moment: a whole number in a word of 32 bits, where
truth values count as zero and one. -/
def wholePart : Value → Except MomentFault Int
  | .bool b => .ok (if b then 1 else 0)
  | .number (.int n) =>
    if !fitsWord 64 n then .error .beyondLongWord
    else if fitsWord 32 n then .ok n
    else .error (if 0 < n then .aboveWord else .belowWord)
  | other => .error (.notWhole other.kind)

/-- The names of the parts that may not be left out. -/
def neededParts : List String := ["year", "month", "day"]

/-- The part at a place. The time of day may be left out from any part on, and is zero there. -/
def partAt (parts : List Value) (place : Nat) : Except MomentFault Int :=
  match parts[place]?, neededParts[place]? with
  | some given, _ => wholePart given
  | none, some name => .error (.missing name (place + 1))
  | none, none => .ok 0

/-- The elements of a value as the parts of a moment. -/
def partsOf (parts : Value) : Except MomentFault (List Value) :=
  match parts.elements with
  | .ok given => .ok given
  | .error _ => .error (.notParts parts.kind)

/-- How many parts a moment has; the place behind them is that of the distance from universal
time. -/
def mostParts : Nat := 7

/-- Refuse parts behind the place of the distance from universal time. -/
def checkCount (parts : List Value) : Except MomentFault Unit :=
  if mostParts + 1 < parts.length then .error (.surplus parts.length) else .ok ()

/-- Refuse a part in the place of the distance from universal time. -/
def checkLast (parts : List Value) : Except MomentFault Unit :=
  if mostParts < parts.length then .error .offsetTaken else .ok ()

/-- The moment with these parts, from the year to the microsecond, at a checked distance from
universal time. -/
def ofGiven (parts : Value) (offset : Option Int) : Except MomentFault Moment := do
  let parts ← partsOf parts
  checkCount parts
  let year ← partAt parts 0
  let month ← partAt parts 1
  let day ← partAt parts 2
  let hour ← partAt parts 3
  let minute ← partAt parts 4
  let second ← partAt parts 5
  let microsecond ← partAt parts 6
  checkLast parts
  ofNumbers year month day hour minute second microsecond offset

/-- The moment with these parts, or the first thing that is wrong: first with the distance from
universal time, then with the parts as numbers, last with a part in the calendar. -/
def ofParts (parts offset : Value) : Except Fault Moment := do
  let offset ← offsetOf offset
  ((checkOffset offset).bind (ofGiven parts)).mapError .moment

/-! ### Text -/

/-- A number with zeros in front of it up to a width. -/
def padded (width n : Nat) : String :=
  let digits := Nat.toDigits 10 n
  String.ofList (List.replicate (width - digits.length) '0' ++ digits)

/-- The text of a distance from universal time, in microseconds. -/
def offsetText (offset : Int) : String :=
  let seconds := offset.natAbs / 1000000
  let rest := offset.natAbs % 1000000
  (if offset < 0 then "-" else "+") ++ padded 2 (seconds / 3600) ++ ":" ++
    padded 2 (seconds / 60 % 60) ++
    (if seconds % 60 = 0 && rest = 0 then "" else ":" ++ padded 2 (seconds % 60)) ++
    (if rest = 0 then "" else "." ++ padded 6 rest)

/-- The text of a moment. -/
def text (m : Moment) : String :=
  padded 4 m.year ++ "-" ++ padded 2 m.month ++ "-" ++ padded 2 m.day ++ "T" ++
    padded 2 m.hour ++ ":" ++ padded 2 m.minute ++ ":" ++ padded 2 m.second ++
    (if m.microsecond = 0 then "" else "." ++ padded 6 m.microsecond) ++
    (match m.offset with
      | none => ""
      | some offset => offsetText offset)

end Moment

end SecretAccess

namespace SecretAccess.Audit

/-!
## Audit records

Every decision can be put on record with what it was about and when it was made. A record is written
as one line of fields with bars between them, and reported to the journal: denials and emergency
access as warnings, ordinary access as information.
-/

/-- What is kept of one decision. -/
structure Record where
  /-- When the decision was made. -/
  timestamp : String
  /-- Whom the decision is about. -/
  caller : Caller
  /-- What was asked for, as it came in: the name of a secret, or of a category. -/
  resource : Value
  /-- The action asked for. -/
  action : Action
  /-- Whether access was granted. -/
  granted : Bool
  /-- Whether an emergency grant gave access. -/
  isEmergency : Bool
  /-- Why access was denied. -/
  detail : Option String
  /-- The identity of the request among others, if it has one. -/
  correlationId : Option String
  deriving Repr

/-- The record of a decision. -/
def record (decision : Decision) (resource : Value) (action : Action)
    (correlationId : Option String) (now : Moment) : Record where
  timestamp := now.text
  caller := decision.caller
  resource := resource
  action := action
  granted := decision.isAuthorized
  isEmergency := decision.isEmergency
  detail := decision.reason?
  correlationId := correlationId

/-- What a record of a category request is about. -/
def categoryResource (name : Value) : Except Fault Value := do
  return .text ("category:" ++ (← name.display))

namespace Record

/-- The word for the outcome. -/
def outcome (r : Record) : String := if r.granted then "success" else "denied"

/-- The name of the event that a record is. -/
def event (r : Record) : String :=
  if !r.granted then "AUDIT:SECRETS:DENIED"
  else if r.isEmergency then "AUDIT:SECRETS:BREAKGLASS"
  else "AUDIT:SECRETS:ACCESS"

/-- The detail, unless it is empty. -/
def shownDetail? (r : Record) : Option String := r.detail.filter (· ≠ "")

/-! ### The audit line -/

/-- The resource as the line shows it, a dash if there is none. -/
def shownResource (r : Record) : Except Fault String :=
  if r.resource.isPresent then r.resource.display else .ok "-"

/-- The fields of the audit line. An absent user is a dash. -/
def fields (r : Record) : Except Fault (List String) := do
  let resource ← r.shownResource
  return [r.timestamp, (r.caller.userId.filter (· ≠ "")).getD "-", r.caller.principalType,
    r.action.word, resource, r.outcome] ++
    (if r.isEmergency then ["break-glass"] else []) ++ r.shownDetail?.toList

/-- The audit line. -/
def line (r : Record) : Except Fault String := do return Text.join " | " (← r.fields)

/-! ### The journal -/

/-- The journal entry of a record. -/
def entry (r : Record) : Journal.Entry where
  level := if !r.granted || r.isEmergency then .warning else .info
  source := "secrets_authz.audit"
  event := r.event
  fields :=
    [("user_id", .ofText? r.caller.userId), ("principal_type", .text r.caller.principalType),
     ("resource", r.resource), ("action", .text r.action.word), ("outcome", .text r.outcome),
     ("is_break_glass", .bool r.isEmergency), ("is_service_account", .bool r.caller.isService),
     ("correlation_id", .ofText? r.correlationId), ("audit_timestamp", .text r.timestamp)] ++
    r.shownDetail?.toList.map fun detail => ("reason", .text detail)

end Record

end SecretAccess.Audit
