import SecretAccess.Journal.Line
import SecretAccess.Template.Fill

/-!
# Reports to a journal

Besides the engine itself, a caller may report an event with fields of its choice. Some fields are
not shown but say how the report is made: the event may be a template with its arguments in a field,
and two fields ask for a trace. A field cannot have the name of another part of the report.

A report below the threshold is dropped **before** it is looked at, except for the names of its
fields, so nothing else in it can be at fault.
-/

namespace SecretAccess.Journal

/-! ## Manners -/

/-- How an event is reported. -/
inductive Manner
  /-- At a level. -/
  | level (l : Level)
  /-- As the failure of an operation: an error, with what went wrong on a line below it. -/
  | failure
  /-- As the end of the process: at the gravest level. -/
  | fatal
  deriving Repr, DecidableEq

namespace Manner

/-- The manner that a word asks for. -/
def ofWord? (s : String) : Option Manner :=
  if s = "exception" then some failure
  else if s = "fatal" then some fatal
  else (Level.ofWord? s).map level

/-- The word for a manner. -/
def word : Manner → String
  | level l => l.word
  | failure => "exception"
  | fatal => "fatal"

/-- The level at which a manner reports. -/
def reportLevel : Manner → Level
  | level l => l
  | failure => .error
  | fatal => .critical

/-- The lines below the entry: outside of the treatment of an exception, there is none to show. -/
def trailer : Manner → List Line
  | failure => [.text "NoneType: None"]
  | _ => []

end Manner

/-! ## Reports -/

/-- What a caller reports. -/
structure Report where
  /-- How it is reported. -/
  manner : Manner
  /-- The part of the engine that reports. -/
  source : String
  /-- The event, null if there is none, a template if there are arguments for it. -/
  event : Value
  /-- Named values. -/
  fields : List (String × Value)
  deriving Repr

namespace Report

/-- The field for the arguments of the event. -/
def argumentsName : String := "positional_args"

/-- The fields that ask for a trace. They are not shown, and there is no trace to show. -/
def traceNames : List String := ["exc_info", "stack_info"]

/-- The name of the event among the parts of a report. -/
def eventName : String := "event"

/-- The names of the parts of a report. -/
def partNames : List String := [eventName, "self"]

/-- The name of the part of a report that the journal hands on. -/
def mannerName : String := "method_name"

/-- No field has the name of another part of the report. -/
def checkNames (r : Report) : Except Fault Unit :=
  match (r.fields.map (·.1)).find? partNames.contains with
  | some name => .error (.fieldTaken r.manner.word name)
  | none =>
    if (r.fields.map (·.1)).contains mannerName then
      .error (.fieldTaken "_proxy_to_logger" mannerName)
    else .ok ()

/-- The field for a record that has the name of the source. -/
def recordName : String := "_record"

/-- No value has the name of a source, so the record can only be null. -/
def checkRecord (r : Report) : Except Fault Unit :=
  match (r.fields.lookup recordName).getD .null with
  | .null => .ok ()
  | other => .error (.recordNameless other.kind)

/-- The arguments of the event, null if there are none. -/
def arguments (r : Report) : Value := (r.fields.lookup argumentsName).getD .null

/-- The event with its arguments filled in. Arguments that do not count as present leave the event
as it is. -/
def shownEvent (r : Report) : Except Fault Value :=
  if r.arguments.isPresent then do
    let supply ← Template.supplyOf r.arguments
    match r.event with
    | .text template => return .text (← Template.fillFrom supply template)
    | .null => .error (.fieldMissing eventName)
    | other => .error (.notTemplate other.kind supply.next.kind)
  else .ok r.event

/-- Whether a field is shown. Arguments are shown only where they are null. -/
def isShown : String × Value → Bool
  | (name, .null) => !traceNames.contains name
  | (name, _) => !(argumentsName :: traceNames).contains name

/-- A report as a notice. -/
def notice (r : Report) : Except Fault Notice := do
  r.checkRecord
  return ⟨r.manner.reportLevel, r.source, ← r.shownEvent, r.fields.filter isShown⟩

/-- A block is a text, or null where there is none. -/
def checkBlock (notice : Notice) (name : String) : Except Fault Unit :=
  match (notice.fields.lookup name).getD .null with
  | .null | .text _ => .ok ()
  | other => .error (.notLines other.kind)

/-- The blocks of a notice can be written as text; objects take any value. -/
def checkBlocks (format : Format) (notice : Notice) : Except Fault Unit :=
  match format with
  | .json => .ok ()
  | .console => do
    checkBlock notice Line.stackName
    checkBlock notice Line.exceptionName

/-- The lines that a journal writes for a report. -/
def lines (setup : Setup) (stamp : String) (r : Report) : Except Fault (List Line) := do
  r.checkNames
  if r.manner.reportLevel.number < setup.threshold then return []
  else
    let notice ← r.notice
    let lines ← Line.ofNotice setup.format stamp notice
    checkBlocks setup.format notice
    return lines ++ r.manner.trailer

/-- The lines that a journal writes for some reports, one after another. -/
def allLines (setup : Setup) (stamp : String) (reports : List Report) :
    Except Fault (List Line) := do
  return (← reports.mapM (lines setup stamp)).flatten

end Report

end SecretAccess.Journal
