import SecretAccess.Journal.Entry
import SecretAccess.Text.LetterCase

/-!
# The lines of a journal

How an entry is written, which entries are, and how a process sets both up.
-/

namespace SecretAccess.Journal

/-!
## Journal lines

A journal writes each entry as an object of named values for programs or as text for people. Both
carry the time stamp, the level and the part of the engine that reports.

An entry as text has a heading: the time stamp, the level and the event, each filled up with blanks
to a fixed width, the source, and the named values in the order of their names. There are no blanks
at its end. Inside it, a text is written bare unless it has a blank, a quote or an equals sign. Some
named values stand elsewhere: the one with an empty name comes first of all, a second source follows
the source, and a stack and an exception are blocks of their own below the heading. As an event or a
block may have line ends, one entry may be several lines; **no line is empty**.
-/

/-- The form in which a journal writes its lines. -/
inductive Format
  /-- Objects of named values. -/
  | json
  /-- Text lines. -/
  | console
  deriving Repr, DecidableEq

/-- The word for a format. -/
def Format.word : Format → String
  | json => "json"
  | console => "console"

/-- The format of a word, if it is one. -/
def Format.ofWord? (s : String) : Option Format :=
  if s = "json" then some .json else if s = "console" then some .console else none

/-- The format that a word asks for where any other word asks for objects. -/
def Format.ofWord (s : String) : Format := (Format.ofWord? s).getD .json

/-- A written entry. -/
inductive Line
  /-- Named values. -/
  | object (fields : List (String × Value))
  /-- A line of text. -/
  | text (s : String)
  deriving Repr

namespace Line

/-! ### Objects -/

/-- The names that the journal itself writes. -/
def ownNames : List String := ["event", "logger", "level", "timestamp"]

/-- What is there of a value that may be null. -/
def present? : Value → Option Value
  | .null => none
  | value => some value

/-- The named values of a notice as an object. -/
def fieldsOf (stamp : String) (notice : Notice) : List (String × Value) :=
  notice.fields.filter (!ownNames.contains ·.1) ++
    ((present? notice.event).map fun event => ("event", event)).toList ++
    [("logger", .text notice.source), ("level", .text notice.level.word),
     ("timestamp", .text stamp)]

/-- A notice as an object, provided that every value in it has a text. -/
def objectOf (stamp : String) (notice : Notice) : Except Fault (List (String × Value)) := do
  let fields := fieldsOf stamp notice
  let _ ← fields.mapM fun field => field.2.written
  return fields

/-! ### Headings -/

/-- A text filled up with blanks to a width. -/
def fill (width : Nat) (s : String) : String :=
  String.ofList (s.toList ++ List.replicate (width - s.length) ' ')

/-- The width of a level. -/
def levelWidth : Nat := 9

/-- The width of an event. -/
def eventWidth : Nat := 30

/-- The characters for which a text is written between quotes. -/
def quotedFor : List Char := [' ', '\t', '=', '\r', '\n', '"', '\'']

/-- The text of a value in a text line. -/
def valueText : Value → Except Fault String
  | .text s => .ok (if s.toList.any quotedFor.contains then Text.quoted s else s)
  | value => value.written

/-- The name of a second source, which a heading shows beside the first. -/
def secondSource : String := "logger_name"

/-- The name of a stack, which is a block of its own. -/
def stackName : String := "stack"

/-- The name of an exception, which is a block of its own. -/
def exceptionName : String := "exception"

/-- The name of the value that comes first of all. -/
def firstName : String := ""

/-- The names of the values that do not stand among the named values of a heading. -/
def namesApart : List String := [firstName, secondSource, stackName, exceptionName]

/-- A source as a heading shows it. -/
def bracketed (source : String) : String := "[" ++ source ++ "]"

/-- A named value as a heading shows it. -/
def named (field : String × Value) : Except Fault String := do
  return field.1 ++ "=" ++ (← valueText field.2)

/-- The parts of a heading. -/
def parts (stamp : String) (notice : Notice) : Except Fault (List String) := do
  let first ← ((notice.fields.lookup firstName).map fun v => (firstName, v)).toList.mapM named
  let event ← (present? notice.event).toList.mapM Value.display
  let second ← (notice.fields.lookup secondSource).toList.mapM Value.display
  let fields ← ((notice.fields.filter (!(ownNames ++ namesApart).contains ·.1)).mergeSort
    (·.1 ≤ ·.1)).mapM named
  return first ++ [stamp, bracketed (fill levelWidth notice.level.word)] ++
    event.map (fill eventWidth) ++ [bracketed notice.source] ++ second.map bracketed ++ fields

/-- A text without the spaces at its end. -/
def trimEnd (s : String) : String :=
  String.ofList (s.toList.reverse.dropWhile (· = ' ')).reverse

/-- The heading of a notice. -/
def heading (stamp : String) (notice : Notice) : Except Fault String := do
  return trimEnd (Text.join " " ((← parts stamp notice).filter (· ≠ "")))

/-! ### Blocks -/

/-- The block of a name, if there is a text for it. -/
def block? (notice : Notice) (name : String) : Option String :=
  (notice.fields.lookup name).bind Value.text?

/-- What stands between a stack and an exception. -/
def divider : String := String.ofList (List.replicate 79 '=')

/-- The blocks below a heading. -/
def blocks (notice : Notice) : List String :=
  match block? notice stackName, block? notice exceptionName with
  | some stack, some exception => [stack, divider, exception]
  | stack, exception => stack.toList ++ exception.toList

/-- The texts of the lines of a notice. -/
def textsOf (stamp : String) (notice : Notice) : Except Fault (List String) := do
  let heading ← heading stamp notice
  return ((heading :: blocks notice).flatMap (Text.segments '\n')).filter (· ≠ "")

/-! ### Writing -/

/-- The lines of a notice in the given format. -/
def ofNotice (format : Format) (stamp : String) (notice : Notice) : Except Fault (List Line) :=
  match format with
  | .json => do return [.object (← objectOf stamp notice)]
  | .console => do return (← textsOf stamp notice).map .text

/-- The lines of an entry in the given format. -/
def ofEntry (format : Format) (stamp : String) (entry : Entry) : Except Fault (List Line) :=
  ofNotice format stamp entry.notice

end Line

/-!
## Thresholds

A journal shows the entries from a threshold on. The threshold is named in any letter case by one of
the level names below; a name that is not among them means `INFO`. Two further names of the table
stand for settings of another kind, so they are faults.
-/

/-- What a name of the level table stands for. -/
inductive LevelName
  /-- A level, by its number. -/
  | number (n : Nat)
  /-- The format of plain messages. -/
  | messageFormat
  /-- The styles of message formats. -/
  | messageStyles
  deriving Repr, DecidableEq

/-- The level table. -/
def levelTable : List (String × LevelName) :=
  [("CRITICAL", .number 50), ("FATAL", .number 50), ("ERROR", .number 40),
   ("WARNING", .number 30), ("WARN", .number 30), ("INFO", .number 20), ("DEBUG", .number 10),
   ("NOTSET", .number 0), ("BASIC_FORMAT", .messageFormat), ("_STYLES", .messageStyles)]

/-- The threshold of a name that the table does not have. -/
def defaultThreshold : Nat := 20

/-- The threshold that a name stands for. -/
def thresholdOf (name : String) : Except Fault Nat :=
  match levelTable.lookup (Text.upper name) with
  | some (.number n) => .ok n
  | some .messageFormat => .error .levelIsFormat
  | some .messageStyles => .error .levelIsStyles
  | none => .ok defaultThreshold

/-- The entries that a journal with a threshold shows. -/
def shown (threshold : Nat) (entries : List Entry) : List Entry :=
  entries.filter (threshold ≤ ·.level.number)

/-!
## The journal of a process

A process sets up its journal once, from the name of a threshold and the word for a format. From
then on every entry at or above the threshold is written, each as one line or more.
-/

/-- How the journal of a process is written. -/
structure Setup where
  /-- The least number of a level that is shown. -/
  threshold : Nat
  /-- How lines are written. -/
  format : Format
  deriving Repr, DecidableEq

namespace Setup

/-- The name of the threshold unless another is given. -/
def defaultLevel : String := "INFO"

/-- The setup that a threshold name and a format word ask for. -/
def ofNames (level format : String) : Except Fault Setup := do
  return ⟨← thresholdOf level, Format.ofWord format⟩

/-- The lines that a journal writes for some entries, each with the same time stamp. -/
def lines (setup : Setup) (stamp : String) (entries : List Entry) : Except Fault (List Line) := do
  return (← (shown setup.threshold entries).mapM (Line.ofEntry setup.format stamp)).flatten

end Setup

end SecretAccess.Journal
