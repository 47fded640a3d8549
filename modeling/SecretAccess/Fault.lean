import SecretAccess.Text.Written

/-!
# Everything that can go wrong

The faults of a template, and those of all other operations.
-/

namespace SecretAccess

/-!
## Faults of templates

What can be wrong with a template, or with the arguments it is filled from. `message` holds the
wording of each cause.
-/

/-- The amounts of a placeholder. -/
inductive AmountUse
  /-- The least width. -/
  | width
  /-- The precision. -/
  | precision
  deriving Repr, DecidableEq

namespace AmountUse

/-- The word for an amount. -/
def word : AmountUse → String
  | width => "width"
  | precision => "precision"

/-- The least number that is too large for an amount. -/
def bound : AmountUse → Nat
  | width => Nat.pow 2 63
  | precision => Nat.pow 2 31

/-- The machine type of an amount, as messages name it. -/
def machineType : AmountUse → String
  | width => "ssize_t"
  | precision => "int"

end AmountUse

/-- Why a template cannot be filled. -/
inductive TemplateFault
  /-- Arguments of this kind cannot be counted. -/
  | uncountable (kind : String)
  /-- More placeholders than arguments. -/
  | argumentMissing
  /-- An argument that no placeholder uses. -/
  | argumentUnused
  /-- A placeholder asks for an argument by name, but the arguments have no names. -/
  | namesMissing
  /-- A placeholder asks by name for an item of a list. -/
  | listHasNoNames
  /-- There is no argument of this name, which is shown as written. -/
  | nameUnknown (shown : String)
  /-- The template ends inside a placeholder. -/
  | cutOff
  /-- The template ends inside the name of an argument. -/
  | nameCutOff
  /-- No conversion is written with this character, which stands at the given place. -/
  | conversionUnknown (c : Char) (position : Nat)
  /-- An amount is to come from an argument that is no whole number. -/
  | amountNotInteger
  /-- An amount in the template is too large. -/
  | amountTooBig (use : AmountUse)
  /-- An amount that comes from an argument is too far from zero. -/
  | amountOutOfRange (use : AmountUse)
  /-- A precision is beyond every whole number. -/
  | precisionTooLarge
  /-- A text is too long to be held. -/
  | tooLong
  /-- The conversion takes whole numbers only, and the argument is of this kind. -/
  | integerRequired (c : Char) (kind : String)
  /-- The conversion takes numbers only, and the argument is of this kind. -/
  | numberRequired (c : Char) (kind : String)
  /-- The conversion takes numbers only, and the argument is of this kind. -/
  | realRequired (kind : String)
  /-- The conversion takes one character or its number only. -/
  | characterRequired
  /-- There is no character of this number. -/
  | characterOutOfRange
  deriving Repr, DecidableEq

namespace TemplateFault

/-- A number in hexadecimal digits without zeros in front. -/
def hexText (n : Nat) : String := String.ofList (Nat.toDigits 16 n)

/-- A character of a template as messages show it: itself if it is printable ASCII. -/
def shownChar (c : Char) : String :=
  if 31 ≤ c.toNat && c.toNat ≤ 126 then String.singleton c else "?"

/-- The wording of a fault. -/
def message : TemplateFault → String
  | uncountable kind => "object of type '" ++ kind ++ "' has no len()"
  | argumentMissing => "not enough arguments for format string"
  | argumentUnused => "not all arguments converted during string formatting"
  | namesMissing => "format requires a mapping"
  | listHasNoNames => "list indices must be integers or slices, not str"
  | nameUnknown shown => shown
  | cutOff => "incomplete format"
  | nameCutOff => "incomplete format key"
  | conversionUnknown c position =>
    "unsupported format character '" ++ shownChar c ++ "' (0x" ++ hexText c.toNat ++
    ") at index " ++ toString position
  | amountNotInteger => "* wants int"
  | amountTooBig use => use.word ++ " too big"
  | amountOutOfRange use => "Python int too large to convert to C " ++ use.machineType
  | precisionTooLarge => "precision too large"
  | tooLong => ""
  | integerRequired c kind =>
    "%" ++ String.singleton c ++ " format: an integer is required, not " ++ kind
  | numberRequired c kind =>
    "%" ++ String.singleton c ++ " format: a real number is required, not " ++ kind
  | realRequired kind => "must be real number, not " ++ kind
  | characterRequired => "%c requires int or char"
  | characterOutOfRange => "%c arg not in range(0x110000)"

end TemplateFault

/-!
## Faults

A denial is an answer, not a fault. A fault is what keeps an operation from answering at all: a
number that has no value in the wanted form, external data of the wrong shape, a setting that is
refused, or a nonce store that does not respond. Each constructor is one cause, and `message` holds
its wording.
-/

/-! ### Refused configuration -/

/-- Why an allow-list or a group of settings is refused. -/
inductive ConfigFault
  /-- The allow-list is not a map. -/
  | allowListNotMap
  /-- A category is not a text with a character that is not blank; its written form is given. -/
  | categoryName (shown : String)
  /-- The names of a category are one text. -/
  | namesAreText (category : String)
  /-- Among the names of a category is an empty text or no text. -/
  | namesNotTexts (category : String)
  /-- A setting that has to be positive is zero or less. -/
  | notPositive (setting : String)
  /-- The journal format is neither of the two known ones. -/
  | journalFormat (shown : String)
  /-- A variable does not hold a whole number. -/
  | notInteger (name : String) (got : String)
  /-- A variable does not hold a number. -/
  | notNumber (name : String) (got : String)
  deriving Repr, DecidableEq

/-- The wording of a refusal. -/
def ConfigFault.message : ConfigFault → String
  | allowListNotMap => "Allowed secrets must be a mapping of category to names"
  | categoryName shown => "Invalid category name: " ++ shown
  | namesAreText category =>
    "Secret names for category '" ++ category ++ "' must be a list, not a string"
  | namesNotTexts category =>
    "Secret names for category '" ++ category ++ "' must be non-empty strings"
  | notPositive setting => setting ++ " must be positive"
  | journalFormat shown => "Invalid log format '" ++ shown ++ "'. Valid formats: json, console"
  | notInteger name got => name ++ " must be an integer, got '" ++ got ++ "'"
  | notNumber name got => name ++ " must be a number, got '" ++ got ++ "'"

/-! ### Moments that do not exist -/

/-- Why there is no such moment. -/
inductive MomentFault
  /-- A part without which there is no moment is left out; its place is counted from one. -/
  | missing (name : String) (place : Nat)
  /-- The parts are a value of this kind, which has no elements. -/
  | notParts (kind : String)
  /-- There is a part in the place of the distance from universal time, which is given by itself. -/
  | offsetTaken
  /-- There are so many parts that, with the distance from universal time, they are too many. -/
  | surplus (parts : Nat)
  /-- A part is a value of this kind and no whole number. -/
  | notWhole (kind : String)
  /-- A part does not fit a signed word of 64 bits. -/
  | beyondLongWord
  /-- A part fits a signed word of 64 bits and is above those of 32 bits. -/
  | aboveWord
  /-- A part fits a signed word of 64 bits and is below those of 32 bits. -/
  | belowWord
  /-- The year has more than four digits, or is zero or less. -/
  | year (got : Int)
  /-- There is no such month. -/
  | month
  /-- The month has no such day. -/
  | day
  /-- There is no such hour. -/
  | hour
  /-- There is no such minute. -/
  | minute
  /-- There is no such second. -/
  | second
  /-- There is no such microsecond. -/
  | microsecond
  /-- The distance from universal time is a value of this kind and no number. -/
  | offsetKind (kind : String)
  /-- The days of the distance from universal time do not fit a signed word of 32 bits. -/
  | offsetBeyondWord
  /-- The distance from universal time has more days than any distance between moments. -/
  | offsetDays (got : Int)
  /-- The distance from universal time is a day or more, in microseconds. -/
  | offset (got : Int)
  deriving Repr, DecidableEq

namespace MomentFault

/-- How many microseconds a day has. -/
def dayLength : Nat := 86400000000

/-- A distance from universal time in days, seconds and microseconds, of which only the days may be
negative and those that are zero are left out. -/
def offsetText (microseconds : Int) : String :=
  let rest := microseconds.fmod dayLength
  let amounts : List (String × Int) :=
    [("days=", microseconds.fdiv dayLength), ("seconds=", rest / 1000000),
      ("microseconds=", rest % 1000000)]
  let shown := (amounts.filter fun a => a.2 ≠ 0).map fun a => a.1 ++ toString a.2
  "datetime.timedelta(" ++ String.intercalate ", " shown ++ ")"

/-- The most days between two moments. -/
def mostDays : Nat := 999999999

/-- The wording of a moment that does not exist. -/
def message : MomentFault → String
  | missing name place =>
    "function missing required argument '" ++ name ++ "' (pos " ++ toString place ++ ")"
  | notParts kind => "datetime.datetime() argument after * must be an iterable, not " ++ kind
  | offsetTaken => "argument for function given by name ('tzinfo') and position (8)"
  | surplus parts =>
    "function takes at most 9 arguments (" ++ toString (parts + 1) ++ " given)"
  | notWhole kind => "'" ++ kind ++ "' object cannot be interpreted as an integer"
  | beyondLongWord => "Python int too large to convert to C long"
  | aboveWord => "signed integer is greater than maximum"
  | belowWord => "signed integer is less than minimum"
  | year got => "year " ++ toString got ++ " is out of range"
  | month => "month must be in 1..12"
  | day => "day is out of range for month"
  | hour => "hour must be in 0..23"
  | minute => "minute must be in 0..59"
  | second => "second must be in 0..59"
  | microsecond => "microsecond must be in 0..999999"
  | offsetKind kind => "unsupported type for timedelta seconds component: " ++ kind
  | offsetBeyondWord => "Python int too large to convert to C int"
  | offsetDays got =>
    "days=" ++ toString got ++ "; must have magnitude <= " ++ toString mostDays
  | offset got =>
    "offset must be a timedelta strictly between -timedelta(hours=24) and timedelta(hours=24), " ++
    "not " ++ offsetText got ++ "."

end MomentFault

/-! ### All faults -/

/-- Why an operation does not answer. -/
inductive Fault
  /-- A whole number is beyond the binary format. -/
  | tooLargeForBinary
  /-- An infinite number has no integer part. -/
  | infiniteInteger
  /-- What is no number has no integer part. -/
  | undefinedInteger
  /-- A whole number has too many digits to be written. -/
  | tooManyDigits
  /-- A text has surrogates and so no bytes. The first run of them is named by the code point with
  which it begins, its place and its length. -/
  | surrogates (codePoint place length : Nat)
  /-- A value of this kind has no elements. -/
  | notIterable (kind : String)
  /-- A value of this kind is no pair of a name and a value. -/
  | notPair (kind : String)
  /-- Fewer than two elements where a name and a value belong. -/
  | pairTooShort (got : Nat)
  /-- More than two elements where a name and a value belong. -/
  | pairTooLong
  /-- A value of this kind cannot be a key. -/
  | notKey (kind : String)
  /-- A configuration is refused. -/
  | config (cause : ConfigFault)
  /-- The nonce store did not answer, for the given reason. -/
  | storeUnavailable (reason : String)
  /-- The connection to the nonce store broke down outside of the store's own reporting. -/
  | transport (reason : String)
  /-- A value is no denial code; its written form is given. -/
  | unknownDenialCode (shown : String)
  /-- A value is no action; its written form is given. -/
  | unknownAction (shown : String)
  /-- A value is no kind of scope; its written form is given. -/
  | unknownScopeKind (shown : String)
  /-- There is no setting of this name. -/
  | unknownSetting (name : String)
  /-- A value of this kind is asked for where a number is needed that is not zero or less. -/
  | notComparable (kind : String)
  /-- A moment is not in the calendar. -/
  | moment (cause : MomentFault)
  /-- A value of this kind has no letter case in which it could be looked up. -/
  | caseless (kind : String)
  /-- A template cannot be filled. -/
  | template (cause : TemplateFault)
  /-- A field of a report has the name of one of its other parts, which the given operation
  takes. -/
  | fieldTaken (operation field : String)
  /-- A field that is needed is not there. -/
  | fieldMissing (name : String)
  /-- A value of this kind has no fields. -/
  | notFields (kind : String)
  /-- The event of a report is a value of the first kind and no template for arguments of the
  second. -/
  | notTemplate (kind arguments : String)
  /-- A record that should have the name of the source is a value of this kind. -/
  | recordNameless (kind : String)
  /-- A part of a report that stands on lines of its own is a value of this kind and no text. -/
  | notLines (kind : String)
  /-- A name of the level table stands for a format and not for a level. -/
  | levelIsFormat
  /-- A name of the level table stands for the table of styles and not for a level. -/
  | levelIsStyles
  deriving Repr, DecidableEq

namespace Fault

/-- The styles of message formats, as they are shown where a level was expected. -/
def stylesText : String :=
  "\x7b'%': (<class 'logging.PercentStyle'>, '%(levelname)s:%(name)s:%(message)s'), " ++
  "'\x7b': (<class 'logging.StrFormatStyle'>, " ++
  "'\x7blevelname\x7d:\x7bname\x7d:\x7bmessage\x7d'), " ++
  "'$': (<class 'logging.StringTemplateStyle'>, " ++
  "'$\x7blevelname\x7d:$\x7bname\x7d:$\x7bmessage\x7d')\x7d"

/-- The wording for a kind of value without fields; what has places instead says so. -/
def notFieldsText (kind : String) : String :=
  if kind = "str" then "string indices must be integers, not 'str'"
  else if kind = "list" then "list indices must be integers or slices, not str"
  else "'" ++ kind ++ "' object is not subscriptable"

/-- The wording for a run of surrogates: a single one is shown, several are counted. -/
def surrogatesText (codePoint place length : Nat) : String :=
  "'utf-8' codec can't encode character" ++
  (if length = 1 then
    " '" ++ String.ofList (Text.escapeNumber codePoint) ++ "' in position " ++ toString place
   else "s in position " ++ toString place ++ "-" ++ toString (place + length - 1)) ++
  ": surrogates not allowed"

/-- The wording of a fault. -/
def message : Fault → String
  | tooLargeForBinary => "int too large to convert to float"
  | infiniteInteger => "cannot convert float infinity to integer"
  | undefinedInteger => "cannot convert float NaN to integer"
  | tooManyDigits =>
    "Exceeds the limit (4300 digits) for integer string conversion; " ++
    "use sys.set_int_max_str_digits() to increase the limit"
  | surrogates codePoint place length => surrogatesText codePoint place length
  | notIterable kind => "'" ++ kind ++ "' object is not iterable"
  | notPair kind => "cannot unpack non-iterable " ++ kind ++ " object"
  | pairTooShort got =>
    "not enough values to unpack (expected 2, got " ++ toString got ++ ")"
  | pairTooLong => "too many values to unpack (expected 2)"
  | notKey kind => "unhashable type: '" ++ kind ++ "'"
  | config cause => cause.message
  | storeUnavailable reason => "Nonce store unavailable: " ++ reason
  | transport reason => reason
  | unknownDenialCode shown => shown ++ " is not a valid DenialCode"
  | unknownAction shown => shown ++ " is not a valid SecretAction"
  | unknownScopeKind shown => shown ++ " is not a valid ScopeKind"
  | unknownSetting name =>
    "EngineSettings.__init__() got " ++
    (if name = "self" then "multiple values for argument '" else
      "an unexpected keyword argument '") ++ name ++ "'"
  | notComparable kind => "'<=' not supported between instances of '" ++ kind ++ "' and 'int'"
  | moment cause => cause.message
  | caseless kind => "'" ++ kind ++ "' object has no attribute 'lower'"
  | template cause => cause.message
  | fieldTaken operation field =>
    "BoundLogger." ++ operation ++ "() got multiple values for argument '" ++ field ++ "'"
  | fieldMissing name => "'" ++ name ++ "'"
  | notFields kind => notFieldsText kind
  | notTemplate kind arguments =>
    "unsupported operand type(s) for %=: '" ++ kind ++ "' and '" ++ arguments ++ "'"
  | recordNameless kind => "'" ++ kind ++ "' object has no attribute 'name'"
  | notLines kind => "can only concatenate str (not \"" ++ kind ++ "\") to str"
  | levelIsFormat => "Unknown level: '%(levelname)s:%(name)s:%(message)s'"
  | levelIsStyles => "Level not an integer or a valid string: " ++ stylesText

end Fault

end SecretAccess
