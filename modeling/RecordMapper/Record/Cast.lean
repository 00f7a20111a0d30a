import RecordMapper.Calendar.Reader
import RecordMapper.Fault.Failure
import RecordMapper.Json.Reader
import RecordMapper.Json.Writer
import RecordMapper.Number.Numeral
import RecordMapper.Text.Letter
import RecordMapper.Text.Utf8

/-!
Casts: how a column's value is written to the store and read from it. A cast never sees an absent value, and a
value that it cannot convert is a fault that names column, cast and reason.
-/
namespace RecordMapper

/-- The way a value goes. -/
inductive Direction where
  | toStorage
  | fromStorage
  deriving Repr, DecidableEq, Inhabited

/-- The direction with a name. -/
def Direction.ofName? : String → Option Direction
  | "to_storage" => some .toStorage
  | "from_storage" => some .fromStorage
  | _ => none

/-- The message that there is no such direction. -/
def Direction.unknown (name : String) : String := Text.quoted name ++ " is not a valid CastDirection"

/-- The casts. -/
inductive Cast where
  | json
  | boolean
  | date
  | number
  | float
  | string
  deriving Repr, DecidableEq, Inhabited

namespace Cast

def name : Cast → String
  | json => "json"
  | boolean => "boolean"
  | date => "date"
  | number => "number"
  | float => "float"
  | string => "string"

/-- All casts, by name. -/
def all : List Cast := [boolean, date, float, json, number, string]

/-- The cast with a name. -/
def ofName? (s : String) : Option Cast := all.find? fun c => c.name == s

/-- The fault of a value that a cast cannot convert. -/
def refuse (column : String) (cast : Cast) (reason : String) : Failure :=
  .ofFault (.serialization column cast.name reason [])

/-- Octets as text, if they are UTF-8. -/
def decodeText (octets : List UInt8) : Except Failure String :=
  match Text.Utf8.decode? octets with
  | some s => .ok s
  | none => .error (.ofPlain .decode "the octets are not UTF-8")

/-- Texts that count as false. -/
def falseWords : List String := ["", "0", "false", "no", "off"]

/-- Whether a value counts as true for a truth column: words and octets count by what they say. -/
def truth : Value → Bool
  | .text s => !falseWords.contains (Text.toSmall (Text.trim s))
  | .bytes octets => !(octets == [] || octets == [0] || octets == [48])
  | v => v.isTruthy

/-- The failure of a value that has no text. -/
def textFailure : Value.TextProblem → Failure
  | .tooLong => .ofPlain .value (Value.TextProblem.message .tooLong)
  | .tooDeep => .ofPlain .recursion (Value.TextProblem.message .tooDeep)

/-- Fails for a value that has no text. -/
def checkText (v : Value) : Except Failure Unit := (v.checkShown Value.maxDepth).mapError textFailure

/-- The text of a value for people, if it has one. -/
def shownText (v : Value) : Except Failure String := (checkText v).map fun _ => v.shown

/-- Refuses a value that is no number; the reason has its text, if it has one. -/
def refuseNumber (column : String) (cast : Cast) (v : Value) : Except Failure Value := do
  checkText v
  throw (refuse column cast ("not numeric: " ++ v.quoted))

def writeJson (column : String) (v : Value) : Except Failure Value :=
  match Json.write v with
  | .ok s => .ok (.text s)
  | .error .tooDeep => .error (.ofPlain .recursion (Json.WriteProblem.message .tooDeep))
  | .error problem => .error (refuse column .json problem.message)

/-- Reads a JSON text. -/
def readJsonText (column s : String) : Except Failure Value :=
  match Json.read s with
  | .ok v => .ok v
  | .error (.tooLong digits) => .error (.ofPlain .value (Json.ReadProblem.message (.tooLong digits)))
  | .error .tooDeep => .error (.ofPlain .recursion (Json.ReadProblem.message .tooDeep))
  | .error problem => .error (refuse column .json ("malformed JSON: " ++ problem.message))

/-- Reads a JSON column; what is no text any more is left as it is. -/
def readJson (column : String) : Value → Except Failure Value
  | .bytes octets => do readJsonText column (← decodeText octets)
  | .text s => readJsonText column s
  | .fragment points => readJsonText column (Value.fragment points).shown
  | v => .ok v

def writeDate : Value → Value
  | .moment t => .text (t.text ' ')
  | .date d => .text d.text
  | v => v

/-- The failure of a number of seconds that is no moment. -/
def epochFailure : Moment.EpochError → Failure
  | .notANumber => .ofPlain .value "Invalid value NaN (not a number)"
  | .beyondClock => .ofPlain .overflow "timestamp out of range for platform time_t"
  | .beyondCalendar => .ofPlain .os "Value too large for defined data type"
  | .yearOutOfRange year => .ofPlain .value ("year " ++ toString year ++ " is out of range")

/-- A text of a moment as the reader takes it: a final `Z` is the offset zero. -/
def momentText (s : String) : List Char :=
  let chars := Text.trimWhile Text.isBlank s.toList
  if chars.getLast? == some 'Z' then chars.dropLast ++ "+00:00".toList else chars

def readDate (column : String) (v : Value) : Except Failure Value :=
  match v with
  | .moment _ | .date _ => .ok v
  | .int n => (Moment.ofEpoch n 0).mapError epochFailure |>.map .moment
  | .real x => (Moment.ofEpochFloat x).mapError epochFailure |>.map .moment
  | _ => do
    match Moment.read? (momentText (← shownText v)) with
    | some t => .ok (.moment t)
    | none => .error (refuse column .date ("not an ISO-8601 timestamp: " ++ v.quoted))

/-- Octets as the characters of a numeral; no numeral has an octet beyond ASCII. -/
def numeralOf (octets : List UInt8) : List Char :=
  octets.map fun b => if b < 128 then Char.ofNat b.toNat else '?'

/-- A value as a float: `none` if it is not numeric. -/
def toFloat : Value → Except Failure (Option Float)
  | .bool b => .ok (some (if b then 1.0 else 0.0))
  | .int n =>
    match Number.floatOfInt n with
    | .ok x => .ok (some x)
    | .error _ => .error (.ofPlain .overflow "int too large to convert to float")
  | .real x => .ok (some x)
  | .text s => .ok (Numeral.readFloat? s.toList)
  | .bytes octets => .ok (Numeral.readFloat? (numeralOf octets))
  | _ => .ok none

def castFloat (column : String) (v : Value) : Except Failure Value := do
  match ← toFloat v with
  | some x => return .real x
  | none => refuseNumber column .float v

/-- A number column: an integer where the number is one. -/
def castNumber (column : String) (v : Value) : Except Failure Value :=
  match v with
  | .bool b => .ok (.int (if b then 1 else 0))
  | .int n => .ok (.int n)
  | _ => do
    match ← toFloat v with
    | some x =>
      match Binary64.toInt? x with
      | some n => return .int n
      | none => return .real x
    | none => refuseNumber column .number v

def castString : Value → Except Failure Value
  | .bytes octets => (decodeText octets).map .text
  | .fragment points => .ok (.fragment points)
  | v => (shownText v).map .text

/-- Converts a value that is there. -/
def convert (cast : Cast) (direction : Direction) (column : String) (v : Value) : Except Failure Value :=
  match cast, direction with
  | json, .toStorage => writeJson column v
  | json, .fromStorage => readJson column v
  | boolean, .toStorage => .ok (.int (if truth v then 1 else 0))
  | boolean, .fromStorage => .ok (.bool (truth v))
  | date, .toStorage => .ok (writeDate v)
  | date, .fromStorage => readDate column v
  | number, _ => castNumber column v
  | float, _ => castFloat column v
  | string, _ => castString v

end Cast

/-- Casts by column, named as they are declared. -/
abbrev Casts := List (String × String)

namespace Casts

/-- Casts declared one after another: a column keeps its first place and its last cast. -/
def declare (pairs : List (String × String)) : Casts :=
  let put (done : Casts) (column tag : String) : Casts :=
    if done.any fun (c, _) => c == column then done.map fun (c, t) => if c == column then (c, tag) else (c, t)
    else done ++ [(column, tag)]
  pairs.foldl (fun done (column, tag) => put done column tag) []

/-- The beginning of the message about a name that no cast has. -/
def unknown (tag column : String) : String := "unknown cast '" ++ tag ++ "' for column '" ++ column ++ "'"

/-- Refuses the first name that no cast has. -/
def validate (casts : Casts) (owner : String) : Except Fault Unit :=
  match casts.find? fun (_, tag) => (Cast.ofName? tag).isNone with
  | none => .ok ()
  | some (column, tag) =>
    .error (.usage owner
      (unknown tag column ++ " (expected one of: " ++ Value.separated (Cast.all.map Cast.name) ++ ")") [])

/-- Converts one column, if the row has a value in it. -/
def applyOne (direction : Direction) (row : Row) (column tag : String) : Except Failure Row :=
  if (row.value column).isNull then .ok row
  else match Cast.ofName? tag with
    | none => .error (.ofFault (.usage "<casts>" (unknown tag column) []))
    | some cast => (cast.convert direction column (row.value column)).map fun v => Row.set column v row

/-- Converts the columns that have casts, in the order of the casts; the columns of the row stay where they are. -/
def apply (direction : Direction) : Casts → Row → Except Failure Row
  | [], row => .ok row
  | (column, tag) :: rest, row => do apply direction rest (← applyOne direction row column tag)

end Casts

end RecordMapper
