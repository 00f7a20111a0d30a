import RecordMapper.Number.Numeral
import RecordMapper.Number.Shortest
import RecordMapper.Text.Quoted
import RecordMapper.Value

/-!
The two texts of a value. `Value.quoted` is the text that tells kinds apart (`'1'` is not `1`), and
`Value.shown` is the text for people: it differs only for texts, which stand as they are, and for dates and moments.
`Value.checkShown` tells whether a value has these texts where the length of integers and the nesting are bounded.
-/
namespace RecordMapper.Value

/-- Floats that no digits can write, in messages. -/
def floatNames : Shortest.SpecialNames := ⟨"nan", "inf"⟩

/-- Parts with a separator between them. -/
def separated (parts : List String) : String := ", ".intercalate parts

/-- A duration as days, seconds and microseconds, zero parts left out; days are negative where the whole is. -/
def durationShown (micros : Int) : String :=
  let days := micros.fdiv (86400 * 1000000)
  let rest := (micros.fmod (86400 * 1000000)).toNat
  let part (name : String) (n : Int) : List String := if n == 0 then [] else [name ++ "=" ++ toString n]
  let parts := part "days" days ++ part "seconds" (rest / 1000000 : Nat) ++ part "microseconds" (rest % 1000000 : Nat)
  "datetime.timedelta(" ++ (if parts.isEmpty then "0" else separated parts) ++ ")"

/-- An offset as the time zone that it makes. -/
def zoneShown (offset : Int) : String :=
  if offset == 0 then "datetime.timezone.utc" else "datetime.timezone(" ++ durationShown offset ++ ")"

/-- A moment with its parts, seconds and microseconds only as far as they are needed. -/
def momentShown (t : Moment) : String :=
  let needed := if t.micro != 0 then [t.second, t.micro] else if t.second != 0 then [t.second] else []
  let numbers := [t.date.year, t.date.month, t.date.day, t.hour, t.minute] ++ needed
  let zone := t.offset.elim [] fun o => ["tzinfo=" ++ zoneShown o]
  "datetime.datetime(" ++ separated (numbers.map toString ++ zone) ++ ")"

/-- A date with its parts. -/
def dateShown (d : Date) : String :=
  "datetime.date(" ++ separated ([d.year, d.month, d.day].map toString) ++ ")"

/-- Code points between quotes; those that are no characters are escaped. -/
def fragmentQuoted (points : List Nat) : String :=
  let chars := points.map fun n => if n.isValidChar then Char.ofNat n else '\uFFFD'
  let quote := Text.quoteFor chars
  let one (n : Nat) : List Char :=
    if n.isValidChar then Text.quoteChar quote (Char.ofNat n) else Text.escapePoint n
  String.ofList (quote :: points.flatMap one ++ [quote])

def boolShown (b : Bool) : String := if b then "True" else "False"

mutual

/-- The text that shows the kind of a value with the value. -/
def quoted : Value → String
  | null => "None"
  | bool b => boolShown b
  | int n => toString n
  | real x => Shortest.text floatNames x
  | text s => Text.quoted s
  | fragment points => fragmentQuoted points
  | bytes octets => Text.quotedOctets octets
  | moment t => momentShown t
  | date d => dateShown d
  | list items => "[" ++ separated (quotedItems items) ++ "]"
  | dict entries => "\x7b" ++ separated (quotedEntries entries) ++ "\x7d"

/-- The texts of items. -/
def quotedItems : List Value → List String
  | [] => []
  | v :: rest => quoted v :: quotedItems rest

/-- The texts of entries. -/
def quotedEntries : List (Value × Value) → List String
  | [] => []
  | (k, v) :: rest => (quoted k ++ ": " ++ quoted v) :: quotedEntries rest

end

/-- The text of a value for people. -/
def shown : Value → String
  | text s => s
  | fragment points => String.ofList (points.map fun n => if n.isValidChar then Char.ofNat n else '\uFFFD')
  | moment t => t.text ' '
  | date d => d.text
  | v => v.quoted

/-- Why a value has no text. -/
inductive TextProblem where
  | tooLong
  | tooDeep
  deriving Repr, DecidableEq

/-- The message of a problem. -/
def TextProblem.message : TextProblem → String
  | tooLong => Numeral.tooLongToWrite
  | tooDeep => "maximum recursion depth exceeded while getting the text of a value"

mutual

/-- Refuses a value with an integer that is too long, or that is nested deeper than `depth`, whichever comes first. -/
def checkShown (depth : Nat) : Value → Except TextProblem Unit
  | int n => if Numeral.isTooLong n then .error .tooLong else .ok ()
  | list items => if depth == 0 then .error .tooDeep else checkItems (depth - 1) items
  | dict entries => if depth == 0 then .error .tooDeep else checkEntries (depth - 1) entries
  | _ => .ok ()

/-- Refuses items of which one cannot be shown. -/
def checkItems (depth : Nat) : List Value → Except TextProblem Unit
  | [] => .ok ()
  | v :: rest => do
    checkShown depth v
    checkItems depth rest

/-- Refuses entries of which one cannot be shown. -/
def checkEntries (depth : Nat) : List (Value × Value) → Except TextProblem Unit
  | [] => .ok ()
  | (k, v) :: rest => do
    checkShown depth k
    checkShown depth v
    checkEntries depth rest

end

/-- Values between round brackets, one value with a comma behind it. -/
def tupleShown (values : List Value) : String :=
  match values with
  | [v] => "(" ++ v.quoted ++ ",)"
  | vs => "(" ++ separated (quotedItems vs) ++ ")"

end RecordMapper.Value
