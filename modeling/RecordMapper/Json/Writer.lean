import RecordMapper.Number.Numeral
import RecordMapper.Number.Shortest
import RecordMapper.Value

/-!
Values as JSON text in ASCII: a comma and a colon are each followed by one space, what is not printable ASCII is
escaped in units of sixteen bits, and a key that is no text is written as the text of its value. Integers must not be
too long, and lists and dictionaries not nested too deep.
-/
namespace RecordMapper.Json

/-- Why a value has no JSON text: what kind of value or of key cannot be written, or what there is too much of. -/
inductive WriteProblem where
  | badValue (kind : String)
  | badKey (kind : String)
  | tooLong
  | tooDeep
  deriving Repr, DecidableEq

/-- The message of a problem. -/
def WriteProblem.message : WriteProblem → String
  | badValue kind => "Object of type " ++ kind ++ " is not JSON serializable"
  | badKey kind => "keys must be str, int, float, bool or None, not " ++ kind
  | tooLong => Numeral.tooLongToWrite
  | tooDeep => "maximum recursion depth exceeded while encoding a JSON object"

/-- Floats that no digits can write, in JSON. -/
def floatNames : Shortest.SpecialNames := ⟨"NaN", "Infinity"⟩

/-- A unit of sixteen bits, escaped. -/
def escapeUnit (n : Nat) : List Char := '\\' :: 'u' :: Text.hex 4 n

/-- The units of sixteen bits of a code point, escaped. -/
def escapePoint (n : Nat) : List Char :=
  if n < 0x10000 then escapeUnit n
  else escapeUnit (0xD800 + (n - 0x10000) / 0x400) ++ escapeUnit (0xDC00 + (n - 0x10000) % 0x400)

/-- One code point between quotes. -/
def writePoint (n : Nat) : List Char :=
  if n == 34 then ['\\', '"']
  else if n == 92 then ['\\', '\\']
  else if n == 8 then ['\\', 'b']
  else if n == 12 then ['\\', 'f']
  else if n == 10 then ['\\', 'n']
  else if n == 13 then ['\\', 'r']
  else if n == 9 then ['\\', 't']
  else if 32 ≤ n && n < 127 then [Char.ofNat n]
  else escapePoint n

/-- Code points between quotes. -/
def writePoints (points : List Nat) : List Char := '"' :: points.flatMap writePoint ++ ['"']

/-- A text between quotes. -/
def writeText (s : String) : List Char := writePoints (s.toList.map Char.toNat)

/-- The digits of an integer. -/
def writeInt (n : Int) : Except WriteProblem String :=
  if Numeral.isTooLong n then .error .tooLong else .ok (toString n)

/-- A key between quotes. -/
def writeKey : Value → Except WriteProblem (List Char)
  | .text s => .ok (writeText s)
  | .fragment points => .ok (writePoints points)
  | .null => .ok (writeText "null")
  | .bool b => .ok (writeText (if b then "true" else "false"))
  | .int n => (writeInt n).map writeText
  | .real x => .ok (writeText (Shortest.text floatNames x))
  | .bytes _ => .error (.badKey "bytes")
  | .moment _ => .error (.badKey "datetime.datetime")
  | .date _ => .error (.badKey "datetime.date")
  | .list _ => .error (.badKey "tuple")
  | .dict _ => .error (.badKey "dict")

mutual

/-- The JSON text of a value; `depth` bounds the nesting. -/
def writeChars (depth : Nat) : Value → Except WriteProblem (List Char)
  | .null => .ok "null".toList
  | .bool b => .ok (if b then "true" else "false").toList
  | .int n => (writeInt n).map String.toList
  | .real x => .ok (Shortest.text floatNames x).toList
  | .text s => .ok (writeText s)
  | .fragment points => .ok (writePoints points)
  | .bytes _ => .error (.badValue "bytes")
  | .moment _ => .error (.badValue "datetime")
  | .date _ => .error (.badValue "date")
  | .list items =>
    if depth == 0 then .error .tooDeep else do return '[' :: (← writeItems (depth - 1) items) ++ [']']
  | .dict entries =>
    if depth == 0 then .error .tooDeep else do return '\x7b' :: (← writeEntries (depth - 1) entries) ++ ['\x7d']

/-- The items of a list with their separators. -/
def writeItems (depth : Nat) : List Value → Except WriteProblem (List Char)
  | [] => .ok []
  | v :: rest => do
    let first ← writeChars depth v
    match rest with
    | [] => return first
    | _ :: _ => return first ++ ',' :: ' ' :: (← writeItems depth rest)

/-- The entries of a dictionary with their separators. -/
def writeEntries (depth : Nat) : List (Value × Value) → Except WriteProblem (List Char)
  | [] => .ok []
  | (k, v) :: rest => do
    let key ← writeKey k
    let first := key ++ ':' :: ' ' :: (← writeChars depth v)
    match rest with
    | [] => return first
    | _ :: _ => return first ++ ',' :: ' ' :: (← writeEntries depth rest)

end

/-- The JSON text of a value. -/
def write (v : Value) : Except WriteProblem String := (writeChars Value.maxDepth v).map String.ofList

end RecordMapper.Json
