import RecordMapper.Number.Numeral
import RecordMapper.Text.Split
import RecordMapper.Value

/-!
Reading JSON text. Besides the standard, `NaN` and the two infinities are read; of equal keys the last value counts
at the first place. A problem is named by what was expected where the text stops being JSON.
-/
namespace RecordMapper.Json

/-- Why a text is no JSON. -/
inductive ReadProblem where
  | value
  | extraData
  | comma
  | colon
  | name
  | unterminated
  | controlCharacter
  | escape
  | unicodeEscape
  | byteOrderMark
  | tooLong (digits : Nat)
  | tooDeep
  deriving Repr, DecidableEq

/-- The message of a problem. -/
def ReadProblem.message : ReadProblem → String
  | value => "Expecting value"
  | extraData => "Extra data"
  | comma => "Expecting ',' delimiter"
  | colon => "Expecting ':' delimiter"
  | name => "Expecting property name enclosed in double quotes"
  | unterminated => "Unterminated string starting at"
  | controlCharacter => "Invalid control character at"
  | escape => "Invalid \\escape"
  | unicodeEscape => "Invalid \\uXXXX escape"
  | byteOrderMark => "Unexpected UTF-8 BOM (decode using utf-8-sig)"
  | tooLong digits =>
    "Exceeds the limit (4300 digits) for integer string conversion: value has " ++ toString digits ++
      " digits; use sys.set_int_max_str_digits() to increase the limit"
  | tooDeep => "maximum recursion depth exceeded while decoding a JSON value"

/-- White space of JSON. -/
def isGap (c : Char) : Bool := c == ' ' || c == '\t' || c == '\n' || c == '\r'

/-- Drops white space at the front. -/
def skipGap (s : List Char) : List Char := s.dropWhile isGap

/-- Four hexadecimal digits at the front, as a number. -/
def hexUnit? : List Char → Option (Nat × List Char)
  | a :: b :: c :: d :: rest => do
    let a ← Text.hexDigit? a
    let b ← Text.hexDigit? b
    let c ← Text.hexDigit? c
    let d ← Text.hexDigit? d
    return (((a * 16 + b) * 16 + c) * 16 + d, rest)
  | _ => none

/-- What the character behind a backslash stands for. -/
def plainEscape? : Char → Option Nat
  | '"' => some 34
  | '\\' => some 92
  | '/' => some 47
  | 'b' => some 8
  | 'f' => some 12
  | 'n' => some 10
  | 'r' => some 13
  | 't' => some 9
  | _ => none

def isHighSurrogate (n : Nat) : Bool := 0xD800 ≤ n && n < 0xDC00
def isLowSurrogate (n : Nat) : Bool := 0xDC00 ≤ n && n < 0xE000

/-- The second half of a surrogate pair, if one follows: a unit that is no second half is left unread, and one
that is no unit is a problem. -/
def secondHalf (high : Nat) (s : List Char) : Except ReadProblem (Nat × List Char) :=
  match s with
  | '\\' :: 'u' :: rest =>
    if rest.length ≤ 4 then .ok (high, s)
    else match hexUnit? rest with
      | none => .error .unicodeEscape
      | some (low, rest) =>
        if isLowSurrogate low then .ok (0x10000 + (high - 0xD800) * 0x400 + (low - 0xDC00), rest)
        else .ok (high, s)
  | _ => .ok (high, s)

/-- One code point at the front of a text between quotes, or nothing if the closing quote is there. -/
def readPoint : List Char → Except ReadProblem (Option Nat × List Char)
  | [] => .error .unterminated
  | '"' :: rest => .ok (none, rest)
  | ['\\'] => .error .unterminated
  | '\\' :: 'u' :: rest =>
    if rest.length ≤ 4 then .error .unicodeEscape
    else match hexUnit? rest with
      | none => .error .unicodeEscape
      | some (n, rest) => do
        if isHighSurrogate n then
          let (n, rest) ← secondHalf n rest
          return (some n, rest)
        else return (some n, rest)
  | '\\' :: c :: rest =>
    match plainEscape? c with
    | some n => .ok (some n, rest)
    | none => .error .escape
  | c :: rest => if c.toNat < 32 then .error .controlCharacter else .ok (some c.toNat, rest)

/-- The code points up to the closing quote. -/
def readPoints : (fuel : Nat) → List Char → Except ReadProblem (List Nat × List Char)
  | 0, _ => .error .unterminated
  | fuel + 1, s => do
    match ← readPoint s with
    | (none, rest) => return ([], rest)
    | (some n, rest) =>
      let (points, rest) ← readPoints fuel rest
      return (n :: points, rest)

/-- A text behind its opening quote. -/
def readText (s : List Char) : Except ReadProblem (Value × List Char) := do
  let (points, rest) ← readPoints (s.length + 1) s
  return (.ofPoints points, rest)

/-- Digits at the front. -/
def spanDigits (s : List Char) : List Char × List Char := (s.takeWhile Char.isDigit, s.dropWhile Char.isDigit)

/-- The whole part of a number: a zero, or digits that do not start with one. -/
def wholePart? : List Char → Option (List Char × List Char)
  | '0' :: rest => some (['0'], rest)
  | s => match spanDigits s with
    | ([], _) => none
    | part => some part

/-- A fraction with its point, if there is one. -/
def fractionPart (s : List Char) : List Char × List Char :=
  match s with
  | '.' :: rest =>
    match spanDigits rest with
    | ([], _) => ([], s)
    | (digits, rest) => ('.' :: digits, rest)
  | _ => ([], s)

/-- An exponent with its mark, if there is one. -/
def exponentPart (s : List Char) : List Char × List Char :=
  match s with
  | c :: rest =>
    if c == 'e' || c == 'E' then
      let (sign, body) :=
        match rest with
        | '+' :: tail => (['+'], tail)
        | '-' :: tail => (['-'], tail)
        | tail => ([], tail)
      match spanDigits body with
      | ([], _) => ([], s)
      | (digits, rest) => (c :: sign ++ digits, rest)
    else ([], s)
  | [] => ([], s)

/-- A number: an integer unless it has a fraction or an exponent. -/
def readNumber (s : List Char) : Except ReadProblem (Value × List Char) :=
  let (sign, body) :=
    match s with
    | '-' :: rest => (['-'], rest)
    | rest => ([], rest)
  match wholePart? body with
  | none => .error .value
  | some (whole, rest) =>
    let (fraction, rest) := fractionPart rest
    let (exponent, rest) := exponentPart rest
    if fraction.isEmpty && exponent.isEmpty then
      match Numeral.readInt (sign ++ whole) with
      | .ok n => .ok (.int n, rest)
      | .error (.tooLong digits) => .error (.tooLong digits)
      | .error .malformed => .error .value
    else
      match Numeral.readFloat? (sign ++ whole ++ fraction ++ exponent) with
      | some x => .ok (.real x, rest)
      | none => .error .value

/-- The values that are words. -/
def words : List (String × Value) :=
  [("null", .null), ("true", .bool true), ("false", .bool false), ("NaN", .real Binary64.nan),
   ("Infinity", .real (Binary64.infinity false)), ("-Infinity", .real (Binary64.infinity true))]

/-- A word or a number at the front. -/
def readScalar (s : List Char) : Except ReadProblem (Value × List Char) :=
  match words.findSome? fun (word, v) => (Text.after? word.toList s).map fun rest => (v, rest) with
  | some done => .ok done
  | none => readNumber s

mutual

/-- A value at the front; `fuel` bounds the steps and `depth` the nesting. -/
def readValue (depth : Nat) : (fuel : Nat) → List Char → Except ReadProblem (Value × List Char)
  | 0, _ => .error .tooDeep
  | fuel + 1, s =>
    match s with
    | '"' :: rest => readText rest
    | '[' :: rest =>
      if depth == 0 then .error .tooDeep
      else match skipGap rest with
        | ']' :: rest => .ok (.list [], rest)
        | rest => do
          let (items, rest) ← readItems (depth - 1) fuel rest
          return (.list items, rest)
    | '\x7b' :: rest =>
      if depth == 0 then .error .tooDeep
      else match skipGap rest with
        | '\x7d' :: rest => .ok (.dict [], rest)
        | rest => do
          let (entries, rest) ← readEntries (depth - 1) fuel rest
          return (.dictOf entries, rest)
    | _ => readScalar s

/-- The items of a list, to behind its closing bracket. -/
def readItems (depth : Nat) : (fuel : Nat) → List Char → Except ReadProblem (List Value × List Char)
  | 0, _ => .error .tooDeep
  | fuel + 1, s => do
    let (v, rest) ← readValue depth fuel s
    match skipGap rest with
    | ']' :: rest => return ([v], rest)
    | ',' :: rest =>
      let (items, rest) ← readItems depth fuel (skipGap rest)
      return (v :: items, rest)
    | _ => throw .comma

/-- The entries of a dictionary, to behind its closing bracket. -/
def readEntries (depth : Nat) : (fuel : Nat) → List Char → Except ReadProblem (List (Value × Value) × List Char)
  | 0, _ => .error .tooDeep
  | fuel + 1, s =>
    match s with
    | '"' :: rest => do
      let (k, rest) ← readText rest
      match skipGap rest with
      | ':' :: rest =>
        let (v, rest) ← readValue depth fuel (skipGap rest)
        match skipGap rest with
        | '\x7d' :: rest => return ([(k, v)], rest)
        | ',' :: rest =>
          let (entries, rest) ← readEntries depth fuel (skipGap rest)
          return ((k, v) :: entries, rest)
        | _ => throw .comma
      | _ => throw .colon
    | _ => .error .name

end

/-- Reads a whole text. -/
def readChars (s : List Char) : Except ReadProblem Value := do
  if s.head? == some '\uFEFF' then throw .byteOrderMark
  let (v, rest) ← readValue Value.maxDepth (2 * s.length + 2) (skipGap s)
  if (skipGap rest).isEmpty then return v else throw .extraData

/-- Reads a whole text. -/
def read (s : String) : Except ReadProblem Value := readChars s.toList

end RecordMapper.Json
