import RecordMapper.Number.Binary64
import RecordMapper.Text.Digit

/-!
Reading numbers that people write. White space may stand around a number, one underscore may stand between two
digits, and digits may come from any script. An integer has at most 4300 digits, which are counted before anything
behind them is looked at, and no longer one is written; a decimal is read exactly and rounded once.
-/
namespace RecordMapper.Numeral

open RecordMapper.Text RecordMapper.Binary64

/-- Why a text is no integer. -/
inductive IntegerError where
  | malformed
  | tooLong (digits : Nat)
  deriving Repr, DecidableEq

/-- The longest integer text that is read or written, in digits. -/
def maxDigits : Nat := 4300

/-- Whether an integer has too many digits to be written. -/
def isTooLong (n : Int) : Bool := maxDigits < (Nat.toDigits 10 n.natAbs).length

/-- The message about an integer with too many digits to be written. -/
def tooLongToWrite : String :=
  "Exceeds the limit (4300 digits) for integer string conversion; use sys.set_int_max_str_digits() to increase the limit"

/-- The digits at the front of a text, with single underscores between them, and what follows; `afterDigit` tells
that a digit has just been read. -/
def integerDigits? (afterDigit : Bool) : List Char → Option (List Nat × List Char)
  | [] => if afterDigit then some ([], []) else none
  | c :: rest =>
    match asciiDigit? c with
    | some d => (integerDigits? true rest).map fun (digits, rest) => (d :: digits, rest)
    | none =>
      if !afterDigit then none
      else if c == '_' then integerDigits? false rest
      else some ([], c :: rest)

/-- The number that decimal digits write. -/
def ofDigits (digits : List Nat) : Nat := digits.foldl (fun n d => 10 * n + d) 0

/-- A sign and what follows it; no sign is a plus. -/
def takeSign : List Char → Bool × List Char
  | '-' :: rest => (true, rest)
  | '+' :: rest => (false, rest)
  | s => (false, s)

/-- Reads an integer. -/
def readInt (s : List Char) : Except IntegerError Int :=
  let (negative, body) := takeSign ((narrow s).dropWhile isSpace)
  match integerDigits? false body with
  | none => .error .malformed
  | some (digits, rest) =>
    if digits.length > maxDigits then .error (.tooLong digits.length)
    else if !rest.all isSpace then .error .malformed
    else .ok (if negative then -(ofDigits digits : Int) else ofDigits digits)

/-- A text without its underscores, if each stands between two ASCII digits; `previous` is the character before. -/
def dropUnderscores? (previous : Char) : List Char → Option (List Char)
  | [] => if previous == '_' then none else some []
  | c :: rest =>
    if c == '_' then (if previous.isDigit then dropUnderscores? c rest else none)
    else if previous == '_' && !c.isDigit then none
    else (dropUnderscores? c rest).map (c :: ·)

/-- The float `± digits · 10 ^ exponent`, for a magnitude outside the range of floats without the arithmetic. -/
def scientific (negative : Bool) (digits : List Nat) (exponent : Int) : Float :=
  let significant := digits.dropWhile (· == 0)
  let magnitude := exponent + significant.length
  if significant.isEmpty || magnitude < -400 then nearest negative 0 1
  else if magnitude > 400 then infinity negative
  else if exponent ≥ 0 then nearest negative (ofDigits significant * pow10 exponent.toNat) 1
  else nearest negative (ofDigits significant) (pow10 (-exponent).toNat)

/-- The digits at the front of a text, and the rest. -/
def spanDigits (s : List Char) : List Nat × List Char :=
  ((s.takeWhile Char.isDigit).filterMap asciiDigit?, s.dropWhile Char.isDigit)

/-- An exponent at the end of a decimal: nothing, or `e` with an integer. -/
def readExponent? : List Char → Option Int
  | [] => some 0
  | c :: rest =>
    if c == 'e' || c == 'E' then
      let (negative, body) := takeSign rest
      match spanDigits body with
      | ([], _) => none
      | (digits, []) => some (if negative then -(ofDigits digits : Int) else ofDigits digits)
      | _ => none
    else none

/-- Reads an unsigned decimal: digits with an optional point and an optional exponent. -/
def readMagnitude? (negative : Bool) (s : List Char) : Option Float :=
  let (whole, rest) := spanDigits s
  let (fraction, rest) :=
    match rest with
    | '.' :: tail => spanDigits tail
    | tail => ([], tail)
  if whole.isEmpty && fraction.isEmpty then none
  else (readExponent? rest).map fun e => scientific negative (whole ++ fraction) (e - fraction.length)

/-- Reads a decimal or the name of an infinity or of no number, in letters of either case. -/
def readFloat? (s : List Char) : Option Float :=
  match dropUnderscores? ' ' (trimWhile isSpace (narrow s)) with
  | none => none
  | some text =>
    let (negative, body) := takeSign text
    let word := String.ofList (body.map Char.toLower)
    if word == "inf" || word == "infinity" then some (infinity negative)
    else if word == "nan" then some nan
    else readMagnitude? negative body

end RecordMapper.Numeral
