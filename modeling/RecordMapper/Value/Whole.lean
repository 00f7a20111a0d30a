import RecordMapper.Fault.Failure
import RecordMapper.Json.Reader
import RecordMapper.Number.Numeral

/-!
The integer that a value is or spells: truth values are one and zero, a float loses its fraction, texts and octets
are read. What has no integer is an error of the kind that says why.
-/
namespace RecordMapper.Value

/-- The message about a text that is no integer; a long text is cut after 200 characters. -/
def notAnInteger (quoted : String) : String :=
  "invalid literal for int() with base 10: " ++ String.ofList (quoted.toList.take 200)

/-- The failure of a text that is no integer. -/
def integerFailure (quoted : String) : Numeral.IntegerError → Failure
  | .malformed => .ofPlain .value (notAnInteger quoted)
  | .tooLong digits => .ofPlain .value (Json.ReadProblem.message (.tooLong digits))

/-- The failure of an operation on numbers. -/
def numberFailure : Number.Problem → Failure
  | .overflow => .ofPlain .overflow "the number is too large"
  | .divisionByZero => .ofPlain .zeroDivision "division by zero"
  | .notANumber => .ofPlain .value "cannot convert float NaN to integer"

/-- The integer of a value. -/
def toInt : Value → Except Failure Int
  | bool b => .ok (if b then 1 else 0)
  | int n => .ok n
  | real x => (Number.truncate (.real x)).mapError numberFailure
  | text s => (Numeral.readInt s.toList).mapError (integerFailure (Text.quoted s))
  | bytes octets =>
    (Numeral.readInt (octets.map fun b => if b < 128 then Char.ofNat b.toNat else '?')).mapError
      (integerFailure (Text.quotedOctets octets))
  | _ => .error (.ofPlain .wrongKind "the value is no integer")

end RecordMapper.Value
