import RecordMapper.Fault.Failure
import RecordMapper.Text.Letter
import RecordMapper.Text.Split

/-!
Which errors may pass if one tries again: those of connections and waits, those with one of the listed numbers or
names, and those whose text has one of the listed phrases. `classify` puts an error into the fault that says which.
-/
namespace RecordMapper

namespace PlainError

/-- System error numbers of broken, refused and unreachable connections. -/
def transientNumbers : List Int := [104, 111, 110, 113, 101, 32]

/-- Server and client error numbers of lost connections. -/
def transientCodes : List Int := [2002, 2003, 2006, 2013, 2055, 1040, 1053, 1077, 1152, 1159, 1160, 1161]

/-- Error names of lost connections, in capitals. -/
def transientNames : List String :=
  ["PROTOCOL_CONNECTION_LOST", "ECONNRESET", "ECONNREFUSED", "ETIMEDOUT", "EHOSTUNREACH",
   "PROTOCOL_SEQUENCE_TIMEOUT", "ER_SERVER_GONE_ERROR"]

/-- Phrases of lost connections, in small letters. -/
def transientPhrases : List String :=
  ["server has gone away", "lost connection", "connection reset", "connection refused", "timed out",
   "host unreachable", "broken pipe"]

/-- The first argument, if it is a number that can be a code. -/
def leadingNumber (e : PlainError) : Value :=
  match e.args with
  | .int n :: _ => .int n
  | .bool b :: _ => .bool b
  | _ => .null

/-- The code of an error: the one that it was given, else the system's number, else a leading number. -/
def errorCode (e : PlainError) : Value :=
  let given := e.code.getD .null
  if !given.isNull then given
  else if !e.number.isNull then e.number
  else e.leadingNumber

/-- Whether a code is listed, a name in letters of any case. -/
def isTransientCode : Value → Bool
  | .int n => transientCodes.contains n
  | .text s => transientNames.contains (Text.toCapitals s)
  | _ => false

/-- Whether the system's number is listed. -/
def hasTransientNumber (e : PlainError) : Bool :=
  e.kind.isSystem && transientNumbers.any fun n => Value.sameKey (.int n) e.number

/-- Whether a text has a listed phrase, in letters of any case. -/
def hasTransientPhrase (text : String) : Bool :=
  let small := (Text.toSmall text).toList
  transientPhrases.any fun phrase => Text.hasInfix phrase.toList small

/-- Whether the error may pass. -/
def isTransient (e : PlainError) : Bool :=
  e.kind.isConnection || e.kind == .timeout || e.hasTransientNumber || isTransientCode e.errorCode ||
    hasTransientPhrase e.text

/-- The details that a fault keeps of the error it was made from. -/
def details (e : PlainError) : Row :=
  ("error_type", .text e.kind.name) :: if e.errorCode.isNull then [] else [("error_code", e.errorCode)]

end PlainError

namespace Error

/-- Whether the error may pass; a fault says so itself. -/
def isTransient : Error → Bool
  | fault f => f.retryable
  | plain e => e.isTransient

/-- The fault of an error: the fault that it is, or a transient or permanent one made from it. -/
def classify : Error → Fault
  | fault f => f
  | plain e =>
    let reason := (plain e).reason
    if e.isTransient then .transient reason e.details else .permanent reason e.details

end Error

end RecordMapper
