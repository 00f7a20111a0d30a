import RecordMapper.Calendar.Date
import RecordMapper.Number.Binary64

/-!
Moments: a day, a time of day with microseconds, and possibly an offset from universal time. A moment without an
offset is local to nobody; the library writes those in universal time.
-/
namespace RecordMapper

/-- A date and a time of day; `offset` counts microseconds east of universal time. -/
structure Moment where
  date : Date
  hour : Nat
  minute : Nat
  second : Nat
  micro : Nat
  offset : Option Int
  deriving Repr, DecidableEq, Inhabited

namespace Moment

/-- The least offset, in microseconds, that is too great on either side: a whole day. -/
def offsetBound : Int := 86400 * 1000000

/-- Whether the calendar and the clock have such a moment. -/
def isValid (t : Moment) : Bool :=
  t.date.isValid && t.hour < 24 && t.minute < 60 && t.second < 60 && t.micro < 1000000 &&
    t.offset.all fun o => -offsetBound < o && o < offsetBound

/-- A count of microseconds as `HH:MM`, with seconds and microseconds only where they are needed. -/
def offsetText (offset : Int) : List Char :=
  let n := offset.natAbs
  let micro := n % 1000000
  let seconds := n / 1000000 % 60
  let minutes := n / 60000000 % 60
  let hours := n / 3600000000
  (if offset < 0 then '-' else '+') :: Text.padded 2 hours ++ ':' :: Text.padded 2 minutes ++
    (if seconds == 0 && micro == 0 then [] else ':' :: Text.padded 2 seconds) ++
    (if micro == 0 then [] else '.' :: Text.padded 6 micro)

/-- Date and time of day with a separator between them, microseconds and the offset only if there are any. -/
def text (separator : Char) (t : Moment) : String :=
  String.ofList (t.date.text.toList ++ separator :: Text.padded 2 t.hour ++ ':' :: Text.padded 2 t.minute ++
    ':' :: Text.padded 2 t.second ++ (if t.micro == 0 then [] else '.' :: Text.padded 6 t.micro) ++
    (t.offset.elim [] offsetText))

/-- Why a number of seconds is no moment. -/
inductive EpochError where
  | notANumber
  | beyondClock
  | beyondCalendar
  | yearOutOfRange (year : Int)
  deriving Repr, DecidableEq

/-- The ordinal of the first of January 1970. -/
def epochDay : Int := 719163

/-- The moment `seconds` and `micro` after the start of 1970, as a moment without an offset. -/
def ofEpoch (seconds : Int) (micro : Nat) : Except EpochError Moment :=
  if seconds < -(pow2 63 : Int) || seconds ≥ pow2 63 then .error .beyondClock
  else
    let day := epochDay + seconds.fdiv 86400
    let rest := (seconds.fmod 86400).toNat
    match Date.ofOrdinal? day with
    | some date => .ok ⟨date, rest / 3600, rest / 60 % 60, rest % 60, micro, none⟩
    | none =>
      let year := (Date.yearAndDay day).1
      if year - 1900 < -(pow2 31 : Int) || year - 1900 ≥ pow2 31 then .error .beyondCalendar
      else .error (.yearOutOfRange (Int.bmod year (pow2 32)))

/-- The moment a float number of seconds after the start of 1970: the fraction is multiplied out as a float and
rounded to a microsecond, a tie going to the even one. -/
def ofEpochFloat (x : Float) : Except EpochError Moment :=
  match Binary64.truncate? x with
  | none => if x.isNaN then .error .notANumber else .error .beyondClock
  | some whole =>
    let fraction := (x - Binary64.ofInt whole) * 1e6
    let micros : Int :=
      match Binary64.toFraction? fraction with
      | some (num, den) =>
        let n : Int := Binary64.roundDiv num.natAbs den
        if num < 0 then -n else n
      | none => 0
    if micros ≥ 1000000 then ofEpoch (whole + 1) (micros - 1000000).toNat
    else if micros < 0 then ofEpoch (whole - 1) (micros + 1000000).toNat
    else ofEpoch whole micros.toNat

end Moment

end RecordMapper
