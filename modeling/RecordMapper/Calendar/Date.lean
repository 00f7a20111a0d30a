import RecordMapper.Text.Digit

/-!
Days of the Gregorian calendar, years 1 to 9999. Days are numbered from 1 on the first of January of year 1, so
that arithmetic on dates is arithmetic on numbers.
-/
namespace RecordMapper

/-- A day by year, month and day of the month. -/
structure Date where
  year : Nat
  month : Nat
  day : Nat
  deriving Repr, DecidableEq, Inhabited

namespace Date

def isLeap (year : Nat) : Bool :=
  year % 4 == 0 && (year % 100 != 0 || year % 400 == 0)

def daysInMonth (year month : Nat) : Nat :=
  if month == 2 then (if isLeap year then 29 else 28)
  else if month == 4 || month == 6 || month == 9 || month == 11 then 30
  else 31

/-- Whether the calendar has such a day. -/
def isValid (d : Date) : Bool :=
  1 ≤ d.year && d.year ≤ 9999 && 1 ≤ d.month && d.month ≤ 12 && 1 ≤ d.day && d.day ≤ daysInMonth d.year d.month

/-- The days before the first of January of a year. -/
def daysBeforeYear (year : Nat) : Int :=
  let y : Int := (year : Int) - 1
  y * 365 + y.fdiv 4 - y.fdiv 100 + y.fdiv 400

/-- The days of a year before the first of a month. -/
def daysBeforeMonth (year month : Nat) : Nat :=
  (List.range (month - 1)).foldl (fun days i => days + daysInMonth year (i + 1)) 0

/-- The number of a day. -/
def toOrdinal (d : Date) : Int :=
  daysBeforeYear d.year + daysBeforeMonth d.year d.month + d.day

/-- Year and day of the year, from 0, of the day with a number. -/
def yearAndDay (ordinal : Int) : Int × Nat :=
  let n := ordinal - 1
  let era := n.fdiv 146097
  let n := n.fmod 146097
  let century := Min.min (n.fdiv 36524) 3
  let n := n - century * 36524
  let four := n.fdiv 1461
  let n := n.fmod 1461
  let single := Min.min (n.fdiv 365) 3
  (era * 400 + century * 100 + four * 4 + single + 1, (n - single * 365).toNat)

/-- Month and day of the month of a day of the year, from 0. -/
def monthAndDay (year : Nat) (dayOfYear : Nat) : Nat × Nat :=
  let month := ((List.range 12).filter fun i => daysBeforeMonth year (i + 1) ≤ dayOfYear).length
  (month, dayOfYear - daysBeforeMonth year month + 1)

/-- The day with a number, if it is in years 1 to 9999. -/
def ofOrdinal? (ordinal : Int) : Option Date :=
  let (year, dayOfYear) := yearAndDay ordinal
  if 1 ≤ year && year ≤ 9999 then
    let (month, day) := monthAndDay year.toNat dayOfYear
    some ⟨year.toNat, month, day⟩
  else none

/-- The day of the week, Monday being 0. -/
def weekday (d : Date) : Int := (d.toOrdinal + 6).fmod 7

/-- The number of the Monday that starts the first week of a year, the week of its first Thursday. -/
def firstMonday (year : Nat) : Int :=
  let first := Date.toOrdinal ⟨year, 1, 1⟩
  let weekday := Date.weekday ⟨year, 1, 1⟩
  first - weekday + (if weekday > 3 then 7 else 0)

/-- The number of weeks of a year: 53 if it starts on a Thursday, or on a Wednesday of a leap year. -/
def weeksIn (year : Nat) : Nat :=
  let weekday := Date.weekday ⟨year, 1, 1⟩
  if weekday == 3 || (weekday == 2 && isLeap year) then 53 else 52

/-- The day with a year, a week and a day of the week, Monday being 1. -/
def ofWeek? (year week day : Nat) : Option Date :=
  if 1 ≤ week && week ≤ weeksIn year && 1 ≤ day && day ≤ 7 then
    ofOrdinal? (firstMonday year + (week - 1) * 7 + day - 1)
  else none

/-- The text `YYYY-MM-DD`. -/
def text (d : Date) : String :=
  String.ofList (Text.padded 4 d.year ++ '-' :: Text.padded 2 d.month ++ '-' :: Text.padded 2 d.day)

end Date

end RecordMapper
