import RecordMapper.Calendar.Moment
import RecordMapper.Text.Split

/-!
Reading moments in the forms of ISO 8601: `YYYY-MM-DD`, `YYYYMMDD`, `YYYY-Www-D` and `YYYYWwwD`, then any one
character and a time of day with or without colons, a fraction of which six digits count, and an offset.

The reader is lenient in two places, and on purpose the same everywhere: a third colon may introduce the fraction,
and one character may stand unread between a time of day and its offset.
-/
namespace RecordMapper.Moment

open RecordMapper.Text

/-- Exactly `n` ASCII digits at the front, as a number. -/
def takeNumber? : (n : Nat) → (s : List Char) → (value : Nat) → Option (Nat × List Char)
  | 0, s, value => some (value, s)
  | _ + 1, [], _ => none
  | n + 1, c :: rest, value => (asciiDigit? c).bind fun d => takeNumber? n rest (10 * value + d)

/-- The length of the date in front of the separator. Week dates need a look ahead: a digit behind
`YYYY-Www-D` says that the dash is the separator, and of the digits behind `YYYYWww` an odd number says that the
first belongs to the date. -/
def dateLength (s : List Char) : Nat :=
  let length := s.length
  let isDigitAt (i : Nat) : Bool := (s[i]?.map Char.isDigit).getD false
  if length == 7 then 7
  else if s[4]? == some '-' then
    if s[5]? == some 'W' then
      if s[8]? == some '-' then (if length > 10 && isDigitAt 10 then 8 else 10) else 8
    else 10
  else if s[4]? == some 'W' then
    let stop := 7 + ((s.drop 7).takeWhile Char.isDigit).length
    if stop < 9 then stop else if stop % 2 == 0 then 7 else 8
  else 8

/-- Reads a dash if dashes are in use. -/
def takeDash? (dashes : Bool) (s : List Char) : Option (List Char) :=
  if dashes then after? ['-'] s else some s

/-- Reads a date that is `length` characters long. -/
def readDate? (length : Nat) (s : List Char) : Option Date := do
  let (year, rest) ← takeNumber? 4 s 0
  let dashes := rest.head? == some '-'
  let rest := if dashes then rest.drop 1 else rest
  let used := if dashes then 5 else 4
  match rest with
  | 'W' :: rest =>
    let (week, rest) ← takeNumber? 2 rest 0
    if used + 3 < length then
      let rest ← takeDash? dashes rest
      let (day, _) ← takeNumber? 1 rest 0
      Date.ofWeek? year week day
    else Date.ofWeek? year week 1
  | _ =>
    let (month, rest) ← takeNumber? 2 rest 0
    let rest ← takeDash? dashes rest
    let (day, _) ← takeNumber? 2 rest 0
    let date : Date := ⟨year, month, day⟩
    if date.isValid then some date else none

/-- A time of day or an offset while it is read: the numbers so far, and whether the text ended with them. -/
structure Clock where
  hour : Nat
  minute : Nat
  second : Nat
  micro : Nat
  ended : Bool

/-- Sets the `i`-th of hour, minute and second. -/
def Clock.set (t : Clock) (i value : Nat) : Clock :=
  match i with
  | 0 => { t with hour := value }
  | 1 => { t with minute := value }
  | _ => { t with second := value }

/-- Reads a fraction: up to six digits count, further digits are skipped; `next` is what follows the text. -/
def readFraction? (t : Clock) (s : List Char) (next : Char) : Option Clock := do
  let width := Min.min s.length 6
  let (value, rest) ← takeNumber? width s 0
  let rest := rest.dropWhile Char.isDigit
  let after := rest.headD next
  return { t with micro := value * pow10 (6 - width), ended := after == '\x00' }

/-- Reads numbers from the `i`-th on. `next` is the character that follows the text, a null at the end of all. -/
def readClock? (next : Char) (colons : Bool) (t : Clock) : (fuel i : Nat) → List Char → Option Clock
  | 0, _, s => readFraction? t s next
  | fuel + 1, i, s => do
    let (value, rest) ← takeNumber? 2 s 0
    let t := t.set i value
    let c := rest.headD next
    let colons := if i == 0 then c == ':' else colons
    if rest.length ≤ 1 then return { t with ended := c == '\x00' }
    else if colons && c == ':' then readClock? next colons t fuel (i + 1) (rest.drop 1)
    else if c == '.' || c == ',' then readFraction? t (rest.drop 1) next
    else if !colons then readClock? next colons t fuel (i + 1) rest
    else none

/-- Reads hour, minute, second and fraction, as many as there are. -/
def Clock.read? (next : Char) (s : List Char) : Option Clock :=
  readClock? next true ⟨0, 0, 0, 0, true⟩ 3 0 s

/-- Reads an offset behind its sign; less than a second is no offset. -/
def readOffset? (negative : Bool) (s : List Char) : Option Int := do
  let t ← Clock.read? '\x00' s
  if !t.ended then none
  else
    let seconds := t.hour * 3600 + t.minute * 60 + t.second
    let micros : Int := if seconds == 0 then 0 else seconds * 1000000 + t.micro
    return if negative then -micros else micros

/-- Reads a time of day with its offset. -/
def readTime? (s : List Char) : Option (Clock × Option Int) := do
  let isMark (c : Char) : Bool := c == '+' || c == '-' || c == 'Z'
  let body := s.takeWhile (!isMark ·)
  match s.dropWhile (!isMark ·) with
  | [] =>
    let t ← Clock.read? '\x00' body
    if t.ended then some (t, none) else none
  | mark :: rest =>
    let t ← Clock.read? mark body
    if mark == 'Z' then (if rest.headD '\x00' == '\x00' then some (t, some 0) else none)
    else (readOffset? (mark == '-') rest).map fun o => (t, some o)

/-- A character as often as it has octets, so that lengths count octets; what is not ASCII is only counted. -/
def octets (c : Char) : List Char :=
  if c.toNat < 128 then [c] else List.replicate c.utf8Size '\uFFFD'

/-- Reads a moment; a date alone is its first moment. -/
def read? (s : List Char) : Option Moment := do
  let length := dateLength s
  let date ← readDate? length s
  match s.drop length with
  | [] => return ⟨date, 0, 0, 0, 0, none⟩
  | _ :: rest =>
    let (t, offset) ← readTime? (rest.flatMap octets)
    let moment : Moment := ⟨date, t.hour, t.minute, t.second, t.micro, offset⟩
    if moment.isValid then some moment else none

end RecordMapper.Moment
