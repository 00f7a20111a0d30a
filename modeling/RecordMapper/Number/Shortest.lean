import RecordMapper.Number.Binary64
import RecordMapper.Text.Digit

/-!
The shortest decimal text of a float: the fewest digits that read back as the same float, and of those the
nearest to it. A float `m · 2 ^ q` is read back from every number between its two half-way neighbours, the
half-way points included when `m` is even; for one, two, … seventeen digits the two decimals around the float
are tried.
-/
namespace RecordMapper.Shortest

open RecordMapper.Binary64

/-- A decimal number `digits · 10 ^ exponent`. -/
structure Decimal where
  digits : Nat
  exponent : Int
  deriving Repr, DecidableEq

/-- The numbers that read back as one float, as multiples of `unit = num / den`: the float itself is `value`,
its half-way neighbours are `low` and `high`. -/
structure Span where
  value : Nat
  low : Nat
  high : Nat
  closed : Bool
  num : Nat
  den : Nat

/-- The span of `m · 2 ^ q` in quarters of its unit, for half the gap below a power of two is a quarter. -/
def span (m : Nat) (q : Int) : Span :=
  let low := if m == pow2 52 && q > -1074 then 4 * m - 1 else 4 * m - 2
  let (num, den) := if q ≥ 2 then (pow2 (q - 2).toNat, 1) else (1, pow2 (2 - q).toNat)
  ⟨4 * m, low, 4 * m + 2, m % 2 == 0, num, den⟩

/-- Whether `d · 10 ^ e` lies in the span. -/
def Span.holds (s : Span) (d : Nat) (e : Int) : Bool :=
  let (a, b) := if e ≥ 0 then (d * pow10 e.toNat * s.den, s.num) else (d * s.den, s.num * pow10 (-e).toNat)
  if s.closed then s.low * b ≤ a && a ≤ s.high * b else s.low * b < a && a < s.high * b

/-- The two decimals with last place `10 ^ e` around the value: the lower one, and whether it is the nearer. -/
def Span.around (s : Span) (e : Int) : Nat × Bool :=
  let (a, b) :=
    if e ≥ 0 then (s.value * s.num, s.den * pow10 e.toNat) else (s.value * s.num * pow10 (-e).toNat, s.den)
  let d := a / b
  (d, 2 * (a % b) < b || (2 * (a % b) == b && d % 2 == 0))

/-- The decimal of `n` digits that reads back, for a value below `10 ^ top`. -/
def Span.hit? (s : Span) (top : Int) (n : Nat) : Option Decimal :=
  let e := top - n
  let (d, lowerNearer) := s.around e
  match s.holds d e, s.holds (d + 1) e with
  | true, true => some ⟨if lowerNearer then d else d + 1, e⟩
  | true, false => some ⟨d, e⟩
  | false, true => some ⟨d + 1, e⟩
  | false, false => none

/-- The least power of ten above `num / den`, as its exponent; `guess` is close to it. -/
def topOf (num den : Nat) : Int :=
  let below (e : Int) : Bool := if e ≥ 0 then num < den * pow10 e.toNat else num * pow10 (-e).toNat < den
  let guess : Int := ((num.log2 : Int) - den.log2) * 30103 / 100000
  if below (guess - 1) then guess - 1
  else if below guess then guess
  else if below (guess + 1) then guess + 1
  else guess + 2

/-- Drops the zeros at the end of the digits. -/
def Decimal.normalize (fuel : Nat) (d : Decimal) : Decimal :=
  match fuel with
  | 0 => d
  | fuel + 1 =>
    if d.digits != 0 && d.digits % 10 == 0 then normalize fuel ⟨d.digits / 10, d.exponent + 1⟩ else d

/-- The shortest decimal that reads back as `m · 2 ^ q`, with `m` positive. -/
def decimal (m : Nat) (q : Int) : Decimal :=
  let s := span m q
  let top := topOf (s.value * s.num) s.den
  let found := (List.range 17).findSome? fun n => s.hit? top (n + 1)
  (found.getD ⟨(s.around (top - 17)).1, top - 17⟩).normalize 20

/-- How a decimal is written: positional for exponents of its first digit from `least` to below `most`, and
with an exponent of at least `width` digits otherwise. -/
structure Layout where
  least : Int
  most : Int
  width : Nat

/-- Floats are positional from `0.0001` to below `1e16`. -/
def everyday : Layout := ⟨-4, 16, 2⟩

/-- The text of a positive decimal. A whole number keeps one zero after the point. -/
def Layout.write (style : Layout) (d : Decimal) : List Char :=
  let digits := Nat.toDigits 10 d.digits
  let lead := d.exponent + digits.length - 1
  if style.least ≤ lead && lead < style.most then
    if lead < 0 then '0' :: '.' :: List.replicate (-lead - 1).toNat '0' ++ digits
    else
      let whole := lead.toNat + 1
      let after := digits.drop whole
      digits.take whole ++ List.replicate (whole - digits.length) '0' ++ '.' ::
        (if after.isEmpty then ['0'] else after)
  else
    let tail := digits.drop 1
    digits.take 1 ++ (if tail.isEmpty then [] else '.' :: tail) ++
      'e' :: (if lead < 0 then '-' else '+') :: Text.padded style.width lead.natAbs

/-- The names of the floats that no digits can write. -/
structure SpecialNames where
  nan : String
  infinity : String

/-- The text of a float. -/
def text (names : SpecialNames) (x : Float) : String :=
  let signed (negative : Bool) (s : List Char) : String := String.ofList (if negative then '-' :: s else s)
  match parts x with
  | .nan => names.nan
  | .infinite negative => signed negative names.infinity.toList
  | .finite negative m q => signed negative (if m == 0 then ['0', '.', '0'] else everyday.write (decimal m q))

end RecordMapper.Shortest
