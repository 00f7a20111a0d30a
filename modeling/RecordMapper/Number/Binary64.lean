import RecordMapper.Number.Power

/-!
Double-precision floats as exact numbers. A finite float is `± m · 2 ^ q` with natural `m`; `nearest` goes the
other way, from a quotient of natural numbers to the float closest to it, a tie going to the even neighbour.
All decimal reading and writing, and every exact operation on floats, goes through these two.
-/
namespace RecordMapper.Binary64

/-- A float taken apart. -/
inductive Parts where
  | nan
  | infinite (negative : Bool)
  | finite (negative : Bool) (m : Nat) (q : Int)
  deriving Repr, DecidableEq

/-- The exact number that a float is. -/
def parts (x : Float) : Parts :=
  let bits := x.toBits.toNat
  let negative : Bool := pow2 63 ≤ bits
  let exponent : Nat := bits / pow2 52 % pow2 11
  let fraction : Nat := bits % pow2 52
  if exponent == 2047 then (if fraction == 0 then .infinite negative else .nan)
  else if exponent == 0 then .finite negative fraction (-1074)
  else .finite negative (pow2 52 + fraction) ((exponent : Int) - 1075)

/-- `num / den` rounded to a natural number, a tie going to the even neighbour. -/
def roundDiv (num den : Nat) : Nat :=
  let q := num / den
  let twice := 2 * (num % den)
  if twice > den || (twice == den && q % 2 == 1) then q + 1 else q

/-- `num · 2 ^ (-q)` and `den` as natural numbers with the same quotient. -/
def scaled (num den : Nat) (q : Int) : Nat × Nat :=
  if q ≥ 0 then (num, den * pow2 q.toNat) else (num * pow2 (-q).toNat, den)

/-- The exponent that leaves a 53-bit quotient, or the least exponent that floats have. -/
def exponentOf (num den : Nat) : Int :=
  let guess : Int := (num.log2 : Int) - den.log2 - 52
  let (n, d) := scaled num den guess
  max (-1074) (if n / d ≥ pow2 53 then guess + 1 else if n / d < pow2 52 then guess - 1 else guess)

/-- The float nearest to `num / den`, infinity beyond the greatest; `den` is not zero. -/
def nearest (negative : Bool) (num den : Nat) : Float :=
  let sign : Nat := if negative then pow2 63 else 0
  let q := exponentOf num den
  let (n, d) := scaled num den q
  let m := roundDiv n d
  let (m, q) := if m == pow2 53 then (pow2 52, q + 1) else (m, q)
  let magnitude :=
    if num == 0 then 0
    else if m < pow2 52 then m
    else if q > 971 then 2047 * pow2 52
    else (q + 1075).toNat * pow2 52 + (m - pow2 52)
  Float.ofBits (sign + magnitude).toUInt64

/-- The float nearest to an integer. -/
def ofInt (n : Int) : Float := nearest (n < 0) n.natAbs 1

/-- Neither infinite nor a NaN. -/
def isFinite (x : Float) : Bool :=
  match parts x with
  | .finite .. => true
  | _ => false

/-- `m · 2 ^ q` without its fraction. -/
def wholePart (m : Nat) (q : Int) : Nat :=
  if q ≥ 0 then m * pow2 q.toNat else m / pow2 (-q).toNat

/-- Whether `m · 2 ^ q` has no fraction. -/
def isWhole (m : Nat) (q : Int) : Bool :=
  q ≥ 0 || m % pow2 (-q).toNat == 0

/-- A finite float without its fraction. -/
def truncate? (x : Float) : Option Int :=
  match parts x with
  | .finite negative m q => some (if negative then -(wholePart m q : Int) else wholePart m q)
  | _ => none

/-- The integer that a float is, if it is one. -/
def toInt? (x : Float) : Option Int :=
  match parts x with
  | .finite negative m q =>
    if isWhole m q then some (if negative then -(wholePart m q : Int) else wholePart m q) else none
  | _ => none

/-- A finite float as an exact fraction with a positive denominator. -/
def toFraction? (x : Float) : Option (Int × Nat) :=
  match parts x with
  | .finite negative m q =>
    let (num, den) := if q ≥ 0 then (m * pow2 q.toNat, 1) else (m, pow2 (-q).toNat)
    some (if negative then -(num : Int) else num, den)
  | _ => none

/-- The float rounded to `places` decimal places, a tie going to the even neighbour. -/
def roundPlaces (places : Nat) (x : Float) : Float :=
  match toFraction? x, parts x with
  | some (num, den), .finite negative _ _ =>
    nearest negative (roundDiv (num.natAbs * pow10 places) den) (pow10 places)
  | _, _ => x

/-- The infinity of a sign. -/
def infinity (negative : Bool) : Float := nearest negative (pow2 2000) 1

/-- The float that is no number. -/
def nan : Float := Float.ofBits 0x7ff8000000000000

end RecordMapper.Binary64
