import RecordMapper.Number.Binary64

/-!
Numbers as settings and page arithmetic have them: integers of any size and floats side by side. Comparison is
exact across the two kinds; an operation on two integers stays an integer where it can, and is a float otherwise.
-/
namespace RecordMapper

open Binary64

/-- An integer or a float. -/
inductive Number where
  | whole (n : Int)
  | real (x : Float)

namespace Number

/-- Why an operation on numbers has no result. -/
inductive Problem where
  | overflow
  | divisionByZero
  | notANumber
  deriving Repr, DecidableEq

instance : Inhabited Number := ⟨whole 0⟩

/-- An integer as a float, if it is not beyond the greatest. -/
def floatOfInt (n : Int) : Except Problem Float :=
  let x := ofInt n
  if isFinite x then .ok x else .error .overflow

/-- The number as a float. -/
def toFloat : Number → Except Problem Float
  | whole n => floatOfInt n
  | real x => .ok x

/-- Whether an integer is less than a float. -/
def intLtFloat (n : Int) (x : Float) : Bool :=
  match parts x, toFraction? x with
  | .nan, _ => false
  | .infinite negative, _ => !negative
  | _, some (num, den) => n * den < num
  | _, none => false

/-- Whether a float is less than an integer. -/
def floatLtInt (x : Float) (n : Int) : Bool :=
  match parts x, toFraction? x with
  | .nan, _ => false
  | .infinite negative, _ => negative
  | _, some (num, den) => num < n * den
  | _, none => false

/-- Exact comparison; nothing is less than a NaN, and a NaN less than nothing. -/
def lt : Number → Number → Bool
  | whole a, whole b => a < b
  | whole a, real y => intLtFloat a y
  | real x, whole b => floatLtInt x b
  | real x, real y => x < y

/-- Whether the number is zero, of either sign. -/
def isZero : Number → Bool
  | whole n => n == 0
  | real x => x == 0.0

/-- Applies an integer operation to two integers, a float operation otherwise. -/
def arith (onInts : Int → Int → Int) (onFloats : Float → Float → Float) :
    Number → Number → Except Problem Number
  | whole a, whole b => .ok (whole (onInts a b))
  | x, y => do return real (onFloats (← x.toFloat) (← y.toFloat))

def add : Number → Number → Except Problem Number := arith (· + ·) (· + ·)
def sub : Number → Number → Except Problem Number := arith (· - ·) (· - ·)
def mul : Number → Number → Except Problem Number := arith (· * ·) (· * ·)

/-- The floor of the exact quotient of two floats, of the quotient itself when it is no finite number. -/
def floorDivFloat (x y : Float) : Float :=
  match toFraction? x, toFraction? y with
  | some (a, b), some (c, d) =>
    let q := Int.fdiv (a * d) (b * c)
    if q == 0 then nearest (x / y < 0.0 || (1.0 / (x / y)) < 0.0) 0 1 else ofInt q
  | some (a, _), none => if (Binary64.parts y == .nan) then nan else if a == 0 || (a < 0) == (y < 0.0) then x / y else -1.0
  | none, _ => nan

/-- Division rounded towards minus infinity. -/
def floorDiv : Number → Number → Except Problem Number
  | whole a, whole b => if b == 0 then .error .divisionByZero else .ok (whole (Int.fdiv a b))
  | x, y => do
    let y ← y.toFloat
    let x ← x.toFloat
    if y == 0.0 then .error .divisionByZero else return real (floorDivFloat x y)

/-- Division; the quotient of two integers is the float nearest to the exact one. -/
def div : Number → Number → Except Problem Float
  | whole a, whole b =>
    if b == 0 then .error .divisionByZero
    else
      let x := nearest ((a < 0) != (b < 0) && a != 0) a.natAbs b.natAbs
      if isFinite x then .ok x else .error .overflow
  | x, y => do
    let y ← y.toFloat
    let x ← x.toFloat
    if y == 0.0 then .error .divisionByZero else return x / y

/-- The least integer not below a float. -/
def ceil (x : Float) : Except Problem Int :=
  match parts x, toFraction? x with
  | .nan, _ => .error .notANumber
  | _, some (num, den) => .ok (-(Int.fdiv (-num) den))
  | _, none => .error .overflow

/-- The number without its fraction. -/
def truncate : Number → Except Problem Int
  | whole n => .ok n
  | real x =>
    match parts x, truncate? x with
    | .nan, _ => .error .notANumber
    | _, some n => .ok n
    | _, none => .error .overflow

/-- Two to an integer power: an integer, or a float for a negative power. -/
def twoPow (k : Int) : Number :=
  if k ≥ 0 then whole (pow2 k.toNat)
  else if k < -1100 then real 0.0
  else real (nearest false 1 (pow2 (-k).toNat))

/-- The first of the two unless the second is less. -/
def min (x y : Number) : Number := if y.lt x then y else x

end Number

end RecordMapper
