import RecordMapper.Calendar.Moment
import RecordMapper.Number.Basic

/-!
Values: what a column, a binding or a setting can hold. A dictionary keeps its entries in the order in which their
keys first came, and no two of its keys are the same key: `Value.sameKey` says when two are, and `Value.setEntry`
is the one way to add to it.
-/
namespace RecordMapper

/-- A value. `fragment` is text as code points where some are surrogates without a partner, which no sequence of
characters spells. -/
inductive Value where
  | null
  | bool (b : Bool)
  | int (n : Int)
  | real (x : Float)
  | text (s : String)
  | fragment (points : List Nat)
  | bytes (octets : List UInt8)
  | moment (t : Moment)
  | date (d : Date)
  | list (items : List Value)
  | dict (entries : List (Value × Value))
  deriving Inhabited

namespace Value

/-- How deep lists and dictionaries may be nested where a value is read from a text or has one. -/
def maxDepth : Nat := 990

/-- Whether the value is present. -/
def isNull : Value → Bool
  | null => true
  | _ => false

/-- Whether the value is a list. -/
def isList : Value → Bool
  | list _ => true
  | _ => false

/-- Empty, zero and absent values do not count as true. -/
def isTruthy : Value → Bool
  | null => false
  | bool b => b
  | int n => n != 0
  | real x => !(x == 0.0)
  | text s => !s.isEmpty
  | fragment points => !points.isEmpty
  | bytes octets => !octets.isEmpty
  | moment _ => true
  | date _ => true
  | list items => !items.isEmpty
  | dict entries => !entries.isEmpty

/-- The value as a number, truth values being one and zero. -/
def toNumber? : Value → Option Number
  | bool b => some (.whole (if b then 1 else 0))
  | int n => some (.whole n)
  | real x => some (.real x)
  | _ => none

/-- A number as a value. -/
def ofNumber : Number → Value
  | .whole n => int n
  | .real x => real x

/-- What the value consists of, if it consists of anything: the items of a list, the characters of a text, the
numbers of octets, the keys of a dictionary. -/
def elements? : Value → Option (List Value)
  | list items => some items
  | text s => some (s.toList.map fun c => text c.toString)
  | bytes octets => some (octets.map fun b => int b.toNat)
  | dict entries => some (entries.map Prod.fst)
  | _ => none

/-- Text from code points. -/
def ofPoints (points : List Nat) : Value :=
  match points.mapM fun n => if n.isValidChar then some (Char.ofNat n) else none with
  | some chars => text (String.ofList chars)
  | none => fragment points

/-- Whether two exact numbers are equal. -/
def sameNumber (x y : Number) : Bool :=
  match x, y with
  | .whole a, .whole b => a == b
  | .real a, .real b => a == b
  | .whole a, .real b | .real b, .whole a => Binary64.toInt? b == some a

/-- Whether two values are one key. Numbers are one key if they are equal, whatever their kind; a NaN is no key
but itself, and so are lists and dictionaries. -/
def sameKey (x y : Value) : Bool :=
  match x.toNumber?, y.toNumber? with
  | some a, some b => sameNumber a b
  | _, _ =>
    match x, y with
    | null, null => true
    | text s, text t => s == t
    | fragment p, fragment q => p == q
    | bytes a, bytes b => a == b
    | moment s, moment t => s == t
    | date d, date e => d == e
    | _, _ => false

/-- Sets an entry: at the place of its key if there is one, else at the end. -/
def setEntry (key value : Value) : List (Value × Value) → List (Value × Value)
  | [] => [(key, value)]
  | (k, v) :: rest => if k.sameKey key then (k, value) :: rest else (k, v) :: setEntry key value rest

/-- The dictionary of entries given one after another. -/
def dictOf (entries : List (Value × Value)) : Value :=
  dict (entries.foldl (fun done (k, v) => setEntry k v done) [])

end Value

end RecordMapper
