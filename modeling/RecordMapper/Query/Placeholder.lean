import RecordMapper.Fault.Failure

/-!
Question marks that stand for values. A text is read from the left: a quote character opens a literal that runs to
the next quote character of the same sort, and a question mark outside literals is a slot. `Segments.join` puts the
text together again around whatever fills the slots.
-/
namespace RecordMapper

/-- The text around the slots of a statement: what stands before the first, and what follows each. -/
structure Segments where
  first : List Char
  rest : List (List Char)
  deriving Repr, DecidableEq, Inhabited

namespace Segments

/-- A character in front of the first segment. -/
def cons (c : Char) (s : Segments) : Segments := ⟨c :: s.first, s.rest⟩

/-- A slot in front of the first segment. -/
def slot (s : Segments) : Segments := ⟨[], s.first :: s.rest⟩

/-- The segments as texts. -/
def toList (s : Segments) : List (List Char) := s.first :: s.rest

/-- The number of slots. -/
def slots (s : Segments) : Nat := s.rest.length

/-- The text with its slots filled by one text. -/
def join (filler : List Char) (s : Segments) : List Char := s.first ++ s.rest.flatMap (filler ++ ·)

end Segments

/-- The characters that open and close literals. -/
def isQuote (c : Char) : Bool := c == '\'' || c == '"' || c == '\x60'

/-- The segments of a text, read from inside a literal or from outside. -/
def segmentsFrom : Option Char → List Char → Segments
  | _, [] => ⟨[], []⟩
  | some quote, c :: rest => (segmentsFrom (if c == quote then none else some quote) rest).cons c
  | none, c :: rest =>
    if isQuote c then (segmentsFrom (some c) rest).cons c
    else if c == '?' then (segmentsFrom none rest).slot
    else (segmentsFrom none rest).cons c

/-- The segments of a statement. -/
def segments (sql : String) : Segments := segmentsFrom none sql.toList

/-- The texts around the slots of a statement. -/
def splitPlaceholders (sql : String) : List String := (segments sql).toList.map String.ofList

/-- What stands in a statement for a list of values: one slot for each, or `NULL` for none. -/
def slotsFor (items : List Value) : List Char :=
  if items.isEmpty then "NULL".toList else ", ".toList.intercalate (items.map fun _ => ['?'])

/-- Text and bindings of the segments behind their slots, each list widened to as many slots as it has items;
`none` if a slot has no binding. Bindings without a slot stay as they are. -/
def expandRest : List (List Char) → List Value → Option (List Char × List Value)
  | [], params => some ([], params)
  | _ :: _, [] => none
  | segment :: rest, v :: params =>
    (expandRest rest params).map fun (text, flat) =>
      match v with
      | .list items => (slotsFor items ++ segment ++ text, items ++ flat)
      | v => ('?' :: segment ++ text, v :: flat)

/-- The failure of a statement with more slots than bindings. -/
def tooFewBindings : Failure := .ofPlain .value "statement has more placeholders than bindings"

/-- A statement whose list bindings are widened to one slot per item; without a list nothing is looked at. -/
def expandBindings (sql : String) (params : List Value) : Except Failure (String × List Value) :=
  if !params.any Value.isList then .ok (sql, params)
  else
    let parts := segments sql
    match expandRest parts.rest params with
    | none => .error tooFewBindings
    | some (text, flat) => .ok (String.ofList (parts.first ++ text), flat)

end RecordMapper
