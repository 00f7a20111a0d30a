import RecordMapper.Model.Chain
import RecordMapper.Model.Rounds

/-!
Reading rows with their relations. After the parents' rows come the related rows of each relation, by one question for
all parents; they are found by the text of their keys, and put into each parent's row under the relation's name.
Casts come before that and hidden columns go after it.

Relations are read together, and each notes after how many rounds it was done. If several fail, the failure that came
first counts, and of several at once that of the relation declared first.
-/
namespace RecordMapper

/-- A result or failure, and the number of rounds after which it was there. -/
structure Timed (α : Type) where
  height : Nat
  result : Except Failure α

/-- The text of a key, as code points. -/
abbrev KeyText := List Nat

/-- Related rows by key: those of a relation with many in order, and the last one otherwise. -/
inductive Related where
  | many (rows : List (KeyText × List Row))
  | one (rows : List (KeyText × Row))
  deriving Inhabited

namespace Hydration

/-- The text by which a key is found; it tells apart what only differs in surrogates. -/
def indexKey : Value → KeyText
  | .fragment points => points
  | v => v.shown.toList.map Char.toNat

/-- Notes the key of a row with its text, unless it has none or the text has been noted; the latest comes first. -/
def noteKey (column : String) (noted : List KeyText × List Value) (row : Row) : List KeyText × List Value :=
  let v := Row.value row column
  if v.isNull || noted.1.contains (indexKey v) then noted else (indexKey v :: noted.1, v :: noted.2)

/-- The keys of rows in the order in which they first come, each text once, nulls left out. -/
def uniqueKeys (rows : List Row) (column : String) : List Value :=
  (rows.foldl (noteKey column) ([], [])).2.reverse

/-- Adds a row to those of a key. -/
def append (key : KeyText) (row : Row) : List (KeyText × List Row) → List (KeyText × List Row)
  | [] => [(key, [row])]
  | (k, rows) :: rest => if k = key then (k, rows ++ [row]) :: rest else (k, rows) :: append key row rest

/-- The fault of a related row without the column that the relation goes by. -/
def missingKey (r : Relation) : Failure :=
  .ofFault (.integrity ("related row for '" ++ r.identifier ++ "' has no '" ++ r.relatedKey ++ "' field")
    Fault.integrityCode [("relation", .text r.identifier), ("field", .text r.relatedKey)])

/-- Each row with the text of its key. -/
def keyed (r : Relation) : List Row → Except Failure (List (KeyText × Row))
  | [] => .ok []
  | row :: rest =>
    let v := Row.value row r.relatedKey
    if v.isNull then .error (missingKey r)
    else do return (indexKey v, row) :: (← keyed r rest)

/-- Related rows by key. -/
def index (r : Relation) (rows : List Row) : Except Failure Related := do
  let pairs ← keyed r rows
  if r.isMany then return .many (pairs.foldl (fun done (key, row) => append key row done) [])
  else return .one pairs.reverse

/-- No related rows. -/
def noRows (r : Relation) : Related := if r.isMany then .many [] else .one []

/-- Rows as a list of dictionaries. -/
def rowsValue (rows : List Row) : Value := .list (rows.map Row.toValue)

/-- What a parent's row gets: a list of rows, one row, or null. -/
def valueFor (r : Relation) (related : Related) (row : Row) : Value :=
  let key := Row.value row r.parentKey
  match related with
  | .many rows => if key.isNull then .list [] else rowsValue ((rows.lookup (indexKey key)).getD [])
  | .one rows => if key.isNull then .null else ((rows.lookup (indexKey key)).map Row.toValue).getD .null

/-- A row with its related rows, put in one relation after another. -/
def attach (hydrated : List (Relation × Related)) (row : Row) : Row :=
  hydrated.foldl (fun row (r, related) => Row.set r.identifier (valueFor r related row) row) row

/-- A row as the caller gets it: cast, with its related rows, and without hidden columns. -/
def finishRow (s : Schema) (hydrated : List (Relation × Related)) (row : Row) : Except Failure Row := do
  let row ← Casts.apply .fromStorage s.castList row
  return s.hidden.foldl (fun row column => Row.erase column row) (attach hydrated row)

/-- The first failure of readings done together: that of least height, and of those the first. -/
def firstFailure {α : Type} : List (Timed α) → Option (Nat × Failure)
  | [] => none
  | t :: rest =>
    match t.result, firstFailure rest with
    | .ok _, later => later
    | .error e, none => some (t.height, e)
    | .error e, some (height, later) => if t.height ≤ height then some (t.height, e) else some (height, later)

/-- The results of readings done together, one round after the last of them or after the first failure. -/
def gather {α : Type} (readings : List (Timed α)) : Timed (List α) :=
  match firstFailure readings with
  | some (height, e) => ⟨height + 1, .error e⟩
  | none =>
    ⟨(readings.map Timed.height).foldl max 0 + 1,
      readings.mapM Timed.result⟩

/-- The rows of an answer; a list of dictionaries counts as rows. -/
def rows? : Answer → Option (List Row)
  | .rows rows => some rows
  | .value (.list items) => Row.ofItems? items
  | _ => none

/-- Whether an answer is a list, of rows or of anything else. -/
def isList : Answer → Bool
  | .rows _ => true
  | .value v => v.isList
  | .summary _ => false

/-- The related model of a relation, after the relation's own calls and the condition on its keys. -/
def relatedModel (classes : Catalogue) (r : Relation) (keys : List Value) : Except Failure Model := do
  let c ← (classes.byNumber? r.model).elim (.error Catalogue.noSuchClass) .ok
  let m ← Model.new c.schema
  let (m, outcome) := m.chain classes (r.callback.getD [])
  outcome
  let (m, outcome) := m.chain classes [.whereIn false r.relatedKey (.list keys)]
  outcome
  return m

/-- The condition that a row has not been deleted. -/
def notDeleted : Clause := .compare "deleted_at" "IS" (.text "NULL") Junction.and.word

/-- An intent that leaves out deleted rows, if the class keeps them and the chain does not ask for them. -/
def withoutDeleted (s : Schema) (i : Intent) : Intent :=
  if s.softDelete && !i.withTrashed then i.addConditions [notDeleted] else i

/-- The failure of a reading where there are no rows to be read. -/
def notRows : Failure := .ofPlain .wrongKind "the answer has no rows"

/-- How the rows that an intent of a class asks for are read. -/
abbrev Reader := Schema → Intent → Rounds (Timed Answer)

/-- The related rows of one relation; nothing is asked if no parent has a key. -/
def load (classes : Catalogue) (read : Reader) (rows : List Row) (r : Relation) : Rounds (Timed (Relation × Related)) :=
  let keys := uniqueKeys rows r.parentKey
  if keys.isEmpty then .done ⟨0, .ok (r, noRows r)⟩
  else match relatedModel classes r keys with
    | .error e => .done ⟨0, .error e⟩
    | .ok m =>
      (read m.schema (withoutDeleted m.schema m.intent)).map fun found =>
        ⟨found.height, do
          match rows? (← found.result) with
          | none => throw notRows
          | some rows => return (r, ← index r rows)⟩

/-- The related rows of relations, read together. -/
def hydrate (classes : Catalogue) (read : Reader) (rows : List Row) (relations : List Relation) :
    Rounds (Timed (List (Relation × Related))) :=
  if relations.isEmpty then .done ⟨0, .ok []⟩
  else (Rounds.together (relations.map (load classes read rows))).map gather

/-- Rows of a class with the relations asked for. -/
def finish (classes : Catalogue) (read : Reader) (s : Schema) (relations : List Relation) (rows : List Row) :
    Rounds (Timed Answer) :=
  if rows.isEmpty || relations.isEmpty then .done ⟨0, (rows.mapM (finishRow s [])).map .rows⟩
  else
    (hydrate classes read rows relations).map fun gathered =>
      ⟨gathered.height, do
        let hydrated ← gathered.result
        return .rows (← rows.mapM (finishRow s hydrated))⟩

/-- Reads what an intent of a class asks for; `fuel` bounds how deep relations are nested. -/
def read (classes : Catalogue) : (fuel : Nat) → Reader
  | 0, _, _ => .done ⟨0, .error (.ofPlain .recursion "maximum recursion depth exceeded")⟩
  | fuel + 1, s, i =>
    match i.compile s.tableName with
    | .error e => .done ⟨0, .error e⟩
    | .ok layout =>
      .ask [⟨layout.sql, layout.bindings⟩] fun answers =>
        match answers with
        | .ok answer :: _ =>
          match rows? answer with
          | some rows => finish classes (read classes fuel) s i.relations rows
          | none => .done ⟨0, if isList answer then .error notRows else .ok answer⟩
        | .error e :: _ => .done ⟨0, .error e⟩
        | [] => .done ⟨0, .error notRows⟩

/-- How deep relations are nested at most. -/
def maxDepth : Nat := 1000

end Hydration

end RecordMapper
