import RecordMapper.Model.Hydration

/-!
Terminals: the calls that end a chain by running a statement. Each takes the intent of the model away first, so that
the model is ready for a new chain whatever happens.

Reads leave out deleted rows of classes that keep them; writes go through the guard and the casts of the class before
anything reaches the store, and an update or a delete must have a condition of the caller's own.
-/
namespace RecordMapper

/-- One page of rows, and where it stands among the others. -/
structure Page where
  data : Answer
  total : Int
  pages : Int
  page : Number
  perPage : Value
  nextPage : Option Number
  prevPage : Option Number
  deriving Inhabited

/-- What a terminal gives back. -/
inductive Result where
  | nothing
  | row (r : Row)
  | answer (a : Answer)
  | number (n : Int)
  | page (p : Page)
  deriving Inhabited

/-- The calls that end a chain. -/
inductive Terminal where
  | get
  | first
  | find (key : Value)
  | count
  | paginate (page perPage : Value)
  | rawQuery (sql : String)
  | insert (data : Row)
  | insertIgnore (data : Row)
  | insertOrUpdate (data : Row)
  | update (data : Row)
  | delete
  | forceDelete
  deriving Inhabited

/-- What terminals take from outside: the classes, and the time, which stands still. -/
structure Surroundings where
  classes : Catalogue
  now : Moment
  deriving Inhabited

/-- An operation of a model on a system. What it does to the model lasts, whether it succeeds or fails. -/
abbrev ModelOperation := ExceptT Failure (StateT Model (Activity System))

namespace ModelOperation

variable {α : Type}

/-- An operation done on a model: its outcome, and the model after it. -/
def on (x : ModelOperation α) (m : Model) : Activity System (Except Failure α × Model) := StateT.run (ExceptT.run x) m

/-- The class of the model. -/
def schema : ModelOperation Schema := return (← get).schema

/-- Takes the intent away from the model, which is then ready for a new chain. -/
def take : ModelOperation Intent := do
  let m ← get
  set { m with intent := Intent.empty }
  return m.intent

/-- An operation on the system leaves the model alone. -/
instance : MonadLift Operation ModelOperation := ⟨fun x => ExceptT.mk fun m => do return (← ExceptT.run x, m)⟩

end ModelOperation

namespace Terminal

open Operation ModelOperation

/-- The time as models write it: without offset, in whole seconds. -/
def timestamp (env : Surroundings) : Value := .moment { env.now with micro := 0, offset := none }

/-- The `n`-th unique identifier. -/
def identifier (n : Nat) : String := "00000000-0000-4000-8000-" ++ String.ofList (Text.hex 12 n)

/-- Gives out a unique identifier. -/
def issue : Operation Value := do
  let n := (← system).issued + 1
  change fun s => { s with issued := n }
  return .text (identifier n)

/-! ### Reads -/

/-- Runs the statement of an intent that reads, and finishes its rows. -/
def runRead (env : Surroundings) (s : Schema) (i : Intent) : Operation Answer := do
  let timed ← (Hydration.read env.classes Hydration.maxDepth s { i with action := .known .select }).perform
  ofResult timed.result

/-- The rows that are not deleted. -/
def rows (env : Surroundings) (s : Schema) (i : Intent) : Operation Answer :=
  runRead env s (Hydration.withoutDeleted s i)

/-- The first of the rows that an answer has. -/
def firstOf (a : Answer) : Except Failure (Option Row) :=
  match a with
  | .rows rows => .ok rows.head?
  | .value v => if v.isTruthy then .error Hydration.notRows else .ok none
  | .summary _ => .error Hydration.notRows

/-- The first row, the statement asking for no more. -/
def firstRow (env : Surroundings) (s : Schema) (i : Intent) : Operation (Option Row) := do
  let a ← rows env s { i with limit := .int 1 }
  ofResult (firstOf a)

/-- The number in the column `count` of a row; no row and no number are zero. -/
def countIn (row : Option Row) : Except Failure Int :=
  match row with
  | none => .ok 0
  | some row =>
    let v := Row.value row "count"
    if v.isNull then .ok 0 else v.toInt

/-- The intent that counts what another one reads. -/
def counting (i : Intent) : Intent :=
  { i with select := ["COUNT(*) as count"], relations := [], order := none, offset := .null }

/-- How many rows there are. -/
def countRows (env : Surroundings) (s : Schema) (i : Intent) : Operation Int := do
  let row ← firstRow env s (counting i)
  ofResult (countIn row)

/-! ### Pages -/

/-- The failure of arithmetic on a value that is no number. -/
def notANumber : Failure := .ofPlain .wrongKind "the value is no number"

/-- A value as a number. -/
def numberOf (v : Value) : Except Failure Number :=
  match v.toNumber? with
  | some n => .ok n
  | none => .error notANumber

/-- The first value that counts as true, else the second. -/
def firstTrue (v w : Value) : Value := if v.isTruthy then v else w

/-- The integer of an argument; one that does not count as true is zero. -/
def argumentInt (v : Value) : Except Failure Int := if v.isTruthy then v.toInt else .ok 0

/-- Arithmetic whose problems are failures. -/
def calculate {α : Type} (r : Except Number.Problem α) : Except Failure α := r.mapError Value.numberFailure

/-- Number and length of the page: those asked for, or else those that the limit of the chain makes. -/
def pageOf (s : Schema) (i : Intent) (page perPage : Value) : Except Failure (Number × Value) := do
  let page ← argumentInt page
  let perPage ← argumentInt perPage
  let length := firstTrue i.limit s.perPage
  let number ←
    if page < 1 then do
      let offset ← numberOf (firstTrue i.offset (.int 0))
      let before ← calculate (offset.floorDiv (← numberOf length))
      calculate (before.add (.whole 1))
    else pure (.whole page)
  return (number, if perPage < 1 then length else .int perPage)

/-- The length of a page as a number; a text is none, and one that is no integer fails as such. -/
def lengthOf (perPage : Value) : Except Failure Number := do
  if perPage.toNumber?.isNone then let _ ← perPage.toInt
  numberOf perPage

/-- The rows before a page. -/
def offsetOf (page : Number) (perPage : Value) : Except Failure Value := do
  let before ← calculate (page.sub (.whole 1))
  return .ofNumber (← calculate (before.mul (← lengthOf perPage)))

/-- The number of pages that rows fill. -/
def pagesOf (total : Int) (perPage : Value) : Except Failure Int := do
  let quotient ← calculate (Number.div (.whole total) (← numberOf perPage))
  calculate (Number.ceil quotient)

/-- One page of rows, and how many rows there are in all. -/
def readPage (env : Surroundings) (s : Schema) (i : Intent) (page perPage : Value) : Operation Page := do
  let (page, perPage) ← ofResult (pageOf s i page perPage)
  let offset ← ofResult (offsetOf page perPage)
  let data ← rows env s { i with limit := perPage, offset := offset }
  let total ← countRows env s { i with limit := .null, offset := .null }
  let pages ← ofResult (pagesOf total perPage)
  let after ← ofResult (calculate (page.add (.whole 1)))
  let before ← ofResult (calculate (page.sub (.whole 1)))
  return {
    data := data
    total := total
    pages := pages
    page := page
    perPage := perPage
    nextPage := if page.lt (.whole pages) then some after else none
    prevPage := if (Number.whole 1).lt page && !(Number.whole pages).lt page then some before else none }

/-! ### Writes -/

/-- What of a record is written: the columns that may be set, as the store takes them. -/
def payload (s : Schema) (data : Row) : Except Failure Row :=
  Casts.apply .toStorage s.castList (s.guard.restrict data)

/-- Runs the statement of an intent that writes. -/
def runWrite (s : Schema) (i : Intent) : Operation Answer := do
  let layout ← ofResult (i.compile s.tableName)
  Client.execute layout.sql layout.bindings

/-- A record with the columns that the library fills in itself. -/
def stamped (env : Surroundings) (s : Schema) (action : Action) (payload : Row) : Operation Row := do
  let row ← match s.uuidColumn.filter (!·.isEmpty) with
    | some column => do pure (Row.set column (← issue) payload)
    | none => pure payload
  if !s.timestamps then return row
  let row := Row.set "created_at" (timestamp env) row
  if action = .insert then return row else return Row.set "updated_at" (timestamp env) row

/-- An answer that tells the identifier of the row that was inserted. -/
def withIdentifier (s : Schema) (action : Action) (row : Row) (a : Answer) : Answer :=
  match a, s.uuidColumn.filter (!·.isEmpty), action with
  | .summary summary, some column, .insert =>
    if summary.affectedRows > 0 then .summary { summary with insertUuid := Row.value row column } else a
  | a, _, _ => a

/-- Inserts a record, unless nothing of it is written. -/
def insertRow (env : Surroundings) (s : Schema) (action : Action) (data : Row) : Operation Result := do
  let written ← ofResult (payload s data)
  if written.isEmpty then return .nothing
  let row ← stamped env s action written
  let a ← runWrite s { Intent.empty with action := .known action, data := some row }
  return .answer (withIdentifier s action row a)

/-- The failure of a write that would not be limited by any condition of the caller. -/
def unconditional (s : Schema) (name : String) : Failure := Chain.misuse s (name ++ "() requires a where clause")

/-- Updates the rows that the chain's conditions select, unless nothing is written. -/
def updateRows (env : Surroundings) (s : Schema) (i : Intent) (data : Row) : Operation Result := do
  let written ← ofResult (payload s data)
  if written.isEmpty then return .nothing
  if i.conditions.isEmpty then throw (unconditional s "update")
  let row := if s.timestamps then Row.set "updated_at" (timestamp env) written else written
  return .answer (← runWrite s { Hydration.withoutDeleted s i with action := .known .update, data := some row })

/-- Deletes rows for good. -/
def deleteForGood (s : Schema) (i : Intent) : Operation Result := do
  return .answer (← runWrite s { i with action := .known .delete })

/-- Deletes rows, or marks them as deleted if the class keeps them. -/
def deleteRows (env : Surroundings) (s : Schema) (i : Intent) : Operation Result := do
  if !s.softDelete then deleteForGood s i
  else
    if i.conditions.isEmpty then throw (unconditional s "delete")
    let i := i.addConditions [Hydration.notDeleted]
    return .answer (← runWrite s { i with action := .known .update, data := some [("deleted_at", timestamp env)] })

/-- The result for a row, if there is one. -/
def ofRow (row : Option Row) : Result :=
  match row with
  | some row => .row row
  | none => .nothing

/-! ### Terminals on models -/

/-- Inserts a record; what the chain has come to counts for nothing. -/
def insertInto (env : Surroundings) (action : Action) (data : Row) : ModelOperation Result := do
  let _ ← take
  insertRow env (← schema) action data

/-- What a terminal does on a model. -/
def run (env : Surroundings) : Terminal → ModelOperation Result
  | get => do return .answer (← rows env (← schema) (← take))
  | first => do return ofRow (← firstRow env (← schema) (← take))
  | find key => do
    let s ← schema
    let i := { (← take) with conditions := [.compare s.primaryKey "=" key Junction.and.word] }
    return ofRow (← firstRow env s i)
  | count => do return .number (← countRows env (← schema) (← take))
  | paginate page perPage => do return .page (← readPage env (← schema) (← take) page perPage)
  | rawQuery sql => do return .answer (← runRead env (← schema) { (← take) with rawQuery := some sql })
  | insert data => insertInto env .insert data
  | insertIgnore data => insertInto env .insertIgnore data
  | insertOrUpdate data => insertInto env .insertUpdate data
  | update data => do updateRows env (← schema) (← take) data
  | delete => do deleteRows env (← schema) (← take)
  | forceDelete => do deleteForGood (← schema) (← take)

/-- What a terminal does on a model of a class whose chain has come to an intent. -/
def perform (env : Surroundings) (s : Schema) (i : Intent) (t : Terminal) : Operation Result :=
  ExceptT.mk do return (← (t.run env).on ⟨s, i⟩).1

end Terminal

/-- A model after a terminal, its outcome, and the system after it. -/
def Model.finish (env : Surroundings) (m : Model) (t : Terminal) (sys : System) :
    Model × Except Failure Result × System :=
  let ((outcome, m), sys) := ((t.run env).on m).run sys
  (m, outcome, sys)

end RecordMapper
