import RecordMapper.System

/-!
Drivers of files. A driver takes a statement or not, and gives a cursor on which fetching, committing and closing may
each fail. What is done with a cursor is the same with every driver: rows are fetched, a change is committed, and the
cursor is closed in the end. `FileDriver.scripted` is the driver that goes by the store's script.
-/
namespace RecordMapper

open Operation

/-- A cursor: the rows to be fetched, if the statement has any, a count of changes and an identifier; and how fetching,
committing and closing end. -/
structure FileCursor where
  rows : Option (Except Error (List Row))
  commitError : Option Error
  rowCount : Int
  lastId : Option Int
  closeError : Option Error

namespace FileCursor

/-- The summary of a change: an identifier only if a row was changed. -/
def summary (c : FileCursor) : Summary :=
  let affected := max c.rowCount 0
  ⟨affected, if affected == 0 then none else c.lastId.filter (· != 0), .null⟩

/-- Fetches the rows, or commits if there are none to fetch. -/
def finish (c : FileCursor) : Operation Answer := do
  match c.rows with
  | some fetched => return .rows ((← ofResult (fetched.mapError .ofError)).map Row.ofPairs)
  | none =>
    emit .commit
    failWith? c.commitError
    return .summary c.summary

def close (c : FileCursor) : Operation Unit := do
  emit .cursorClose
  failWith? c.closeError

/-- Whatever becomes of a cursor, it is closed in the end. -/
def use (c : FileCursor) : Operation Answer := ensuring c.finish c.close

end FileCursor

/-- A driver of a file: what it gives for a statement in a store, and the store after that, which no event has reached
by it. -/
structure FileDriver where
  answer : Store → Except Error FileCursor
  after : Store → Store
  events_after : ∀ store, (after store).events = store.events

namespace FileDriver

/-- Asks the driver for a cursor. -/
def ask (d : FileDriver) : Operation (Except Error FileCursor) := do
  let store := (← system).store
  change fun s => { s with store := d.after store }
  return d.answer store

/-- Hands a statement with its values to the driver, and uses the cursor that it gives. -/
def send (d : FileDriver) (text : String) (values : List Value) : Operation Answer := do
  emit (.execute text (some values))
  match ← d.ask with
  | .error e => throw (.ofError e)
  | .ok cursor => cursor.use

end FileDriver

/-- The cursor of a reply that the store's script has; nothing on it fails. -/
def FileCursor.ofReply : Reply → Except Error FileCursor
  | .fail e => .error e
  | .rows rows => .ok ⟨some (.ok rows), none, -1, none, none⟩
  | .count n id => .ok ⟨none, none, n, id, none⟩
  | .value _ => .ok ⟨none, none, -1, none, none⟩

/-- The driver that goes by the store's script. -/
def FileDriver.scripted : FileDriver where
  answer store := FileCursor.ofReply store.reply.1
  after store := store.reply.2
  events_after := Store.events_reply

/-- What a statement comes to is settled by the reply that the script has for it. -/
theorem FileDriver.send_scripted (text : String) (values : List Value) :
    scripted.send text values = (do
      emit (.execute text (some values))
      match FileCursor.ofReply (← reply) with
      | .error e => throw (.ofError e)
      | .ok cursor => cursor.use) :=
  rfl

end RecordMapper
