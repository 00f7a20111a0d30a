import RecordMapper.Fault.Failure
import RecordMapper.Number.Basic

/-!
The store as a client meets it. What it will answer is a script: one entry for each statement, and a last resort when
the script is at its end. What reached it is a list of events, the first one first.
-/
namespace RecordMapper

/-- What a statement without rows did. -/
structure Summary where
  affectedRows : Int
  insertId : Option Int
  insertUuid : Value
  deriving Inhabited

/-- What a statement gives back: rows, a summary, or any other value. -/
inductive Answer where
  | rows (rows : List Row)
  | summary (s : Summary)
  | value (v : Value)
  deriving Inhabited

/-- What the store does with a statement: it gives rows, counts the rows that it changed, fails, or hands back a
value. -/
inductive Reply where
  | rows (rows : List Row)
  | count (rowCount : Int) (lastId : Option Int)
  | fail (e : Error)
  | value (v : Value)
  deriving Inhabited

/-- A reply and the seconds that it takes. -/
structure Entry where
  reply : Reply
  latency : Float
  deriving Inhabited

/-- What reached the store, or a wait. -/
inductive Event where
  | connect (url : String) (options : Row)
  | disconnect
  | execute (sql : String) (params : Option (List Value))
  | ping
  | createPool (options : Row)
  | poolClose
  | poolWaitClosed
  | openFile (path : String) (options : Row)
  | commit
  | cursorClose
  | close
  | sleep (delay : Number)
  | keepAliveSleep (interval : Number)
  deriving Inhabited

/-- The store: what it will do, its clock, and what has reached it. -/
structure Store where
  script : List Entry
  lastResort : Entry
  connectErrors : List Error
  disconnectError : Option Error
  pingError : Option Error
  statsError : Option Error
  pingLatency : Float
  clock : Float
  events : List Event
  deriving Inhabited

namespace Store

/-- A store that answers everything with no rows. -/
def quiet : Store := ⟨[], ⟨.rows [], 0.0⟩, [], none, none, none, 0.0, 0.0, []⟩

/-- The store after an event. -/
def emit (e : Event) (s : Store) : Store := { s with events := s.events ++ [e] }

/-- The store some seconds later. -/
def wait (seconds : Float) (s : Store) : Store := { s with clock := s.clock + seconds }

/-- The reply to the next statement; its time passes first. -/
def reply (s : Store) : Reply × Store :=
  match s.script with
  | [] => (s.lastResort.reply, s.wait s.lastResort.latency)
  | entry :: rest => (entry.reply, { s with script := rest }.wait entry.latency)

/-- A reply leaves the events of a store alone. -/
theorem events_reply (s : Store) : s.reply.2.events = s.events := by
  rw [reply]
  split <;> rfl

/-- The error of the next attempt to connect, if it fails. -/
def connectError (s : Store) : Option Error × Store :=
  match s.connectErrors with
  | [] => (none, s)
  | e :: rest => (some e, { s with connectErrors := rest })

end Store

end RecordMapper
