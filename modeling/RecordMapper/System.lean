import RecordMapper.Activity
import RecordMapper.Adapter.Basic
import RecordMapper.Config.Basic

/-!
The state of a client with its adapter and the store behind it, and the operations on it. An operation is an activity
that may end in a failure; run alone, it takes a system to an outcome and the system after it.
-/
namespace RecordMapper

/-- The background task that probes the store: none, created and not yet begun, or waiting for its next probe. -/
inductive KeepAlive where
  | off
  | starting
  | sleeping
  deriving Repr, DecidableEq, Inhabited

/-- A client: its settings, whether it counts itself as connected, and its background task. -/
structure Client where
  config : Config
  url : String
  driver : String
  connected : Bool
  keepAlive : KeepAlive
  deriving Inhabited

/-- A client, its adapter and the store. `issued` counts the unique identifiers given out. -/
structure System where
  client : Client
  adapter : Adapter
  store : Store
  issued : Nat
  deriving Inhabited

/-- An operation on a system. -/
abbrev Operation := ExceptT Failure (Activity System)

namespace Operation

variable {α : Type}

/-- Outcome and system of an operation that runs alone. -/
def perform (x : Operation α) (s : System) : Except Failure α × System := (ExceptT.run x).run s

/-- An operation that always goes on with an outcome. -/
def outcome (x : Operation α) : Operation (Except Failure α) := ExceptT.lift (ExceptT.run x)

/-- An operation while no other has the lock. -/
def locked (l : Lock) (x : Operation α) : Operation α := ExceptT.mk (Activity.locked l (ExceptT.run x))

/-- Lets others go on. -/
def yield : Operation Unit := ExceptT.lift Activity.yield

/-- A result or a failure. -/
def ofResult (r : Except Failure α) : Operation α := ExceptT.mk (pure r)

/-- One operation, and behind it another one, whether or not the first fails; a failure of the second one wins. -/
def ensuring (x : Operation α) (always : Operation Unit) : Operation α := do
  let result ← outcome x
  always
  ofResult result

/-- The system as it is. -/
def system : Operation System := ExceptT.lift (Activity.look Activity.done)

/-- Changes the system. -/
def change (f : System → System) : Operation Unit :=
  ExceptT.lift (Activity.look fun s => Activity.put (f s) (Activity.done ()))

/-- Lets an event reach the store. -/
def emit (e : Event) : Operation Unit := change fun s => { s with store := s.store.emit e }

/-- Fails with an error, if there is one. -/
def failWith? (e : Option Error) : Operation Unit :=
  match e with
  | none => pure ()
  | some e => throw (.ofError e)

/-- The store's reply to the next statement. -/
def reply : Operation Reply := do
  let (r, store) := (← system).store.reply
  change fun s => { s with store := store }
  return r

/-- Fails as the next attempt to connect does, if it does. -/
def nextConnect : Operation Unit := do
  let (e, store) := (← system).store.connectError
  change fun s => { s with store := store }
  failWith? e

/-- Changes the adapter. -/
def changeAdapter (f : Adapter → Adapter) : Operation Unit := change fun s => { s with adapter := f s.adapter }

/-- Changes the client. -/
def changeClient (f : Client → Client) : Operation Unit := change fun s => { s with client := f s.client }

/-- Waits, which the store's events show. -/
def sleep (delay : Number) : Operation Unit := emit (.sleep delay)

end Operation

end RecordMapper
