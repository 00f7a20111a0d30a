import RecordMapper.Activity.Together
import RecordMapper.Client.Health
import RecordMapper.Model.Terminal

/-!
Sessions: one client with its store, the classes declared so far, the models made of them, and intents set aside.
What is done in a session is done step by step. The clock of the store stands at zero when a step begins, and at the
end of a step the background task goes on to its next wait; the events of a step are what reached the store in it.
-/
namespace RecordMapper

/-- A client and all that has been made with it; of two models or intents of one name the latest counts. -/
structure Session where
  system : System
  classes : Catalogue
  now : Moment
  models : List (String × Model)
  kept : List (String × Intent)
  deriving Inhabited

namespace Session

/-- What a step came to: its outcome, what reached the store, and the session after it. -/
structure Step (α : Type) where
  outcome : Except Failure α
  events : List Event
  session : Session

variable {α : Type}

/-- A session with a client of these settings, and with this kind of adapter or else that of the client's driver. -/
def start (c : Config) (kind : Option AdapterKind) (now : Moment) : Except Failure Session := do
  let client ← Client.ofConfig c
  let kind ← match kind with
    | some kind => pure kind
    | none => (AdapterKind.ofDriver client.driver).mapError .ofFault
  return ⟨⟨client, .fresh kind, .quiet, 0⟩, .start, now, [], []⟩

/-- What the terminals of models take from the session. -/
def surroundings (s : Session) : Surroundings := ⟨s.classes, s.now⟩

/-- The system when a step begins. -/
def fresh (s : System) : System := { s with store := { s.store with clock := 0.0, events := [] } }

/-- A step that ends with this system. -/
def close (s : Session) (outcome : Except Failure α) (system : System) : Step α :=
  let settled := (Client.settle.perform system).2
  ⟨outcome, settled.store.events, { s with system := settled }⟩

/-- An operation as a step. -/
def step (x : Operation α) (s : Session) : Step α :=
  let (outcome, system) := x.perform (fresh s.system)
  s.close outcome system

/-- Operations done together, as a step; one that waits for ever has no outcome. -/
def stepTogether (xs : List (Operation α)) (s : Session) : Step (List (Option (Except Failure α))) :=
  let (outcomes, system) := Activity.runTogether (xs.map ExceptT.run) (fresh s.system)
  s.close (.ok outcomes) system

/-- Declares a class. -/
def declare (d : Declaration) (s : Session) : Except Failure Schema × Session :=
  match Catalogue.declare d s.classes with
  | .ok c => (.ok c.schema, { s with classes := c :: s.classes })
  | .error e => (.error e, s)

/-- The class with a name. -/
def schema? (name : String) (s : Session) : Option Schema := (s.classes.find? name).map ModelClass.schema

/-- Keeps a model under a name. -/
def setModel (name : String) (m : Model) (s : Session) : Session := { s with models := (name, m) :: s.models }

/-- The model with a name. -/
def model? (name : String) (s : Session) : Option Model := s.models.lookup name

/-- Makes a model of a class and keeps it. -/
def newModel (name : String) (c : Schema) (s : Session) : Except Failure Model × Session :=
  match Model.new c with
  | .ok m => (.ok m, s.setModel name m)
  | .error e => (.error e, s)

/-- Makes a call on a model that is kept; what the call did before it failed stays. -/
def chain (name : String) (m : Model) (c : ChainCall) (s : Session) : Except Failure Model × Session :=
  let (m, outcome) := m.chain s.classes [c]
  (outcome.map fun _ => m, s.setModel name m)

/-- Ends the chain of a model that is kept. -/
def finish (name : String) (m : Model) (t : Terminal) (s : Session) : Step Result :=
  let (m, outcome, system) := m.finish s.surroundings t (fresh s.system)
  (s.setModel name m).close outcome system

/-- Sets the intent of a model aside under a name. -/
def keep (name : String) (i : Intent) (s : Session) : Session := { s with kept := (name, i) :: s.kept }

/-- The intent that was set aside under a name. -/
def kept? (name : String) (s : Session) : Option Intent := s.kept.lookup name

/-- Changes the store. -/
def changeStore (f : Store → Store) (s : Session) : Session :=
  { s with system := { s.system with store := f s.system.store } }

end Session

end RecordMapper
