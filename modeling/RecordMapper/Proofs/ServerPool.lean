import RecordMapper.Proofs.Adapters
import RecordMapper.Proofs.ClientRuns

/-!
The pool of a server's adapter. What has reached the store tells whether the latest pool is open: it has been created,
and not been closed since. Main statement: in every run of a client whose waits for a closing pool never fail, a
statement is sent only while the latest pool is open, and an adapter holds a pool exactly while it counts as connected,
an open one. A wait that fails leaves the adapter with the pool that it has closed, and statements go on through it.
-/
namespace RecordMapper

open Operation

/-- Whether the latest pool is open after an event, if it is or is not before it. -/
def Event.poolOpen (isOpen : Bool) : Event → Bool
  | createPool _ => true
  | poolClose => false
  | _ => isOpen

/-- Whether the latest pool is open after these events. -/
def poolOpen (events : List Event) : Bool := events.foldl Event.poolOpen false

/-- Each statement has been sent while the latest pool was open. -/
def SentThroughOpenPool (events : List Event) : Prop :=
  ∀ before sql params after, events = before ++ .execute sql params :: after → poolOpen before = true

/-- A server's adapter with its store: it holds a pool exactly while it counts as connected, an open one; statements
have been sent through open pools only; and the wait for a closing pool will not fail. -/
structure PoolSound (s : System) : Prop where
  kind : s.adapter.kind = .mysql
  flag : s.adapter.connected = s.adapter.pool.isSome
  held : s.adapter.connected = true → poolOpen s.store.events = true
  sent : SentThroughOpenPool s.store.events
  wait : s.store.disconnectError = none

/-! ### Events -/

theorem poolOpen_emit (e : Event) (events : List Event) :
    poolOpen (events ++ [e]) = e.poolOpen (poolOpen events) := by
  rw [poolOpen, List.foldl_append]
  rfl

theorem SentThroughOpenPool.nil : SentThroughOpenPool [] := by
  intro before sql params after h
  cases before <;> cases h

/-- One more event, which is a statement only if the latest pool is open. -/
theorem SentThroughOpenPool.emit {events : List Event} (h : SentThroughOpenPool events) {e : Event}
    (he : ∀ sql params, e = .execute sql params → poolOpen events = true) : SentThroughOpenPool (events ++ [e]) := by
  intro before sql params after hsplit
  rcases List.eq_nil_or_concat after with rfl | ⟨earlier, last, rfl⟩
  · -- the statement is the new event
    obtain ⟨rfl, hlast⟩ := List.append_inj' hsplit rfl
    exact he sql params (List.singleton_inj.1 hlast)
  · rw [List.concat_eq_append, ← List.cons_append, ← List.append_assoc] at hsplit
    exact h before sql params earlier (List.append_inj' hsplit rfl).1

namespace PoolSound

/-- A connected adapter holds a pool. -/
theorem isNone_pool {s : System} (h : PoolSound s) (hconnected : s.adapter.connected = true) :
    s.adapter.pool.isNone = false := by
  rw [Option.isNone_eq_false_iff, ← h.flag]
  exact hconnected

/-- An event that says nothing of pools, and no statement unless the pool is open. -/
theorem emit {s : System} (h : PoolSound s) {e : Event} (hpool : ∀ isOpen, e.poolOpen isOpen = isOpen)
    (he : ∀ sql params, e = .execute sql params → s.adapter.connected = true) :
    PoolSound { s with store := s.store.emit e } where
  kind := h.kind
  flag := h.flag
  held hconnected := (poolOpen_emit e _).trans ((hpool _).trans (h.held hconnected))
  sent := h.sent.emit fun sql params hexecute => h.held (he sql params hexecute)
  wait := h.wait

theorem reply {s : System} (h : PoolSound s) : PoolSound { s with store := s.store.reply.2 } := by
  rw [Store.reply]
  split <;> exact ⟨h.kind, h.flag, h.held, h.sent, h.wait⟩

theorem connectError {s : System} (h : PoolSound s) : PoolSound { s with store := s.store.connectError.2 } := by
  rw [Store.connectError]
  split <;> exact ⟨h.kind, h.flag, h.held, h.sent, h.wait⟩

/-- A pool that is created while the adapter holds none. -/
theorem create {s : System} (h : PoolSound s) (arguments : Row) :
    PoolSound { s with store := s.store.emit (.createPool arguments) } where
  kind := h.kind
  flag := h.flag
  held _ := poolOpen_emit (.createPool arguments) _
  sent := h.sent.emit fun _ _ he => by cases he
  wait := h.wait

/-- The adapter takes the pool that is open. -/
theorem take {s : System} (h : PoolSound s) (hopen : poolOpen s.store.events = true) (pool : Pool) :
    PoolSound { s with adapter := { s.adapter with connected := true, pool := some pool } } where
  kind := h.kind
  flag := rfl
  held _ := hopen
  sent := h.sent
  wait := h.wait

/-- The adapter closes its pool and lets it go. -/
theorem close {s : System} (h : PoolSound s) :
    PoolSound { s with
      adapter := { s.adapter with connected := false, pool := none }
      store := (s.store.emit .poolClose).emit .poolWaitClosed } where
  kind := h.kind
  flag := rfl
  held := nofun
  sent := (h.sent.emit fun _ _ he => by cases he).emit fun _ _ he => by cases he
  wait := h.wait

/-- A statement that is sent while the adapter is connected. -/
theorem send {s : System} (h : PoolSound s) (hconnected : s.adapter.connected = true) (sql : String)
    (params : Option (List Value)) :
    PoolSound { s with store := (s.store.emit (.execute sql params)).reply.2 } :=
  (h.emit (fun _ => rfl) fun _ _ _ => hconnected).reply

end PoolSound

theorem Store.events_connectError (s : Store) : s.connectError.2.events = s.events := by
  rw [connectError]
  split <;> rfl

namespace Adapter

/-- A pool that has been created is held if the store lets the adapter connect. -/
theorem keeps_connectServer (url : String) (options : Row) : Keeps PoolSound (connectServer url options) := by
  intro s hs
  rw [connectServer, perform_bind, perform_system]
  dsimp only
  split
  · exact hs
  · rw [perform_bind, perform_ofResult]
    cases (ServerAddress.ofUrl url).mapError UrlError.failure with
    | error e => exact hs
    | ok address =>
      have hcreated := (hs.create (poolArguments address options)).connectError
      have hopen :
          poolOpen (s.store.emit (.createPool (poolArguments address options))).connectError.2.events = true := by
        rw [Store.events_connectError]
        exact poolOpen_emit (.createPool (poolArguments address options)) _
      simp only [perform_bind, perform_emit, perform_yield, perform_nextConnect]
      cases (s.store.emit (.createPool (poolArguments address options))).connectError.1 with
      | some e => exact hcreated
      | none => exact hcreated.take hopen _

/-- The pool is let go if the wait for it does not fail. -/
theorem keeps_disconnectServer : Keeps PoolSound disconnectServer := by
  intro s hs
  rw [disconnectServer, perform_bind, perform_system]
  dsimp only
  by_cases hconnected : s.adapter.connected = true
  · have hpool : s.adapter.pool.isSome = true := hs.flag ▸ hconnected
    have hwait : ((s.store.emit .poolClose).emit .poolWaitClosed).disconnectError = none := hs.wait
    rw [hconnected, hpool]
    simp only [Bool.not_true, Bool.false_eq_true, if_false, if_true, perform_bind, perform_emit, perform_yield,
      perform_system]
    rw [hwait]
    exact hs.close
  · rw [Bool.not_eq_true] at hconnected
    rw [hconnected]
    exact hs

/-- If the wait fails, the adapter goes on with the pool that it has closed. -/
theorem disconnectServer_of_failed_wait {s : System} (hconnected : s.adapter.connected = true)
    (hpool : s.adapter.pool.isSome = true) {e : Error} (he : s.store.disconnectError = some e) :
    ∃ t, disconnectServer.perform s = (.error (.ofError e), t) ∧ t.adapter = s.adapter ∧
      poolOpen t.store.events = false := by
  refine ⟨{ s with store := (s.store.emit .poolClose).emit .poolWaitClosed }, ?_, rfl, ?_⟩
  · have hwait : ((s.store.emit .poolClose).emit .poolWaitClosed).disconnectError = some e := he
    rw [disconnectServer, perform_bind, perform_system]
    dsimp only
    rw [hconnected, hpool]
    simp only [Bool.not_true, Bool.false_eq_true, if_false, if_true, perform_bind, perform_emit, perform_yield,
      perform_system]
    rw [hwait]
    rfl
  · exact (poolOpen_emit .poolWaitClosed _).trans (poolOpen_emit .poolClose _)

/-- A statement is sent only while the adapter counts as connected. -/
theorem keeps_executeServer_sound (sql : String) (params : Option (List Value)) :
    Keeps PoolSound (executeServer sql params) := by
  intro s hs
  rw [executeServer, perform_bind, perform_system]
  dsimp only
  by_cases hconnected : s.adapter.connected = true
  · have hpool := hs.isNone_pool hconnected
    rw [hconnected, hpool]
    simp only [Bool.not_true, Bool.false_eq_true, if_false, perform_bind, perform_ofResult]
    cases expandBindings sql (params.getD []) with
    | error e => exact hs
    | ok expanded =>
      obtain ⟨sql, bindings⟩ := expanded
      simp only [perform_emit, perform_reply]
      have hsent := hs.send hconnected (if bindings.isEmpty = true then sql else Dialect.adaptMySQL sql)
        (if bindings.isEmpty = true then none else some bindings)
      cases (s.store.emit _).reply.1 <;> exact hsent
  · rw [Bool.not_eq_true] at hconnected
    rw [hconnected]
    exact hs

theorem keeps_pingServer : Keeps PoolSound pingServer := by
  intro s hs
  rw [pingServer, perform_bind, perform_system]
  dsimp only
  by_cases hconnected : s.adapter.connected = true
  · have hpool := hs.isNone_pool hconnected
    rw [hconnected, hpool]
    simp only [Bool.not_true, Bool.false_eq_true, if_false, probe, perform_bind, perform_emit, perform_reply]
    have hsent := hs.send hconnected "SELECT 1" none
    cases (s.store.emit _).reply.1 <;> exact hsent
  · rw [Bool.not_eq_true] at hconnected
    rw [hconnected]
    exact hs

end Adapter

/-- What a client asks of a server's adapter keeps its pool sound. -/
theorem AdapterCalls.keep_poolSound : library.Keep PoolSound where
  connect url options := Keeps.look (fun s hs => by rw [hs.kind]) (Adapter.keeps_connectServer url options)
  disconnect := Keeps.look (fun s hs => by rw [hs.kind]) Adapter.keeps_disconnectServer
  execute sql params := Keeps.look (fun s hs => by rw [hs.kind]) (Adapter.keeps_executeServer_sound sql params)
  ping := Keeps.look (fun s hs => by rw [hs.kind]) Adapter.keeps_pingServer
  poolStats := Adapter.keeps_poolStats
  changeClient f := fun s hs => ⟨hs.kind, hs.flag, hs.held, hs.sent, hs.wait⟩
  sleep delay := fun s hs => hs.emit (fun _ => rfl) fun _ _ he => by cases he

/-- A client over a server's adapter that has not been connected yet, and a store that nothing has reached. In every run
whose waits for a closing pool never fail, whatever else fails, each statement is sent while the latest pool is open,
and at every point of the run the adapter holds a pool exactly while it counts as connected, an open one. -/
theorem statements_through_open_pools (client : Client) (store : Store) (issued : Nat) (moves : List Move)
    (hfresh : store.events = []) (hwait : store.disconnectError = none)
    (hturns : ∀ next, Move.turn next ∈ moves → next.disconnectError = none) :
    let s := runMoves ClientCall.operation moves ⟨client, .fresh .mysql, store, issued⟩
    SentThroughOpenPool s.store.events ∧ s.adapter.connected = s.adapter.pool.isSome ∧
      (s.adapter.connected = true → poolOpen s.store.events = true) := by
  intro s
  have hstart : PoolSound ⟨client, .fresh .mysql, store, issued⟩ :=
    ⟨rfl, rfl, nofun, hfresh ▸ SentThroughOpenPool.nil, hwait⟩
  have hcalls (c : ClientCall) : Keeps PoolSound c.operation :=
    AdapterCalls.keep_poolSound.through c
  have hend : PoolSound s := runMoves_keeps hcalls
    (fun next hnext t ht => ⟨ht.kind, ht.flag, ht.held, ht.sent, hturns next hnext⟩) hstart
  exact ⟨hend.sent, hend.flag, hend.held⟩

/-- A client of a server that has not been connected yet. -/
def serverClient : Client :=
  { (default : Client) with config := {}, url := "mysql://u:p@h/d", driver := "mysql" }

/-- What has reached the store after some moves of this client. -/
def eventsAfter (moves : List Move) : List Event :=
  (runMoves ClientCall.operation moves ⟨serverClient, .fresh .mysql, .quiet, 0⟩).store.events

/-- A probe that fails, a pool that is closed and another one that is opened before the next statement. -/
def probedMoves : List Move :=
  [.call .connect, .turn { Store.quiet with script := [⟨.fail (.plain (.ofMessage .connectionReset "")), 0.0⟩] },
   .call .probe, .call (.execute "SELECT 2" [])]

theorem probedMoves_through_open_pools :
    (∃ arguments, eventsAfter probedMoves = [.createPool arguments, .execute "SELECT 1" none, .poolClose,
        .poolWaitClosed, .createPool arguments, .execute "SELECT 2" none]) ∧
      SentThroughOpenPool (eventsAfter probedMoves) := by
  have hturns : ∀ next, Move.turn next ∈ probedMoves → next.disconnectError = none := by
    intro next hnext
    simp only [probedMoves, List.mem_cons, Move.turn.injEq, reduceCtorEq, false_or, List.not_mem_nil, or_false] at hnext
    rw [hnext]
    rfl
  exact ⟨⟨_, rfl⟩, (statements_through_open_pools serverClient .quiet 0 probedMoves rfl rfl hturns).1⟩

/-- A wait for the closing pool that fails; the next statement goes through this pool, and no other one is created. -/
theorem statement_through_closed_pool :
    ¬SentThroughOpenPool (eventsAfter
      [.call .connect, .turn { Store.quiet with disconnectError := some (.plain (.ofMessage .runtime "x")) },
       .call .disconnect, .turn .quiet, .call (.execute "SELECT 1" [])]) := by
  intro h
  have hopen := h [.createPool _, .poolClose, .poolWaitClosed] "SELECT 1" none [] rfl
  cases hopen

end RecordMapper
