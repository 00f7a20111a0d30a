import RecordMapper.Proofs.Adapters

/-!
What reaches a driver. A request is a statement with its bindings as a driver is given them; `AdapterKind.request` is
what an adapter makes of a statement, apart from any state. Main statement: an adapter hands exactly that request to
its driver if it is open, and nothing otherwise.
-/
namespace RecordMapper

/-- A statement and its bindings as a driver is given them. -/
abbrev Request := String × Option (List Value)

/-- The request that an event is. -/
def Event.request? : Event → Option Request
  | .execute sql params => some (sql, params)
  | _ => none

/-- The requests that have reached a store, in order. -/
def Store.requests (s : Store) : List Request := s.events.filterMap Event.request?

/-- What an adapter makes of a statement: lists are widened and the text is adapted; a server's text is sent as it is
if nothing is bound. -/
def AdapterKind.request (kind : AdapterKind) (sql : String) (params : List Value) : Except Failure Request :=
  match kind with
  | .stub => .ok (sql, some params)
  | .mysql => (expandBindings sql params).map fun (sql, bindings) =>
      if bindings.isEmpty then (sql, none) else (Dialect.adaptMySQL sql, some bindings)
  | .sqlite => (expandBindings (Dialect.adaptSQLite sql) params).map fun (sql, bindings) =>
      (sql, some (bindings.map Dialect.toSQLite))

/-- Whether statements get through to the driver. -/
def Adapter.isOpen (a : Adapter) : Bool := a.kind == .stub || a.connected && a.pool.isSome

/-! ### Events and requests -/

@[simp] theorem Store.requests_emit (e : Event) (s : Store) :
    (s.emit e).requests = s.requests ++ e.request?.toList := by
  cases h : e.request? <;> simp [requests, emit, h]

@[simp] theorem Store.requests_reply (s : Store) : s.reply.2.requests = s.requests :=
  congrArg (List.filterMap Event.request?) s.events_reply

/-- So does the outcome of an attempt to connect. -/
@[simp] theorem Store.requests_connectError (s : Store) : s.connectError.2.requests = s.requests := by
  rw [connectError]
  split <;> rfl

/-! ### Properties of requests -/

/-- A property of systems that looks at the kind of the adapter and at the requests only. -/
def AboutRequests (I : System → Prop) : Prop :=
  ∀ s t, t.adapter.kind = s.adapter.kind → t.store.requests = s.store.requests → I s → I t

/-- What has been requested up to now, and of what kind of adapter. -/
theorem aboutRequests_eq (kind : AdapterKind) (rs : List Request) :
    AboutRequests fun s => s.adapter.kind = kind ∧ s.store.requests = rs :=
  fun _ _ hkind hrequests hs => ⟨hkind.trans hs.1, hrequests.trans hs.2⟩

open Operation

namespace AboutRequests

variable {I : System → Prop} (hI : AboutRequests I)
include hI

theorem undisturbed : Undisturbed (fun e => e.request? = none) I where
  emit he := fun s hs => hI s _ rfl (by simp [he]) hs
  reply := fun s hs => hI s _ rfl (by simp) hs
  nextConnect := by
    intro s hs
    have hafter : I { s with store := s.store.connectError.2 } := hI s _ rfl (by simp) hs
    exact Keeps.failWith? s.store.connectError.1 _ hafter
  changeAdapter hf := fun s hs => hI s _ (hf s.adapter) rfl hs

theorem changeClient (f : Client → Client) : Keeps I (changeClient f) := fun s hs => hI s _ rfl rfl hs

end AboutRequests

namespace Adapter

/-! ### One statement -/

/-- A request, and behind it nothing that would be another one. -/
theorem perform_request {α : Type} {x : Operation α} (request : Request) (s : System)
    (hx : ∀ I, AboutRequests I → Keeps I x) :
    let t := ((emit (.execute request.1 request.2) >>= fun _ => x).perform s).2
    t.adapter.kind = s.adapter.kind ∧ t.store.requests = s.store.requests ++ [request] := by
  rw [perform_bind, perform_emit]
  exact hx _ (aboutRequests_eq _ _) _ ⟨rfl, by simp [Event.request?]⟩

theorem perform_executeStub (sql : String) (params : List Value) (s : System) :
    let t := ((executeStub sql (some params)).perform s).2
    t.adapter.kind = s.adapter.kind ∧ t.store.requests = s.store.requests ++ [(sql, some params)] := by
  refine perform_request (sql, some params) s fun I hI => Keeps.bind (hI.undisturbed.reply) fun r => ?_
  cases r with
  | fail e => exact Keeps.throw _
  | rows | count | value => exact Keeps.pure _

theorem perform_executeServer (sql : String) (params : List Value) (s : System) :
    let t := ((executeServer sql (some params)).perform s).2
    t.adapter.kind = s.adapter.kind ∧ t.store.requests = s.store.requests ++
      if s.adapter.connected && s.adapter.pool.isSome then (AdapterKind.mysql.request sql params).toOption.toList
      else [] := by
  rw [executeServer, perform_bind, perform_system]
  dsimp only
  cases hconnected : s.adapter.connected with
  | false => simp
  | true =>
    simp only [Bool.not_true, Bool.false_eq_true, if_false, Option.getD_some, AdapterKind.request]
    rw [perform_bind, perform_ofResult]
    cases hexpand : expandBindings sql params with
    | error e => simp [Except.map, Except.toOption]
    | ok expanded =>
      obtain ⟨text, bindings⟩ := expanded
      dsimp only
      cases hpool : s.adapter.pool with
      | none => simp
      | some pool =>
        simp only [Except.map, Except.toOption, Option.isSome_some, Option.isNone_some, Bool.false_eq_true, if_false]
        cases hempty : bindings.isEmpty
        all_goals
          refine perform_request (_, _) s fun I hI => Keeps.bind (hI.undisturbed.reply) fun r => ?_
          cases r with
          | fail e => exact Keeps.throw _
          | rows | count | value => exact Keeps.pure _

theorem perform_executeFile (sql : String) (params : List Value) (s : System) :
    let t := ((executeFile sql (some params)).perform s).2
    t.adapter.kind = s.adapter.kind ∧ t.store.requests = s.store.requests ++
      if s.adapter.connected && s.adapter.pool.isSome then (AdapterKind.sqlite.request sql params).toOption.toList
      else [] := by
  rw [executeFile, executeThrough, perform_bind, perform_system]
  dsimp only
  cases hconnected : s.adapter.connected with
  | false => simp
  | true =>
    simp only [Bool.not_true, Bool.false_eq_true, if_false, Option.getD_some, AdapterKind.request]
    rw [perform_bind, perform_ofResult]
    cases hexpand : expandBindings (Dialect.adaptSQLite sql) params with
    | error e => simp [Except.map, Except.toOption]
    | ok expanded =>
      obtain ⟨text, bindings⟩ := expanded
      dsimp only
      rw [perform_locked, perform_bind, perform_system]
      dsimp only
      cases hpool : s.adapter.pool with
      | none => simp
      | some pool =>
        simp only [Except.map, Except.toOption, Option.isSome_some, Option.isNone_some, Bool.false_eq_true, if_false]
        rw [FileDriver.send_scripted]
        refine perform_request (_, _) s fun I hI => Keeps.bind (hI.undisturbed.reply) fun r => ?_
        split
        · exact Keeps.throw _
        · exact keeps_use (hI.undisturbed.emit rfl) (hI.undisturbed.emit rfl) _

/-- An open adapter hands the request that it makes of a statement to its driver, once, and nothing else; no other
adapter hands on anything. -/
theorem perform_execute (sql : String) (params : List Value) (s : System) :
    let t := ((execute sql (some params)).perform s).2
    t.adapter.kind = s.adapter.kind ∧ t.store.requests = s.store.requests ++
      if s.adapter.isOpen then (s.adapter.kind.request sql params).toOption.toList else [] := by
  rw [execute, perform_bind, perform_system, isOpen]
  dsimp only
  cases hkind : s.adapter.kind with
  | stub => simpa [AdapterKind.request, Except.toOption, hkind] using perform_executeStub sql params s
  | mysql => simpa [hkind] using perform_executeServer sql params s
  | sqlite => simpa [hkind] using perform_executeFile sql params s

end Adapter

end RecordMapper
