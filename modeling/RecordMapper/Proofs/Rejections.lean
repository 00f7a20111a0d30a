import RecordMapper.Proofs.Retries
import RecordMapper.Proofs.WrittenRecords

/-!
Writes that are refused. A terminal that writes casts its record, asks for conditions and makes its statement before it
runs anything; what is refused there has touched nothing. Once a statement runs, the client reports the faults of the
store, faults of connections and faults of its own about the store, and none of these refuses a record or an intent
unless the store's does. Main statement: after a write that fails as a misuse, for want of a statement or in a cast the
system is as it was before.
-/
namespace RecordMapper

/-- The fault refuses what was asked for: a misuse of a model, an intent without statement, or a value that a cast
cannot convert. -/
def Fault.IsRejection (f : Fault) : Prop := f.kind = .usage ∨ f.kind = .compile ∨ f.kind = .serialization

/-- The error is a fault that refuses what was asked for. -/
def Error.IsRejection : Error → Prop
  | fault f => f.IsRejection
  | plain _ => False

/-- No statement will fail with a fault by which the library refuses what it is asked for. -/
structure Store.NeverRejects (s : Store) : Prop where
  script : ∀ entry ∈ s.script, ∀ e, entry.reply = .fail e → ¬ e.IsRejection
  lastResort : ∀ e, s.lastResort.reply = .fail e → ¬ e.IsRejection

/-- Terminals that send something other than a reading statement. -/
def Terminal.isWriting : Terminal → Bool
  | insert _ | insertIgnore _ | insertOrUpdate _ | update _ | delete | forceDelete => true
  | _ => false

open Operation

/-! ### Faults of clients -/

/-- No statement of the system will fail with a fault by which the library refuses what it is asked for. -/
abbrev Accepting (s : System) : Prop := s.store.NeverRejects

/-- The failure is not one that refuses what was asked for. -/
abbrev Failure.IsAccepting (e : Failure) : Prop := ¬ e.error.IsRejection

namespace Store.NeverRejects

variable {s : Store}

theorem reply (h : s.NeverRejects) : ∀ e, s.reply.1 = .fail e → ¬ e.IsRejection := by
  rw [Store.reply]
  cases hscript : s.script with
  | nil => exact h.lastResort
  | cons entry rest => exact h.script entry (hscript ▸ List.mem_cons_self)

theorem afterReply (h : s.NeverRejects) : s.reply.2.NeverRejects := by
  rw [Store.reply]
  cases hscript : s.script with
  | nil => exact ⟨h.script, h.lastResort⟩
  | cons entry rest => exact ⟨fun e he => h.script e (hscript ▸ List.mem_cons_of_mem _ he), h.lastResort⟩

theorem afterConnectError (h : s.NeverRejects) : s.connectError.2.NeverRejects := by
  rw [Store.connectError]
  cases s.connectErrors <;> exact ⟨h.script, h.lastResort⟩

end Store.NeverRejects

theorem undisturbed_accepting : Undisturbed (fun _ => True) Accepting where
  emit _ := fun _ hs => ⟨hs.script, hs.lastResort⟩
  reply := fun _ hs => hs.afterReply
  nextConnect := fun s hs => by
    have hafter : Accepting { s with store := s.store.connectError.2 } := hs.afterConnectError
    exact Keeps.failWith? s.store.connectError.1 _ hafter
  changeAdapter _ := fun _ hs => hs

theorem keepConnecting_accepting : AdapterCalls.library.KeepConnecting Accepting where
  connect := Adapter.keeps_connect undisturbed_accepting fun _ _ => trivial
  changeClient _ := fun _ hs => hs
  sleep _ := undisturbed_accepting.emit trivial

/-- What is done with a reply that does not refuse what was asked for. -/
theorem failsFrom_reply {α : Type} {P : Failure → Prop} {f : Reply → Operation α}
    (hf : ∀ r, (∀ e, r = .fail e → ¬ e.IsRejection) → FailsFrom Accepting P (f r)) :
    FailsFrom Accepting P (reply >>= f) := by
  intro s e hs he
  rw [perform_bind, perform_reply] at he
  exact hf _ hs.reply _ e hs.afterReply he

theorem isAccepting_plain (kind : ErrorKind) (message : String) : (Failure.ofPlain kind message).IsAccepting := id

theorem expandBindings_isAccepting {sql : String} {params : List Value} {e : Failure}
    (h : expandBindings sql params = .error e) : e.IsAccepting := by
  rw [expandBindings] at h
  split at h
  · cases h
  · dsimp only at h
    split at h
    · cases h
      exact isAccepting_plain _ _
    · cases h

namespace Adapter

section
variable (sql : String) (params : Option (List Value))

theorem accepting_executeStub : FailsFrom Accepting Failure.IsAccepting (executeStub sql params) := by
  refine FailsFrom.bind (Fails.change _).failsFrom (undisturbed_accepting.emit trivial) fun _ =>
    failsFrom_reply fun r hr => ?_
  cases r with
  | fail e => exact (Fails.throw (hr e rfl)).failsFrom
  | rows | count | value => exact (Fails.pure _).failsFrom

theorem accepting_executeServer : FailsFrom Accepting Failure.IsAccepting (executeServer sql params) := by
  refine FailsFrom.bind Fails.system.failsFrom Keeps.system fun s =>
    FailsFrom.ite (Fails.throwBind (isAccepting_plain _ _) _).failsFrom ?_
  refine FailsFrom.bind (Fails.ofResult fun _ => expandBindings_isAccepting).failsFrom (Keeps.ofResult _)
    fun (text, bindings) => FailsFrom.ite (Fails.throwBind (isAccepting_plain _ _) _).failsFrom ?_
  refine FailsFrom.bind (Fails.change _).failsFrom (undisturbed_accepting.emit trivial) fun _ =>
    failsFrom_reply fun r hr => ?_
  cases r with
  | fail e => exact (Fails.throw (hr e rfl)).failsFrom
  | rows | count | value => exact (Fails.pure _).failsFrom

theorem accepting_executeFile : FailsFrom Accepting Failure.IsAccepting (executeFile sql params) := by
  refine FailsFrom.bind Fails.system.failsFrom Keeps.system fun s =>
    FailsFrom.ite (Fails.throwBind (isAccepting_plain _ _) _).failsFrom ?_
  refine FailsFrom.bind (Fails.ofResult fun _ => expandBindings_isAccepting).failsFrom (Keeps.ofResult _)
    fun (text, bindings) => FailsFrom.locked _ ?_
  refine FailsFrom.bind Fails.system.failsFrom Keeps.system fun s =>
    FailsFrom.ite (Fails.throwBind (isAccepting_plain _ _) _).failsFrom ?_
  dsimp only
  rw [FileDriver.send_scripted]
  refine FailsFrom.bind (Fails.change _).failsFrom (undisturbed_accepting.emit trivial) fun _ =>
    failsFrom_reply fun r hr => ?_
  cases r with
  | fail e => exact (Fails.throw (hr e rfl)).failsFrom
  | rows | count | value =>
    -- nothing fails on the cursor of such a reply
    exact (fails_use (fun _ h => nomatch h) (fun _ h => nomatch h) fun _ h => nomatch h).failsFrom

/-- A statement fails in the adapter itself with a plain error, or else as the store replies. -/
theorem accepting_execute : FailsFrom Accepting Failure.IsAccepting (execute sql params) := by
  refine FailsFrom.bind Fails.system.failsFrom Keeps.system fun s => ?_
  split
  · exact accepting_executeStub sql params
  · exact accepting_executeServer sql params
  · exact accepting_executeFile sql params

theorem keeps_accepting_execute : Keeps Accepting (execute sql params) :=
  keeps_execute undisturbed_accepting.toUndisturbedByStatements (fun _ _ => trivial) sql params

end

end Adapter

namespace Client

variable {c : Config} {sql : String} {params : List Value}

/-- A fault of a connection that may pass, and any other error that is no fault. -/
theorem isAccepting_of_connection {e : Failure} (h : ConnectionMayPass e) : e.IsAccepting := by
  obtain ⟨error, cause⟩ := e
  cases error with
  | plain e => exact id
  | fault f =>
    have hkind : f.kind = .connection := (h f rfl).1
    rintro (h | h | h) <;> cases hkind.symm.trans h

theorem keeps_accepting_attempt (sql : String) (params : List Value) : Keeps Accepting (attempt sql params) :=
  keepConnecting_accepting.attempt (Adapter.keeps_accepting_execute sql (some params))

theorem accepting_attempt (sql : String) (params : List Value) :
    FailsFrom Accepting Failure.IsAccepting (attempt sql params) := by
  have hconnecting : Keeps Accepting ensureConnected := keepConnecting_accepting.ensureConnected
  exact FailsFrom.bind (fun s e _ he => isAccepting_of_connection (fails_ensureConnected s e he)) hconnecting
    fun _ => Adapter.accepting_execute sql (some params)

/-- None of the attempts is refused. -/
theorem Tries.accepting {n : Nat} {s t : System} {outcomes : List (Except Failure Answer)} {delays : List Number}
    (h : Tries c sql params n s outcomes delays t) (hs : Accepting s) :
    ∀ e, .error e ∈ outcomes → e.IsAccepting := by
  induction h with
  | @last _ s t outcome hlast =>
    intro e he
    refine accepting_attempt sql params s e hs ?_
    rw [hlast, ← List.mem_singleton.1 he]
  | @again _ s s' t failure d outcomes delays hfailed hpasses hdelay hrest ih =>
    have hafter : Accepting s' := by
      have h := keeps_accepting_attempt sql params s hs
      rwa [hfailed] at h
    intro e he
    rcases List.mem_cons.1 he with he | he
    · refine accepting_attempt sql params s e hs ?_
      rw [hfailed, ← he]
    · exact ih (undisturbed_accepting.emit trivial _ hafter) e he

/-- A statement that runs is not refused. -/
theorem accepting_execute (sql : String) (params : List Value) :
    FailsFrom Accepting Failure.IsAccepting (execute sql params) := by
  intro s e hs he
  rw [execute, AdapterCalls.run, perform_bind, perform_system] at he
  dsimp only at he
  obtain ⟨outcomes, delays, htries, -, hends⟩ :=
    tries_attempts s.client.config sql params (s.client.config.retryAttempts.toNat - 1) 1 s
  rw [he] at hends
  cases hends with
  | @refused failure hlast _ =>
    have hmember : failure.IsAccepting := htries.accepting hs _ (List.mem_of_getLast? hlast)
    rw [reported]
    cases herror : failure.error with
    | fault f => exact hmember
    | plain p => rintro (h | h | h) <;> cases h
  | exhausted _ _ _ => rintro (h | h | h) <;> cases h
  | noDelay _ _ _ _ hdelay =>
    intro hrejected
    obtain ⟨error, cause⟩ := e
    cases error with
    | plain p => exact hrejected
    | fault f => exact Config.backoffDelay_eq_error hdelay ⟨f, rfl⟩

end Client

/-! ### Writes -/

/-- If the operation fails with a fault that refuses what was asked for, it has changed nothing. -/
def RefusesFirst (x : Operation Result) : Prop :=
  ∀ s, s.store.NeverRejects → ∀ e, (x.perform s).1 = .error e → e.error.IsRejection → (x.perform s).2 = s

namespace Terminal

variable {s : Schema} {i : Intent} {data : Row}

theorem refusesFirst_pure (r : Result) : RefusesFirst (pure r) := fun _ _ _ _ _ => rfl

theorem refusesFirst_throw (e : Failure) : RefusesFirst (throw e) := fun _ _ _ _ _ => rfl

theorem RefusesFirst.ite {c : Prop} [Decidable c] {x y : Operation Result} (hx : RefusesFirst x)
    (hy : RefusesFirst y) : RefusesFirst (if c then x else y) := by
  split
  · exact hx
  · exact hy

theorem RefusesFirst.bindResult {α : Type} {r : Except Failure α} {f : α → Operation Result}
    (hf : ∀ a, r = .ok a → RefusesFirst (f a)) : RefusesFirst (ofResult r >>= f) := by
  intro sys hsys e he hrejected
  rw [perform_bind, perform_ofResult] at he ⊢
  cases r with
  | error failure => rfl
  | ok a => exact hf a rfl sys hsys e he hrejected

/-- What is never refused refuses nothing late. -/
theorem refusesFirst_of_accepting {x : Operation Result} (hx : FailsFrom Accepting Failure.IsAccepting x) :
    RefusesFirst x :=
  fun sys hsys e he hrejected => absurd hrejected (hx sys e hsys he)

/-- What has a statement is not refused. -/
theorem accepting_runWrite {l : Layout} (hl : i.compile s.tableName = .ok l) :
    FailsFrom Accepting Failure.IsAccepting (runWrite s i) :=
  FailsFrom.bindResult (fun e he => by cases hl.symm.trans he) fun l _ => Client.accepting_execute l.sql l.bindings

/-- The statement is made before it runs. -/
theorem refusesFirst_runWrite (f : Answer → Result) : RefusesFirst (do return f (← runWrite s i)) := by
  cases hl : i.compile s.tableName with
  | ok l => exact refusesFirst_of_accepting ((accepting_runWrite hl).map f)
  | error e =>
    intro sys _ _ _ _
    rw [perform_bind, runWrite, perform_bind, perform_ofResult, hl]

/-- A record is cast before it gets its identifier, and what is inserted has a statement. -/
theorem refusesFirst_insertRow (env : Surroundings) {a : Action}
    (ha : a = .insert ∨ a = .insertIgnore ∨ a = .insertUpdate) (data : Row) :
    RefusesFirst (insertRow env s a data) := by
  refine RefusesFirst.bindResult fun written _ => ?_
  by_cases hne : written = []
  · rw [hne]
    exact refusesFirst_pure _
  · rw [if_neg (by simpa using hne)]
    refine refusesFirst_of_accepting fun sys e hsys he => ?_
    have hother : a ≠ .update := by rcases ha with rfl | rfl | rfl <;> decide
    obtain ⟨issued, hstamped⟩ := @perform_stamped s written env a hother sys
    rw [perform_bind, hstamped] at he
    obtain ⟨l, hl⟩ := Intent.exists_compile_record s.tableName ha
      (Row.override_ne_nil (s.stamps env (sys.issued + 1) a) hne)
    exact (accepting_runWrite hl).map _ { sys with issued := issued } e hsys he

theorem refusesFirst_deleteForGood : RefusesFirst (deleteForGood s i) := refusesFirst_runWrite _

theorem refusesFirst_deleteRows (env : Surroundings) : RefusesFirst (deleteRows env s i) := by
  rw [deleteRows]
  exact RefusesFirst.ite refusesFirst_deleteForGood
    (RefusesFirst.ite (refusesFirst_throw _) (refusesFirst_runWrite _))

theorem refusesFirst_updateRows (env : Surroundings) (data : Row) : RefusesFirst (updateRows env s i data) :=
  RefusesFirst.bindResult fun _ _ => RefusesFirst.ite (refusesFirst_pure _)
    (RefusesFirst.ite (refusesFirst_throw _) (refusesFirst_runWrite _))

/-- Whatever is written, it is refused before anything runs. -/
theorem refusesFirst_perform (env : Surroundings) {t : Terminal} (ht : t.isWriting = true) :
    RefusesFirst (t.perform env s i) := by
  rw [(t.does_run env s i).perform_eq]
  cases t with
  | insert data | insertIgnore data | insertOrUpdate data => exact refusesFirst_insertRow env (by decide) data
  | update data => exact refusesFirst_updateRows env data
  | delete => exact refusesFirst_deleteRows env
  | forceDelete => exact refusesFirst_deleteForGood
  | _ => cases ht

/-- A record that a cast cannot convert is refused with the failure of the cast, before anything else is looked at. -/
theorem perform_uncast (env : Surroundings) {t : Terminal} {a : Action} {e : Failure}
    (ht : t.record? = some (a, data)) (h : payload s data = .error e) (sys : System) :
    (t.perform env s i).perform sys = (.error e, sys) := by
  rw [(t.does_run env s i).perform_eq]
  cases t with
  | insert | insertIgnore | insertOrUpdate | update =>
    cases ht
    simp only [insertRow, updateRows, perform_bind, perform_ofResult, h]
  | _ => cases ht

end Terminal

/-- The end of any chain by a write, with a store whose statements do not fail with faults by which the library
refuses what it is asked for. If the write is refused with such a fault, the system is as it was: nothing has reached
the store, and what client and adapter note of their connection is the same. A failure of a cast is the failure of the
write, of whatever kind it is, and leaves the system as it was with any store. -/
theorem refused_write_leaves_system (s : Schema) (classes : Catalogue) (calls : List ChainCall) {t : Terminal}
    (ht : t.isWriting = true) (env : Surroundings) {sys : System} (hstore : sys.store.NeverRejects) :
    let finished := ((Model.called classes ⟨s, .empty⟩ calls).finish env t (Session.fresh sys)).2
    (∀ e, finished.1 = .error e → e.error.IsRejection → finished.2 = Session.fresh sys) ∧
      ∀ a data e, t.record? = some (a, data) → Terminal.payload s data = .error e →
        finished = (.error e, Session.fresh sys) := by
  intro finished
  let m := Model.called classes ⟨s, .empty⟩ calls
  have hfinished : finished = (t.perform env s m.intent).perform (Session.fresh sys) := Chain.finish_called ..
  have hfresh : (Session.fresh sys).store.NeverRejects := ⟨hstore.script, hstore.lastResort⟩
  rw [hfinished]
  exact ⟨Terminal.refusesFirst_perform env ht _ hfresh,
    fun a data e hrecord hcast => Terminal.perform_uncast env hrecord hcast _⟩

/-- Users whose ages are numbers. -/
def agedUsers : Schema :=
  { Schema.root with name := "User", table := some "users", casts := some [("age", "number")] }

/-- What a write of users comes to for a client that is not connected, and that would fail to connect once. -/
def writeOfUsers (t : Terminal) : Except Failure Result × System :=
  ((Model.called Catalogue.start ⟨agedUsers, .empty⟩ []).finish ⟨.start, default⟩ t (Session.fresh Client.stumbling)).2

/-- An age that is no number, and an update without a condition: the client has not even tried to connect. -/
theorem writeOfUsers_refused :
    let uncast := writeOfUsers (.insert [("age", .text "old")])
    let unlimited := writeOfUsers (.update [("age", .int 40)])
    uncast = (.error (Cast.refuse "age" .number "not numeric: 'old'"), Session.fresh Client.stumbling) ∧
      unlimited.1 = .error (Terminal.unconditional agedUsers "update") ∧
      unlimited.2 = Session.fresh Client.stumbling ∧ Client.stumbling.client.connected = false := by
  have hstore : Client.stumbling.store.NeverRejects := by
    refine ⟨fun entry hentry e he => ?_, fun e he => by cases he⟩
    rw [List.mem_singleton.1 hentry] at he
    cases he
    exact id
  have hinsert := refused_write_leaves_system agedUsers .start [] (t := .insert [("age", .text "old")]) rfl
    ⟨.start, default⟩ hstore
  have hupdate := refused_write_leaves_system agedUsers .start [] (t := .update [("age", .int 40)]) rfl
    ⟨.start, default⟩ hstore
  refine ⟨hinsert.2 .insert [("age", .text "old")] _ rfl rfl, rfl, ?_, rfl⟩
  exact hupdate.1 (Terminal.unconditional agedUsers "update") rfl (.inl rfl)

end RecordMapper
