import RecordMapper.Proofs.FileStatements

/-!
Statements on a file, one after another, over any driver of the file: one that takes the statement or not, and gives a
cursor on which fetching, committing and closing may each fail. Main statement: in every run a cursor that has been
opened is closed once, as the last thing that happens to its statement, and a statement that succeeds has been committed
exactly if its cursor has no rows to fetch. So a change that gives back rows is not committed.
-/
namespace RecordMapper

open Operation

def Event.isCursorClose : Event → Bool
  | .cursorClose => true
  | _ => false

/-! ### One statement -/

namespace FileCursor

/-- What the calls on a cursor let the store see: a commit if there are no rows to fetch, and the closing. -/
def trace (c : FileCursor) : List Event := if c.rows.isSome then [.cursorClose] else [.commit, .cursorClose]

/-- What fetching or committing gives. -/
def finished (c : FileCursor) : Except Failure Answer :=
  match c.rows, c.commitError with
  | some fetched, _ => (fetched.mapError .ofError).map fun rows => .rows (rows.map Row.ofPairs)
  | none, some e => .error (.ofError e)
  | none, none => .ok (.summary c.summary)

/-- What the caller is given: what fetching or committing gives, unless closing fails. -/
def result (c : FileCursor) : Except Failure Answer :=
  match c.closeError with
  | some e => .error (.ofError e)
  | none => c.finished

theorem perform_finish (c : FileCursor) (s : System) :
    c.finish.perform s = (c.finished, if c.rows.isSome then s else { s with store := s.store.emit .commit }) := by
  obtain ⟨rows, commitError, rowCount, lastId, closeError⟩ := c
  cases rows with
  | none => cases commitError <;> rfl
  | some fetched => cases fetched <;> rfl

theorem perform_close (c : FileCursor) (s : System) :
    c.close.perform s =
      ((match c.closeError with
        | none => .ok ()
        | some e => .error (.ofError e)), { s with store := s.store.emit .cursorClose }) := by
  obtain ⟨rows, commitError, rowCount, lastId, closeError⟩ := c
  cases closeError <;> rfl

/-- What is done with a cursor leaves its trace, however the calls on it end. -/
theorem perform_use (c : FileCursor) (s : System) :
    c.use.perform s = (c.result, { s with store := { s.store with events := s.store.events ++ c.trace } }) := by
  rw [use, perform_ensuring, perform_finish, perform_close, result, trace]
  cases c.rows with
  | some fetched => cases c.closeError <;> rfl
  | none =>
    have htrace : (s.store.emit .commit).emit .cursorClose =
        { s.store with events := s.store.events ++ [.commit, .cursorClose] } := by
      simp only [Store.emit, List.append_assoc, List.cons_append, List.nil_append]
    simp only [Option.isSome_none, Bool.false_eq_true, if_false, htrace]
    cases c.closeError <;> rfl

end FileCursor

namespace FileDriver

theorem perform_ask (d : FileDriver) (s : System) :
    d.ask.perform s = (.ok (d.answer s.store), { s with store := d.after s.store }) := rfl

/-- A driver that takes a statement leaves the trace of its cursor behind it, and one that does not leaves nothing. -/
theorem perform_send (d : FileDriver) (text : String) (values : List Value) (s : System) :
    let r := (d.send text values).perform s
    let asked := Event.execute text (some values)
    match d.answer (s.store.emit asked) with
    | .ok c => r.1 = c.result ∧ r.2.store.events = s.store.events ++ asked :: c.trace
    | .error e => r.1 = .error (.ofError e) ∧ r.2.store.events = s.store.events ++ [asked] := by
  dsimp only
  rw [send, perform_bind, perform_emit]
  dsimp only
  rw [perform_bind, perform_ask]
  dsimp only
  cases d.answer (s.store.emit (.execute text (some values))) with
  | error e => exact ⟨rfl, d.events_after _⟩
  | ok c =>
    dsimp only
    rw [FileCursor.perform_use]
    refine ⟨rfl, ?_⟩
    dsimp only
    rw [d.events_after, Store.emit, List.append_assoc, List.singleton_append]

/-- The cursor that a driver opens for a statement, if the adapter hands it on and the driver takes it. -/
def opened (d : FileDriver) (sql : String) (params : Option (List Value)) (s : System) : Option FileCursor :=
  if s.adapter.connected && s.adapter.pool.isSome then
    match AdapterKind.sqlite.request sql (params.getD []) with
    | .ok (text, values) => (d.answer (s.store.emit (.execute text values))).toOption
    | .error _ => none
  else none

/-- A statement for which a cursor is opened leaves the statement and the cursor's trace, and gives what the cursor
does; a statement for which none is opened fails, and leaves the statement at most. -/
theorem perform_executeThrough (d : FileDriver) (sql : String) (params : Option (List Value)) (s : System) :
    let r := (Adapter.executeThrough d sql params).perform s
    (∃ c text values, d.opened sql params s = some c ∧ r.1 = c.result ∧
        r.2.store.events = s.store.events ++ .execute text values :: c.trace) ∨
      ∃ e asked, d.opened sql params s = none ∧ r.1 = .error e ∧ r.2.store.events = s.store.events ++ asked ∧
        ∀ x ∈ asked, ∃ text values, x = .execute text values := by
  dsimp only
  rw [Adapter.executeThrough, perform_bind, perform_system, opened]
  dsimp only
  cases hconnected : s.adapter.connected with
  | false => exact .inr ⟨_, [], rfl, rfl, (List.append_nil _).symm, List.forall_mem_nil _⟩
  | true =>
    simp only [Bool.not_true, Bool.false_eq_true, if_false, AdapterKind.request, Bool.true_and]
    rw [perform_bind, perform_ofResult]
    cases hexpand : expandBindings (Dialect.adaptSQLite sql) (params.getD []) with
    | error e => exact .inr ⟨e, [], ite_self _, rfl, (List.append_nil _).symm, List.forall_mem_nil _⟩
    | ok expanded =>
      obtain ⟨text, bindings⟩ := expanded
      dsimp only
      rw [perform_locked, perform_bind, perform_system]
      dsimp only
      cases hpool : s.adapter.pool with
      | none => exact .inr ⟨_, [], rfl, rfl, (List.append_nil _).symm, List.forall_mem_nil _⟩
      | some pool =>
        simp only [Option.isSome_some, Option.isNone_some, Bool.false_eq_true, if_false, if_true, Except.map]
        have hsent := d.perform_send text (bindings.map Dialect.toSQLite) s
        cases hanswer : d.answer (s.store.emit (.execute text (some (bindings.map Dialect.toSQLite)))) with
        | error e =>
          simp only [hanswer] at hsent
          exact .inr ⟨.ofError e, [_], rfl, hsent.1, hsent.2, fun x hx => ⟨_, _, List.mem_singleton.1 hx⟩⟩
        | ok c =>
          simp only [hanswer] at hsent
          exact .inl ⟨c, text, _, rfl, hsent⟩

end FileDriver

/-! ### A run of statements -/

/-- What becomes of a statement: the cursor that is opened for it, what the caller is given, and what the store sees
of it. -/
structure FileReport where
  cursor : Option FileCursor
  result : Except Failure Answer
  events : List Event

namespace FileReport

/-- A cursor that is opened is closed once, behind all else; a statement that succeeds has a cursor, and is committed
exactly if there are no rows to fetch from it. -/
structure Orderly (r : FileReport) : Prop where
  closed_once : (r.events.filter Event.isCursorClose).length = if r.cursor.isSome then 1 else 0
  closed_last : r.cursor.isSome → r.events.getLast? = some .cursorClose
  committed : ∀ a, r.result = .ok a → ∃ c text values, r.cursor = some c ∧
    r.events = .execute text values :: if c.rows.isSome then [.cursorClose] else [.commit, .cursorClose]

end FileReport

namespace FileDriver

/-- One statement, and what becomes of it. -/
def report (d : FileDriver) (sql : String) (params : Option (List Value)) (s : System) : FileReport × System :=
  let r := (Adapter.executeThrough d sql params).perform s
  (⟨d.opened sql params s, r.1, r.2.store.events.drop s.store.events.length⟩, r.2)

/-- Statements one after another, each with its bindings, and what becomes of each. -/
def run (d : FileDriver) : List (String × Option (List Value)) → System → List FileReport × System
  | [], s => ([], s)
  | (sql, params) :: rest, s =>
    let first := d.report sql params s
    let others := d.run rest first.2
    (first.1 :: others.1, others.2)

/-- One statement: its report is in order, and the events in it are those that the store has more than before. -/
theorem report_orderly (d : FileDriver) (sql : String) (params : Option (List Value)) (s : System) :
    (d.report sql params s).1.Orderly ∧
      (d.report sql params s).2.store.events = s.store.events ++ (d.report sql params s).1.events := by
  rw [report]
  dsimp only
  obtain ⟨c, text, values, hopened, hresult, hevents⟩ | ⟨e, asked, hopened, hresult, hevents, hasked⟩ :=
    d.perform_executeThrough sql params s
  · rw [hopened, hresult, hevents, List.drop_left]
    have hclosed : ((Event.execute text values :: c.trace).filter Event.isCursorClose).length = 1 ∧
        (Event.execute text values :: c.trace).getLast? = some .cursorClose := by
      rw [FileCursor.trace]
      split <;> exact ⟨rfl, rfl⟩
    exact ⟨⟨hclosed.1, fun _ => hclosed.2, fun a _ => ⟨c, text, values, rfl, rfl⟩⟩, rfl⟩
  · rw [hopened, hresult, hevents, List.drop_left]
    have hnone : asked.filter Event.isCursorClose = [] := by
      refine List.filter_eq_nil_iff.2 fun x hx => ?_
      obtain ⟨text, values, rfl⟩ := hasked x hx
      exact Bool.false_ne_true
    exact ⟨⟨congrArg List.length hnone, nofun, nofun⟩, rfl⟩

/-- Any driver of a file, any statements with their bindings, one after another, and any system to begin with: every
statement has its report, all the reports are in order, and together they are what the store sees. With the store's
script for a driver, a statement is what the adapter of a file does with it. -/
theorem run_orderly (d : FileDriver) (statements : List (String × Option (List Value))) (s : System) :
    Adapter.executeThrough .scripted = Adapter.executeFile ∧
      (d.run statements s).1.length = statements.length ∧ (∀ r ∈ (d.run statements s).1, r.Orderly) ∧
      (d.run statements s).2.store.events = s.store.events ++ (d.run statements s).1.flatMap FileReport.events := by
  refine ⟨rfl, ?_⟩
  induction statements generalizing s with
  | nil => exact ⟨rfl, List.forall_mem_nil _, (List.append_nil _).symm⟩
  | cons statement rest ih =>
    obtain ⟨sql, params⟩ := statement
    obtain ⟨hfirst, hevents⟩ := d.report_orderly sql params s
    obtain ⟨hlength, hothers, hmore⟩ := ih (d.report sql params s).2
    simp only [run]
    refine ⟨?_, List.forall_mem_cons.2 ⟨hfirst, hothers⟩, ?_⟩
    · rw [List.length_cons, List.length_cons, hlength]
    · rw [hmore, hevents, List.flatMap_cons, List.append_assoc]

/-- A driver that has a cursor without rows for every statement, and fails to commit. -/
def busy : FileDriver where
  answer _ := .ok ⟨none, some (.plain (.ofMessage .driver "database is locked")), 1, none, none⟩
  after store := store
  events_after _ := rfl

/-- An insertion is committed, a reading is not; a commit that fails is followed by the closing all the same. -/
theorem run_of_two :
    let statements :=
      [("INSERT INTO users (name) VALUES (?)", some [Value.text "Ada"]), ("SELECT name FROM users", none)]
    let script : List Entry := [⟨.count 1 (some 7), 0.0⟩, ⟨.rows [[("name", .text "Ada")]], 0.0⟩]
    let loaded := { connectedFile with store := { Store.quiet with script } }
    ((scripted.run statements loaded).1.map FileReport.events =
        [[.execute "INSERT INTO users (name) VALUES (?)" (some [.text "Ada"]), .commit, .cursorClose],
          [.execute "SELECT name FROM users" (some []), .cursorClose]] ∧
      ∀ r ∈ (scripted.run statements loaded).1, r.Orderly) ∧
    ((busy.run [("DELETE FROM users", none)] connectedFile).1.map FileReport.events =
        [[.execute "DELETE FROM users" (some []), .commit, .cursorClose]] ∧
      ∀ r ∈ (busy.run [("DELETE FROM users", none)] connectedFile).1, r.Orderly) := by
  intro statements script loaded
  exact ⟨⟨rfl, (run_orderly scripted statements loaded).2.2.1⟩, rfl, (run_orderly busy _ connectedFile).2.2.1⟩

end FileDriver

/-- An insertion that gives back what it inserted succeeds, and is not committed. -/
theorem Adapter.insertion_left_open :
    let script : List Entry := [⟨.rows [[("id", .int 1)]], 0.0⟩]
    let r := (executeFile "INSERT INTO users (name) VALUES (?) RETURNING id" (some [.text "Ada"])).perform
      { connectedFile with store := { Store.quiet with script } }
    r.1 = .ok (.rows [Row.ofPairs [("id", .int 1)]]) ∧
      r.2.store.events =
        [.execute "INSERT INTO users (name) VALUES (?) RETURNING id" (some [.text "Ada"]), .cursorClose] :=
  ⟨rfl, rfl⟩

end RecordMapper
