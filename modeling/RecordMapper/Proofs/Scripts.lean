import RecordMapper.Proofs.Operation
import RecordMapper.Proofs.Terminals

/-!
What operations of models depend on. A script runs statements and takes identifiers one after another, and goes on with
what it gets; it sees nothing else of the system. Main statements: every terminal follows a script, which is settled by
class, intent and clock; and where a script gets the same answers and the same identifiers, it sends the same
statements and ends in the same way, whatever else is different about the systems.
-/
namespace RecordMapper

/-- An operation by what it asks: it has ended, runs a statement, or takes a new identifier. -/
inductive Script (α : Type) where
  | done (r : Except Failure α)
  | ask (q : Question) (next : Except Failure Answer → Script α)
  | issue (next : Value → Script α)

/-- What passes between a script and its surroundings: a statement and its answer, or an identifier. -/
inductive Exchange where
  | statement (q : Question) (answer : Except Failure Answer)
  | identifier (v : Value)

/-- What the surroundings give: the answer, or the identifier. -/
def Exchange.given : Exchange → Except Failure Answer ⊕ Value
  | statement _ answer => .inl answer
  | identifier v => .inr v

/-- The surroundings give the same at each place that both logs have. -/
def SameGiven (log log' : List Exchange) : Prop :=
  ∀ (k : Nat) (x x' : Exchange), log[k]? = some x → log'[k]? = some x' → x.given = x'.given

theorem SameGiven.of_eq {log log' : List Exchange} (h : log = log') : SameGiven log log' := by
  subst h
  exact fun _ _ _ hx hx' => congrArg Exchange.given (Option.some.inj (hx.symm.trans hx'))

theorem SameGiven.tail {x x' : Exchange} {log log' : List Exchange} (h : SameGiven (x :: log) (x' :: log')) :
    SameGiven log log' := fun k => h (k + 1)

namespace Script

open Operation

variable {α β : Type}

/-- One script after the other. -/
def andThen : Script α → (α → Script β) → Script β
  | done (.ok a), f => f a
  | done (.error e), _ => done (.error e)
  | ask q next, f => ask q fun answer => (next answer).andThen f
  | issue next, f => issue fun v => (next v).andThen f

/-- The operation that a client makes of a script. -/
def perform : Script α → Operation α
  | done r => ofResult r
  | ask q next => do (next (← outcome (Client.execute q.sql q.bindings))).perform
  | issue next => do (next (← Terminal.issue)).perform

/-- What passes between a script and a system. -/
def log : Script α → System → List Exchange
  | done _, _ => []
  | ask q next, s =>
    let (answer, t) := (Client.execute q.sql q.bindings).perform s
    .statement q answer :: (next answer).log t
  | issue next, s =>
    let v := Value.text (Terminal.identifier (s.issued + 1))
    .identifier v :: (next v).log { s with issued := s.issued + 1 }

/-- Questions one after another. -/
def askAll : List Question → Script (List (Except Failure Answer))
  | [] => done (.ok [])
  | q :: rest => ask q fun first => (askAll rest).andThen fun answers => done (.ok (first :: answers))

/-- A reading as a script. -/
def ofRounds : Rounds α → Script α
  | .done a => done (.ok a)
  | .ask questions next => (askAll questions).andThen fun answers => ofRounds (next answers)

/-! ### Scripts and operations -/

theorem perform_ask (q : Question) (next : Except Failure Answer → Script α) (s : System) :
    (ask q next).perform.perform s = (next ((Client.execute q.sql q.bindings).perform s).1).perform.perform
      ((Client.execute q.sql q.bindings).perform s).2 := by
  rw [perform, perform_bind, perform_outcome]

theorem perform_issue (next : Value → Script α) (s : System) :
    (issue next).perform.perform s =
      (next (.text (Terminal.identifier (s.issued + 1)))).perform.perform { s with issued := s.issued + 1 } := by
  rw [perform, perform_bind]
  rfl

theorem perform_andThen (f : α → Script β) : ∀ (p : Script α) (s : System),
    (p.andThen f).perform.perform s = (p.perform >>= fun a => (f a).perform).perform s
  | done (.ok a), s => by
    rw [Operation.perform_bind]
    rfl
  | done (.error e), s => by
    rw [Operation.perform_bind]
    rfl
  | ask q next, s => by
    rw [andThen, perform_ask, perform_andThen f, Operation.perform_bind, Operation.perform_bind, perform_ask]
  | issue next, s => by
    rw [andThen, perform_issue, perform_andThen f, Operation.perform_bind, Operation.perform_bind, perform_issue]

theorem log_ask (q : Question) (next : Except Failure Answer → Script α) (s : System) :
    (ask q next).log s = .statement q ((Client.execute q.sql q.bindings).perform s).1 ::
      (next ((Client.execute q.sql q.bindings).perform s).1).log ((Client.execute q.sql q.bindings).perform s).2 := rfl

/-- A script that is given the same sends the same and ends in the same way. -/
theorem log_eq_of_sameGiven : ∀ (p : Script α) {s t : System}, SameGiven (p.log s) (p.log t) →
    p.log s = p.log t ∧ (p.perform.perform s).1 = (p.perform.perform t).1
  | done r, s, t, _ => ⟨rfl, rfl⟩
  | ask q next, s, t, h => by
    rw [log_ask, log_ask] at h ⊢
    rw [perform_ask, perform_ask]
    generalize (Client.execute q.sql q.bindings).perform s = x at h ⊢
    generalize (Client.execute q.sql q.bindings).perform t = y at h ⊢
    obtain ⟨answer, s'⟩ := x
    obtain ⟨answer', t'⟩ := y
    -- what is given at the first place decides how the script goes on
    have hanswer : answer = answer' := Sum.inl.inj (h 0 _ _ rfl rfl)
    subst hanswer
    obtain ⟨hlog, hended⟩ := log_eq_of_sameGiven (next answer) h.tail
    exact ⟨congrArg _ hlog, hended⟩
  | issue next, s, t, h => by
    rw [log, log] at h ⊢
    rw [perform_issue, perform_issue]
    have hidentifier : Value.text (Terminal.identifier (s.issued + 1)) = .text (Terminal.identifier (t.issued + 1)) :=
      Sum.inr.inj (h 0 _ _ rfl rfl)
    have hrest := h.tail
    rw [← hidentifier] at hrest ⊢
    obtain ⟨hlog, hended⟩ := log_eq_of_sameGiven _ hrest
    exact ⟨congrArg _ hlog, hended⟩

theorem perform_askAll : ∀ (questions : List Question) (s : System),
    (askAll questions).perform.perform s = (Rounds.askAll questions).perform s
  | [], _ => rfl
  | q :: rest, s => by
    rw [askAll, perform_ask, perform_andThen, Rounds.askAll, Operation.perform_bind, Operation.perform_bind,
      perform_outcome]
    dsimp only
    rw [perform_askAll rest, Operation.perform_bind]
    rfl

theorem perform_ofRounds : ∀ (p : Rounds α) (s : System), (ofRounds p).perform.perform s = p.perform.perform s
  | .done a, _ => rfl
  | .ask questions next, s => by
    rw [ofRounds, perform_andThen, Operation.perform_bind, perform_askAll, Rounds.perform, Operation.perform_bind]
    split
    · exact perform_ofRounds _ _
    · rfl

end Script

/-- The script that an operation follows in every system. -/
structure Operation.Scripted {α : Type} (x : Operation α) where
  script : Script α
  performs : ∀ s, x.perform s = script.perform.perform s

namespace Operation.Scripted

variable {α β γ : Type}

def ofEq {x y : Operation α} (h : x = y) (hy : Scripted y) : Scripted x := ⟨hy.script, h ▸ hy.performs⟩

def ofResult (r : Except Failure α) : Scripted (Operation.ofResult r) := ⟨.done r, fun _ => rfl⟩

def pure (a : α) : Scripted (Pure.pure a : Operation α) := ⟨.done (.ok a), fun _ => rfl⟩

def throw (e : Failure) : Scripted (MonadExcept.throw e : Operation α) := ⟨.done (.error e), fun _ => rfl⟩

def execute (sql : String) (params : List Value) : Scripted (Client.execute sql params) :=
  ⟨.ask ⟨sql, params⟩ .done, fun s => by rw [Script.perform_ask]; rfl⟩

def rounds (p : Rounds α) : Scripted p.perform := ⟨.ofRounds p, fun s => (Script.perform_ofRounds p s).symm⟩

def bind {x : Operation α} {f : α → Operation β} (hx : Scripted x) (hf : ∀ a, Scripted (f a)) :
    Scripted (x >>= f) where
  script := hx.script.andThen fun a => (hf a).script
  performs s := by
    rw [Script.perform_andThen, perform_bind, perform_bind, hx.performs]
    split
    · exact (hf _).performs _
    · rfl

def ite {c : Prop} [Decidable c] {x y : Operation α} (hx : Scripted x) (hy : Scripted y) :
    Scripted (if c then x else y) where
  script := if c then hx.script else hy.script
  performs s := by
    split
    · exact hx.performs s
    · exact hy.performs s

end Operation.Scripted

namespace Terminal

open Operation

/-! ### Terminals -/

variable (env : Surroundings) (s : Schema) (i : Intent)

def scriptedRead : Scripted (runRead env s i) := .bind (.rounds _) fun t => .ofResult t.result

def scriptedFirst : Scripted (firstRow env s i) := .bind (scriptedRead env s _) fun a => .ofResult (firstOf a)

def scriptedCount : Scripted (countRows env s i) := .bind (scriptedFirst env s _) fun row => .ofResult (countIn row)

def scriptedPage (page perPage : Value) : Scripted (readPage env s i page perPage) :=
  .bind (.ofResult _) fun (_, _) => .bind (.ofResult _) fun _ => .bind (scriptedRead env s _) fun _ =>
    .bind (scriptedCount env s _) fun _ => .bind (.ofResult _) fun _ => .bind (.ofResult _) fun _ =>
      .bind (.ofResult _) fun _ => .pure _

def scriptedWrite : Scripted (runWrite s i) := .bind (.ofResult _) fun l => .execute l.sql l.bindings

/-- A record with the times that the library fills in when it is inserted. -/
def timed (action : Action) (row : Row) : Row :=
  if !s.timestamps then row
  else
    let row := Row.set "created_at" (timestamp env) row
    if action = .insert then row else Row.set "updated_at" (timestamp env) row

theorem perform_timed (action : Action) (row : Row) (sys : System) :
    (if !s.timestamps then pure row
      else if action = .insert then pure (Row.set "created_at" (timestamp env) row)
      else pure (Row.set "updated_at" (timestamp env) (Row.set "created_at" (timestamp env) row)) :
        Operation Row).perform sys = (.ok (timed env s action row), sys) := by
  rw [timed]
  split
  · rfl
  · dsimp only
    split <;> rfl

def scriptedStamped (action : Action) (written : Row) : Scripted (stamped env s action written) :=
  match h : s.uuidColumn.filter (!·.isEmpty) with
  | some column => ⟨.issue fun v => .done (.ok (timed env s action (Row.set column v written))), fun sys => by
      simp only [stamped, h]
      rw [Script.perform_issue]
      exact perform_timed env s action _ _⟩
  | none => ⟨.done (.ok (timed env s action written)), fun sys => by
      simp only [stamped, h]
      exact perform_timed env s action _ _⟩

def scriptedInsert (action : Action) (data : Row) : Scripted (insertRow env s action data) :=
  .bind (.ofResult _) fun _ => .ite (.pure _) <| .bind (scriptedStamped env s action _) fun _ =>
    .bind (scriptedWrite s _) fun _ => .pure _

def scriptedUpdate (data : Row) : Scripted (updateRows env s i data) :=
  .bind (.ofResult _) fun _ => .ite (.pure _) <| .ite (.throw _) <| .bind (scriptedWrite s _) fun _ => .pure _

def scriptedDeleteForGood : Scripted (deleteForGood s i) := .bind (scriptedWrite s _) fun _ => .pure _

def scriptedDelete : Scripted (deleteRows env s i) :=
  .ite (scriptedDeleteForGood s i) <| .ite (.throw _) <| .bind (scriptedWrite s _) fun _ => .pure _

/-- The script of a terminal is settled by its class, its intent and its clock. -/
def scripted (t : Terminal) : Scripted (t.perform env s i) :=
  .ofEq (t.does_run env s i).perform_eq <| match t with
  | get => .bind (scriptedRead env s _) fun _ => .pure _
  | first | find _ => .bind (scriptedFirst env s _) fun _ => .pure _
  | count => .bind (scriptedCount env s i) fun _ => .pure _
  | paginate page perPage => .bind (scriptedPage env s i page perPage) fun _ => .pure _
  | rawQuery _ => .bind (scriptedRead env s _) fun _ => .pure _
  | insert data => scriptedInsert env s .insert data
  | insertIgnore data => scriptedInsert env s .insertIgnore data
  | insertOrUpdate data => scriptedInsert env s .insertUpdate data
  | update data => scriptedUpdate env s i data
  | delete => scriptedDelete env s i
  | forceDelete => scriptedDeleteForGood s i

end Terminal

end RecordMapper
