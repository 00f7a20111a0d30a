import RecordMapper.Proofs.FinishedRows
import RecordMapper.Proofs.Retries

/-!
Statements that are answered at the first try. A system obliges if its client comes to an open connection and its store
answers the next statement. Main statement: for such a system, and as long as nothing has been requested, a statement
is answered and requested once, and what has been requested before it was to open a file.
-/
namespace RecordMapper

open Operation

/-- The client comes to an open connection, and the store answers the next statement. -/
def System.Obliges (s : System) : Prop :=
  ∃ t, Client.ensureConnected.perform s = (.ok (), t) ∧ t.adapter.isOpen = true ∧ ∀ e, t.store.reply.1 ≠ .fail e

/-- An event has no part in the next reply. -/
theorem Store.reply_emit (e : Event) (s : Store) : (s.emit e).reply.1 = s.reply.1 := by
  rw [reply, reply, emit]
  cases s.script <;> rfl

namespace Adapter

variable {s : System} {sql : String} {params : List Value} {x : Request}

/-- What is done with a reply that is an answer has a result, if it has one for each answer. -/
theorem answered_reply {e : Event} {f : Reply → Operation Answer} (hreply : ∀ e, s.store.reply.1 ≠ .fail e)
    (hf : ∀ r, (∀ e, r ≠ .fail e) → ∀ t, ∃ a, ((f r).perform t).1 = .ok a) :
    ∃ a, ((emit e >>= fun _ => reply >>= f).perform s).1 = .ok a := by
  rw [perform_bind, perform_emit]
  dsimp only
  rw [perform_bind, perform_reply]
  refine hf _ (fun e he => ?_) _
  rw [Store.reply_emit] at he
  exact hreply e he

theorem answered_executeStub (hreply : ∀ e, s.store.reply.1 ≠ .fail e) :
    ∃ a, ((executeStub sql (some params)).perform s).1 = .ok a := by
  refine answered_reply hreply fun r hr t => ?_
  cases r with
  | fail e => exact absurd rfl (hr e)
  | rows | count | value => exact ⟨_, rfl⟩

theorem answered_executeServer (hconnected : s.adapter.connected = true) (hpool : s.adapter.pool.isSome = true)
    (hreply : ∀ e, s.store.reply.1 ≠ .fail e) (hrequest : AdapterKind.mysql.request sql params = .ok x) :
    ∃ a, ((executeServer sql (some params)).perform s).1 = .ok a := by
  obtain ⟨⟨text, bindings⟩, hexpand, -⟩ := map_eq_ok.1 hrequest
  obtain ⟨pool, hpool⟩ := Option.isSome_iff_exists.1 hpool
  rw [executeServer, perform_bind, perform_system]
  simp only [hconnected, Bool.not_true, Bool.false_eq_true, if_false, Option.getD_some]
  rw [perform_bind, perform_ofResult, hexpand]
  simp only [hpool, Option.isNone_some, Bool.false_eq_true, if_false]
  refine answered_reply hreply fun r hr t => ?_
  cases r with
  | fail e => exact absurd rfl (hr e)
  | rows | count | value => exact ⟨_, rfl⟩

theorem answered_executeFile (hconnected : s.adapter.connected = true) (hpool : s.adapter.pool.isSome = true)
    (hreply : ∀ e, s.store.reply.1 ≠ .fail e) (hrequest : AdapterKind.sqlite.request sql params = .ok x) :
    ∃ a, ((executeFile sql (some params)).perform s).1 = .ok a := by
  obtain ⟨⟨text, bindings⟩, hexpand, -⟩ := map_eq_ok.1 hrequest
  obtain ⟨pool, hpool⟩ := Option.isSome_iff_exists.1 hpool
  rw [executeFile, executeThrough, perform_bind, perform_system]
  simp only [hconnected, Bool.not_true, Bool.false_eq_true, if_false, Option.getD_some]
  rw [perform_bind, perform_ofResult, hexpand]
  dsimp only
  rw [perform_locked, perform_bind, perform_system]
  simp only [hpool, Option.isNone_some, Bool.false_eq_true, if_false]
  rw [FileDriver.send_scripted]
  refine answered_reply hreply fun r hr t => ?_
  cases r with
  | fail e => exact absurd rfl (hr e)
  | rows | count | value => exact ⟨_, rfl⟩

/-- An open adapter that can make a request of a statement has an answer, if the store has one. -/
theorem answered_execute (hopen : s.adapter.isOpen = true) (hreply : ∀ e, s.store.reply.1 ≠ .fail e)
    (hrequest : s.adapter.kind.request sql params = .ok x) :
    ∃ a, ((execute sql (some params)).perform s).1 = .ok a := by
  rw [execute, perform_bind, perform_system]
  dsimp only
  rw [isOpen] at hopen
  cases hkind : s.adapter.kind with
  | stub => exact answered_executeStub hreply
  | mysql =>
    rw [hkind] at hopen hrequest
    obtain ⟨hconnected, hpool⟩ := Bool.and_eq_true_iff.1 hopen
    exact answered_executeServer hconnected hpool hreply hrequest
  | sqlite =>
    rw [hkind] at hopen hrequest
    obtain ⟨hconnected, hpool⟩ := Bool.and_eq_true_iff.1 hopen
    exact answered_executeFile hconnected hpool hreply hrequest

end Adapter

/-- Connecting requests at most the opening of a file. -/
theorem Client.requests_ensureConnected {s t : System} {r : Except Failure Unit} (hquiet : s.store.requests = [])
    (h : ensureConnected.perform s = (r, t)) :
    t.adapter.kind = s.adapter.kind ∧ ∀ x ∈ t.store.requests, x = openingRequest := by
  have hkeeps : Keeps (Sends s.adapter.kind (· = openingRequest)) ensureConnected :=
    (keeps_connecting (P := (· = openingRequest)) rfl).ensureConnected
  have hsent := hkeeps s ⟨rfl, fun x hx => absurd hx (hquiet ▸ List.not_mem_nil)⟩
  rw [h] at hsent
  exact ⟨hsent.kind, hsent.requests⟩

/-- A system that obliges answers a statement at the first try. It is requested once, and before it nothing but the
opening of a file. -/
theorem Client.execute_obliged {s : System} (hobliges : s.Obliges) (hquiet : s.store.requests = []) {sql : String}
    {params : List Value} {x : Request} (hrequest : s.adapter.kind.request sql params = .ok x) :
    ∃ answer opened, ((execute sql params).perform s).1 = .ok answer ∧
      ((execute sql params).perform s).2.store.requests = opened ++ [x] ∧ ∀ y ∈ opened, y = openingRequest := by
  obtain ⟨t, hconnects, hopen, hreply⟩ := hobliges
  obtain ⟨hkind, hopened⟩ := requests_ensureConnected hquiet hconnects
  rw [← hkind] at hrequest
  obtain ⟨answer, hanswer⟩ := Adapter.answered_execute hopen hreply hrequest
  have hrequests := (Adapter.perform_execute sql params t).2
  rw [if_pos hopen, hrequest] at hrequests
  have hattempt : (attempt sql params).perform s = (.ok answer, ((Adapter.execute sql (some params)).perform t).2) := by
    rw [attempt, AdapterCalls.attempt, perform_bind, hconnects]
    exact Prod.ext hanswer rfl
  have hexecute : (execute sql params).perform s = (.ok answer, ((Adapter.execute sql (some params)).perform t).2) := by
    rw [execute, AdapterCalls.run, perform_bind, perform_system]
    exact perform_attempts_answered hattempt _ _
  rw [hexecute]
  exact ⟨answer, t.store.requests, rfl, hrequests, hopened⟩

end RecordMapper
