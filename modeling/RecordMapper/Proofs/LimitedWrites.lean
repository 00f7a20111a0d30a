import RecordMapper.Proofs.Chains
import RecordMapper.Proofs.Written

/-!
Updates and deletes are limited. Each of the three terminals that change or delete rows which are there asks for a
condition of the caller's, one in one place and one in another; the condition that a row has not been deleted, which
the library adds by itself, does not count. Main statement: every statement that they send begins its conditions with
those that the calls of the chain have added, and there is at least one; without any nothing reaches the store.
-/
namespace RecordMapper

/-- Terminals that change or delete the rows which the conditions of a chain select. -/
def Terminal.isLimited : Terminal → Bool
  | update _ | delete | forceDelete => true
  | _ => false

/-- Whether a terminal that changes or deletes rows has something to do: a record has casts that succeed, and columns
that may be set. -/
def Terminal.WouldWrite (s : Schema) : Terminal → Prop
  | update data => ∃ written, payload s data = .ok written ∧ written ≠ []
  | delete | forceDelete => True
  | _ => False

/-- The failure is a fault of a model that is used in a way it does not allow, or of an intent that has no statement. -/
def Failure.IsMisuse (e : Failure) : Prop := ∃ f, e.error = .fault f ∧ (f.kind = .usage ∨ f.kind = .compile)

open Compile Hydration in
/-- A statement that updates or deletes, and whose conditions begin with these; behind them is at most the one that a
row has not been deleted. -/
structure Layout.LimitedBy (l : Layout) (table : String) (cs : List Clause) : Prop where
  some : cs ≠ []
  text : ∃ a i more, (a = .update ∨ a = .delete) ∧ (more = [] ∨ more = [notDeleted]) ∧ ∀ r : Value → String, ∃ behind,
    l.render r = Written.head r table a i ++ String.join (i.joins.map (joinText table)) ++
      Written.conditions r table (cs ++ more) ++ behind

/-- A request for a statement that these conditions limit, or the opening of a file. -/
def LimitedRequest (kind : AdapterKind) (table : String) (cs : List Clause) (x : Request) : Prop :=
  x = openingRequest ∨ ∃ l : Layout, l.LimitedBy table cs ∧ kind.request l.sql l.bindings = .ok x

open Hydration

theorem Layout.limitedBy_of_compile {table : String} {cs more : List Clause} {a : Action} {i : Intent} {l : Layout}
    (hne : cs ≠ []) (hmore : more = [] ∨ more = [notDeleted]) (hcs : i.conditions = cs ++ more)
    (hraw : i.rawQuery = none) (haction : i.action = .known a) (ha : a = .update ∨ a = .delete)
    (h : i.compile table = .ok l) : l.LimitedBy table cs := by
  refine ⟨hne, a, i, more, ha, hmore, fun r => ?_⟩
  obtain ⟨b, hb, hstatement⟩ := (Intent.compile_eq_ok (by rw [hraw]; rfl)).1 h
  cases haction.symm.trans hb
  refine ⟨Compile.grouping i ++ Compile.ordering table i ++ Written.range r i, ?_⟩
  rw [Compile.render_statement r haction hstatement, Intent.written, haction, ← hcs]
  simp only [String.append_assoc]

namespace Terminal

open Operation

variable {kind : AdapterKind} {env : Surroundings} {s : Schema} {i : Intent}

theorem limited_runWrite {cs more : List Clause} {a : Action} {sent : Intent} (hne : cs ≠ [])
    (hmore : more = [] ∨ more = [notDeleted]) (hcs : sent.conditions = cs ++ more) (hraw : sent.rawQuery = none)
    (haction : sent.action = .known a) (ha : a = .update ∨ a = .delete) :
    Keeps (Sends kind (LimitedRequest kind s.tableName cs)) (runWrite s sent) :=
  Keeps.bindResult fun l hl => Client.keeps_execute (.inl rfl) fun _ hx =>
    .inr ⟨l, Layout.limitedBy_of_compile hne hmore hcs hraw haction ha hl, hx⟩

theorem limited_deleteForGood (hraw : i.rawQuery = none) (hne : i.conditions ≠ []) :
    Keeps (Sends kind (LimitedRequest kind s.tableName i.conditions)) (deleteForGood s i) :=
  Keeps.bind (limited_runWrite hne (.inl rfl) (List.append_nil _).symm hraw rfl (.inr rfl)) fun _ => Keeps.pure _

theorem limited_deleteRows (hraw : i.rawQuery = none) (hne : i.conditions ≠ []) :
    Keeps (Sends kind (LimitedRequest kind s.tableName i.conditions)) (deleteRows env s i) := by
  rw [deleteRows]
  refine Keeps.ite (limited_deleteForGood hraw hne) (Keeps.ite (Keeps.throw _) ?_)
  exact Keeps.bind (limited_runWrite hne (.inr rfl) rfl hraw rfl (.inl rfl)) fun _ => Keeps.pure _

theorem limited_updateRows (hraw : i.rawQuery = none) (hne : i.conditions ≠ []) (data : Row) :
    Keeps (Sends kind (LimitedRequest kind s.tableName i.conditions)) (updateRows env s i data) := by
  refine Keeps.bind (Keeps.ofResult _) fun written => Keeps.ite (Keeps.pure _) (Keeps.ite (Keeps.throw _) ?_)
  rcases withoutDeleted_cases s i with hsame | hguarded
  · rw [hsame]
    exact Keeps.bind (limited_runWrite hne (.inl rfl) (List.append_nil _).symm hraw rfl (.inl rfl)) fun _ =>
      Keeps.pure _
  · rw [hguarded]
    exact Keeps.bind (limited_runWrite hne (.inr rfl) rfl hraw rfl (.inl rfl)) fun _ => Keeps.pure _

/-- What is sent with a condition of the caller's is limited by the conditions of the caller. -/
theorem limited_perform (hraw : i.rawQuery = none) (hne : i.conditions ≠ []) {t : Terminal} (ht : t.isLimited = true) :
    Keeps (Sends kind (LimitedRequest kind s.tableName i.conditions)) (t.perform env s i) := by
  rw [(t.does_run env s i).perform_eq]
  cases t with
  | update data => exact limited_updateRows hraw hne data
  | delete => exact limited_deleteRows hraw hne
  | forceDelete => exact limited_deleteForGood hraw hne
  | _ => cases ht

/-! ### Without a condition -/

theorem isMisuse_unconditional (s : Schema) (name : String) : (unconditional s name).IsMisuse := ⟨_, rfl, .inl rfl⟩

theorem isMisuse_refuse (table action reason : String) : (Compile.refuse table action reason).IsMisuse :=
  ⟨_, rfl, .inr rfl⟩

/-- Nothing is deleted for good without a condition: the intent has no statement. -/
theorem perform_deleteForGood (hraw : i.rawQuery = none) (hnone : i.conditions = []) (sys : System) :
    (deleteForGood s i).perform sys =
      (.error (Compile.refuse s.tableName "delete" "DELETE requires a WHERE clause"), sys) := by
  have hrefused : Intent.compile s.tableName { i with action := .known .delete } =
      .error (Compile.refuse s.tableName "delete" "DELETE requires a WHERE clause") := by
    simp only [Intent.compile, hraw, Compile.statement, Compile.head, hnone]
    rfl
  rw [deleteForGood, perform_bind, runWrite, perform_bind, perform_ofResult, hrefused]

theorem perform_deleteRows (hraw : i.rawQuery = none) (hnone : i.conditions = []) (sys : System) :
    ∃ e, (deleteRows env s i).perform sys = (.error e, sys) ∧ e.IsMisuse := by
  rw [deleteRows]
  split
  · exact ⟨_, perform_deleteForGood hraw hnone sys, isMisuse_refuse _ _ _⟩
  · refine ⟨unconditional s "delete", ?_, isMisuse_unconditional s "delete"⟩
    rw [hnone]
    rfl

/-- An update without a condition ends with the failure of the casts, or with nothing if there is nothing to write, or
it is refused. -/
theorem perform_updateRows_unlimited (hnone : i.conditions = []) (data : Row) (sys : System) :
    (updateRows env s i data).perform sys =
      ((payload s data).bind fun written =>
        if written = [] then .ok .nothing else .error (unconditional s "update"), sys) := by
  rw [updateRows, perform_bind, perform_ofResult, hnone]
  cases payload s data with
  | error e => rfl
  | ok written => cases written <;> rfl

/-- Without a condition of the caller's nothing is sent. What would be written is refused. -/
theorem perform_unlimited (hraw : i.rawQuery = none) (hnone : i.conditions = []) {t : Terminal}
    (ht : t.isLimited = true) (sys : System) :
    ∃ outcome, (t.perform env s i).perform sys = (outcome, sys) ∧
      (t.WouldWrite s → ∃ e, outcome = .error e ∧ e.IsMisuse) ∧
      ∀ data, t = .update data → payload s data = .ok [] → outcome = .ok .nothing := by
  rw [(t.does_run env s i).perform_eq]
  cases t with
  | update data =>
    refine ⟨_, perform_updateRows_unlimited hnone data sys, ?_, ?_⟩
    · rintro ⟨written, hwritten, hne⟩
      refine ⟨unconditional s "update", ?_, isMisuse_unconditional s "update"⟩
      rw [hwritten, Except.bind, if_neg hne]
    · rintro _ ⟨⟩ hempty
      rw [hempty, Except.bind, if_pos rfl]
  | delete =>
    obtain ⟨e, he, hmisuse⟩ := perform_deleteRows hraw hnone sys
    exact ⟨.error e, he, fun _ => ⟨e, rfl, hmisuse⟩, fun _ h => by cases h⟩
  | forceDelete =>
    exact ⟨_, perform_deleteForGood hraw hnone sys, fun _ => ⟨_, rfl, isMisuse_refuse _ _ _⟩, fun _ h => by cases h⟩
  | _ => cases ht

end Terminal

/-- The end of any chain by an update or a delete. Every statement that is sent begins its conditions with those that
the calls of the chain have added one after another, and there is at least one. If they have added none, nothing is
sent; where something would be written the end is refused as a misuse, and an update of which nothing is left has no
result. -/
theorem writes_limited_by_chain (s : Schema) (classes : Catalogue) (calls : List ChainCall) {t : Terminal}
    (ht : t.isLimited = true) (env : Surroundings) (sys : System) :
    let cs := calls.flatMap (Chain.added classes s)
    let finished := ((Model.called classes ⟨s, .empty⟩ calls).finish env t (Session.fresh sys)).2
    (∀ x ∈ finished.2.store.requests, x = openingRequest ∨
      ∃ l : Layout, l.LimitedBy s.tableName cs ∧ sys.adapter.kind.request l.sql l.bindings = .ok x) ∧
    (cs = [] → finished.2 = Session.fresh sys ∧ (t.WouldWrite s → ∃ e, finished.1 = .error e ∧ e.IsMisuse) ∧
      ∀ data, t = .update data → Terminal.payload s data = .ok [] → finished.1 = .ok .nothing) := by
  intro cs finished
  let m := Model.called classes ⟨s, .empty⟩ calls
  have hraw : m.intent.rawQuery = none := (Chain.isChained_called classes s calls).rawQuery
  have hcs : m.intent.conditions = cs := Chain.conditions_called classes calls ⟨s, .empty⟩
  have hfinished : finished = (t.perform env s m.intent).perform (Session.fresh sys) := Chain.finish_called ..
  rw [hfinished]
  by_cases hnone : cs = []
  · obtain ⟨outcome, hperform, hmisuse, hnothing⟩ :=
      @Terminal.perform_unlimited env s m.intent hraw (hcs.trans hnone) t ht (Session.fresh sys)
    rw [hperform]
    exact ⟨List.forall_mem_nil _, fun _ => ⟨rfl, hmisuse, hnothing⟩⟩
  · refine ⟨?_, (absurd · hnone)⟩
    have hlimited : Operation.Keeps (Sends sys.adapter.kind (LimitedRequest sys.adapter.kind s.tableName cs))
        (t.perform env s m.intent) := by
      rw [← hcs]
      exact Terminal.limited_perform hraw (hcs ▸ hnone) ht
    exact (hlimited (Session.fresh sys) ⟨rfl, List.forall_mem_nil _⟩).requests

/-- What users whose conditions have been added by these calls come to if they are deleted. -/
def deletionOfUsers (calls : List ChainCall) : Except Failure Result × System :=
  ((Model.called Catalogue.start ⟨keepingUsers, .empty⟩ calls).finish ⟨.start, default⟩ .delete
    (Session.fresh connectedPlain)).2

/-- Users that keep their deleted rows are marked as deleted where both conditions stand before the library's own, and
are not without a condition. -/
theorem deletionOfUsers_limited :
    let calls := [ChainCall.whereArgs .and [.text "a", .int 1], .whereArgs .or [.text "b", .int 2]]
    (∃ x ∈ (deletionOfUsers calls).2.store.requests, x ≠ openingRequest ∧ ∃ l : Layout,
      l.LimitedBy "users" [.compare "a" "=" (.int 1) "AND", .compare "b" "=" (.int 2) "OR"] ∧
        AdapterKind.stub.request l.sql l.bindings = .ok x) ∧
      (deletionOfUsers []).2 = Session.fresh connectedPlain ∧ ∃ e, (deletionOfUsers []).1 = .error e ∧ e.IsMisuse := by
  intro calls
  let x : Request := ("UPDATE users SET deleted_at = ? WHERE users.a = ? OR users.b = ? AND users.deleted_at IS NULL",
    some [Terminal.timestamp ⟨.start, default⟩, .int 1, .int 2])
  have hmem : x ∈ (deletionOfUsers calls).2.store.requests :=
    (show (deletionOfUsers calls).2.store.requests = [x] from rfl) ▸ List.mem_singleton_self x
  have hne : x ≠ openingRequest := fun h => absurd (congrArg Prod.fst h) (by decide)
  have hsent := (writes_limited_by_chain keepingUsers .start calls (t := .delete) rfl ⟨.start, default⟩
    connectedPlain).1 x hmem
  obtain ⟨hunchanged, hrefused, -⟩ :=
    (writes_limited_by_chain keepingUsers .start [] (t := .delete) rfl ⟨.start, default⟩ connectedPlain).2 rfl
  exact ⟨⟨x, hmem, hne, hsent.resolve_left hne⟩, hunchanged, hrefused trivial⟩

end RecordMapper
