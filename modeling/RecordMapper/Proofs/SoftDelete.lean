import RecordMapper.Proofs.Alternatives
import RecordMapper.Proofs.Sent
import RecordMapper.Proofs.Terminals
import RecordMapper.Session

/-!
Which rows a class that keeps its deleted rows leaves out. Its terminals put one condition, that a row has not been
deleted, behind the conditions of the chain. Main statement: whatever a chain of filters is and whatever happens on
the way, every statement that such a terminal sends has the conditions of the chain with that one behind them, and
they keep out deleted rows exactly if each alternative of the chain but the last asks for that itself. A chain without
`OR` has no such alternative.
-/
namespace RecordMapper

/-- Calls that add comparisons. -/
def ChainCall.isFilter : ChainCall → Bool
  | .whereArgs .. | .whereIn .. | .whereNull .. => true
  | _ => false

/-- Terminals that leave out deleted rows. -/
def Terminal.isScoped : Terminal → Bool
  | .get | .first | .count | .paginate .. | .update _ | .delete => true
  | _ => false

/-- A model after calls, made one by one whether or not an earlier one failed. -/
def Model.called (classes : Catalogue) (m : Model) (calls : List ChainCall) : Model :=
  calls.foldl (fun m c => (m.chain classes [c]).1) m

/-- An intent that nothing but comparisons have been added to. -/
structure Intent.IsFilter (i : Intent) : Prop where
  relations : i.relations = []
  withTrashed : i.withTrashed = false
  rawQuery : i.rawQuery = none
  words : ∀ c ∈ i.conditions, c.junction = "AND" ∨ c.junction = "OR"

/-! ### Chains -/

theorem Junction.word_eq (j : Junction) : j.word = "AND" ∨ j.word = "OR" := by cases j <;> decide

theorem Intent.isFilter_empty : Intent.empty.IsFilter := ⟨rfl, rfl, rfl, nofun⟩

theorem Intent.IsFilter.addConditions {i : Intent} (hi : i.IsFilter) {cs : List Clause}
    (hwords : ∀ c ∈ cs, c.junction = "AND" ∨ c.junction = "OR") : (i.addConditions cs).IsFilter := by
  refine ⟨hi.relations, hi.withTrashed, hi.rawQuery, fun c hc => ?_⟩
  rcases List.mem_append.1 hc with hc | hc
  · exact hi.words c hc
  · exact hwords c hc

/-- The condition that a row has not been deleted is a comparison as well. -/
theorem Intent.IsFilter.guarded {i : Intent} (hi : i.IsFilter) : (i.addConditions [Hydration.notDeleted]).IsFilter :=
  hi.addConditions fun c hc => .inl (by rw [List.mem_singleton.1 hc]; rfl)

namespace Chain

/-- The conditions of a call are joined by the word of the call. -/
theorem junction_conditionsOf {s : Schema} {j : Junction} {args : List Value} {cs : List Clause}
    (h : conditionsOf s j args = .ok cs) : ∀ c ∈ cs, c.junction = j.word := by
  unfold conditionsOf at h
  split at h
  · rw [← Except.ok.inj h]
    intro c hc
    obtain ⟨e, -, rfl⟩ := List.mem_map.1 hc
    rfl
  · rw [← Except.ok.inj h]
    intro c hc
    rw [List.mem_singleton.1 hc]
    rfl
  · rw [← Except.ok.inj h]
    intro c hc
    rw [List.mem_singleton.1 hc]
    rfl
  · cases h

variable {classes : Catalogue} {s : Schema} {run : Intent → List ChainCall → Step}

theorem isFilter_orElse {α : Type} {i : Intent} (hi : i.IsFilter) {r : Except Failure α} {f : α → Intent}
    (hf : ∀ a, r = .ok a → (f a).IsFilter) : (orElse i r f).1.IsFilter := by
  cases r with
  | error e => exact hi
  | ok a => exact hf a rfl

/-- A call that adds comparisons adds nothing else, and nothing if it fails. -/
theorem isFilter_call {i : Intent} (hi : i.IsFilter) {c : ChainCall} (hc : c.isFilter = true) :
    (call classes s run i c).1.IsFilter := by
  cases c with
  | whereArgs j args =>
    refine isFilter_orElse hi fun cs hcs => hi.addConditions fun c hc => ?_
    rw [junction_conditionsOf hcs c hc]
    exact j.word_eq
  | whereIn negated field values =>
    refine isFilter_orElse hi fun items _ => hi.addConditions fun c hc => ?_
    rw [List.mem_singleton.1 hc]
    exact .inl rfl
  | whereNull negated field =>
    refine hi.addConditions fun c hc => ?_
    rw [List.mem_singleton.1 hc]
    exact .inl rfl
  | _ => cases hc

/-- What each call of a kind keeps is kept by calls of the kind one after another, wherever they fail. -/
theorem keeps_callAll {P : Intent → Prop} {kind : ChainCall → Prop}
    (hcall : ∀ i c, kind c → P i → P (call classes s run i c).1) : ∀ (calls : List ChainCall) (i : Intent),
    (∀ c ∈ calls, kind c) → P i → P (callAll classes s run i calls).1
  | [], _, _, hi => hi
  | c :: rest, i, hcalls, hi => by
    have hstep : P (call classes s run i c).1 := hcall i c (hcalls c List.mem_cons_self) hi
    rw [callAll]
    split
    · rename_i j _ h
      rw [h] at hstep
      exact keeps_callAll hcall rest j (fun d hd => hcalls d (List.mem_cons_of_mem _ hd)) hstep
    · exact hstep

end Chain

namespace Model

theorem isFilter_chain {m : Model} (hm : m.intent.IsFilter) (classes : Catalogue) {calls : List ChainCall}
    (hcalls : ∀ c ∈ calls, c.isFilter = true) : (m.chain classes calls).1.intent.IsFilter :=
  Chain.keeps_callAll (P := Intent.IsFilter) (fun _ _ hc hi => Chain.isFilter_call hi hc) calls m.intent hcalls hm

/-- Calls one by one leave the class of a model as it is, and keep what each of them keeps. -/
theorem keeps_called {classes : Catalogue} {s : Schema} {P : Intent → Prop} {kind : ChainCall → Prop}
    (hcall : ∀ i c, kind c → P i → P (Chain.runCalls classes s Chain.maxDepth i [c]).1) :
    ∀ (calls : List ChainCall) (i : Intent), (∀ c ∈ calls, kind c) → P i →
      (called classes ⟨s, i⟩ calls).schema = s ∧ P (called classes ⟨s, i⟩ calls).intent
  | [], _, _, hi => ⟨rfl, hi⟩
  | c :: rest, i, hcalls, hi =>
    keeps_called hcall rest (Chain.runCalls classes s Chain.maxDepth i [c]).1
      (fun d hd => hcalls d (List.mem_cons_of_mem _ hd)) (hcall i c (hcalls c List.mem_cons_self) hi)

/-- Calls one by one leave the class of a model as it is. -/
theorem schema_of_called (classes : Catalogue) (calls : List ChainCall) (m : Model) :
    (m.called classes calls).schema = m.schema :=
  (keeps_called (P := fun _ => True) (fun _ _ _ _ => trivial) calls m.intent (fun _ _ => trivial) trivial).1

/-- Calls one by one add comparisons only. -/
theorem isFilter_called (classes : Catalogue) (calls : List ChainCall) (m : Model) (hm : m.intent.IsFilter)
    (hcalls : ∀ c ∈ calls, c.isFilter = true) :
    (m.called classes calls).schema = m.schema ∧ (m.called classes calls).intent.IsFilter :=
  keeps_called (fun i _ hc hi => isFilter_chain (m := ⟨m.schema, i⟩) hi classes (List.forall_mem_singleton.2 hc))
    calls m.intent hcalls hm

end Model

/-! ### Requests of terminals -/

/-- A request for the statement of an intent with these conditions, or the opening of a file. -/
def RequestsOnly (kind : AdapterKind) (table : String) (cs : List Clause) (x : Request) : Prop :=
  x = openingRequest ∨ ∃ i l, i.rawQuery = none ∧ i.conditions = cs ∧ Intent.compile table i = .ok l ∧
    kind.request l.sql l.bindings = .ok x

/-- Without relations there is one question, the statement of the intent. -/
theorem Hydration.asks_read (classes : Catalogue) (fuel : Nat) (s : Schema) {i : Intent} (hi : i.relations = []) :
    (read classes fuel s i).Asks fun q => ∃ l, i.compile s.tableName = .ok l ∧ q = ⟨l.sql, l.bindings⟩ := by
  cases fuel with
  | zero => trivial
  | succ fuel =>
    rw [read]
    cases hl : i.compile s.tableName with
    | error e => trivial
    | ok l =>
      refine ⟨fun q hq => ⟨l, rfl, List.mem_singleton.1 hq⟩, fun answers => ?_⟩
      dsimp only
      split
      · split
        · rw [hi, finish, List.isEmpty_nil, Bool.or_true, if_pos rfl]
          trivial
        · trivial
      · trivial
      · trivial

/-- What leaves out deleted rows is a condition or nothing. -/
theorem Hydration.withoutDeleted_cases (s : Schema) (i : Intent) :
    withoutDeleted s i = i ∨ withoutDeleted s i = i.addConditions [notDeleted] := by
  rw [withoutDeleted]
  split
  · exact .inr rfl
  · exact .inl rfl

namespace Terminal

open Operation

variable {kind : AdapterKind} {env : Surroundings} {s : Schema} {i : Intent} {cs : List Clause}

theorem keeps_runRead (hrelations : i.relations = []) (hraw : i.rawQuery = none) (hcs : i.conditions = cs) :
    Keeps (Sends kind (RequestsOnly kind s.tableName cs)) (runRead env s i) := by
  let reading : Intent := { i with action := .known .select }
  have hread := Hydration.asks_read env.classes Hydration.maxDepth s (show reading.relations = [] from hrelations)
  refine Keeps.bind (Rounds.keeps_perform (.inl rfl) ?_ _ hread) fun _ => Keeps.ofResult _
  rintro _ ⟨l, hl, rfl⟩ x hx
  exact .inr ⟨reading, l, hraw, hcs, hl, hx⟩

theorem keeps_runWrite (hraw : i.rawQuery = none) (hcs : i.conditions = cs) :
    Keeps (Sends kind (RequestsOnly kind s.tableName cs)) (runWrite s i) :=
  Keeps.bindResult fun l hl => Client.keeps_execute (.inl rfl) fun _ hx => .inr ⟨i, l, hraw, hcs, hl, hx⟩

/-- The conditions of an intent that leaves out deleted rows. -/
theorem withoutDeleted_eq (hsoft : s.softDelete = true) (hi : i.IsFilter) :
    Hydration.withoutDeleted s i = i.addConditions [Hydration.notDeleted] := by
  rw [Hydration.withoutDeleted, hsoft, hi.withTrashed]
  rfl

theorem keeps_rows (hsoft : s.softDelete = true) (hi : i.IsFilter) (hcs : i.conditions = cs) :
    Keeps (Sends kind (RequestsOnly kind s.tableName (cs ++ [Hydration.notDeleted]))) (rows env s i) := by
  rw [rows, withoutDeleted_eq hsoft hi]
  exact keeps_runRead hi.relations hi.rawQuery (congrArg (· ++ [Hydration.notDeleted]) hcs)

theorem keeps_firstRow (hsoft : s.softDelete = true) (hi : i.IsFilter) (hcs : i.conditions = cs) :
    Keeps (Sends kind (RequestsOnly kind s.tableName (cs ++ [Hydration.notDeleted]))) (firstRow env s i) := by
  have hone : ({ i with limit := .int 1 } : Intent).IsFilter := ⟨hi.relations, hi.withTrashed, hi.rawQuery, hi.words⟩
  exact Keeps.bind (keeps_rows hsoft hone hcs) fun _ => Keeps.ofResult _

theorem keeps_countRows (hsoft : s.softDelete = true) (hi : i.IsFilter) (hcs : i.conditions = cs) :
    Keeps (Sends kind (RequestsOnly kind s.tableName (cs ++ [Hydration.notDeleted]))) (countRows env s i) := by
  have hcounting : (counting i).IsFilter := ⟨rfl, hi.withTrashed, hi.rawQuery, hi.words⟩
  exact Keeps.bind (keeps_firstRow hsoft hcounting hcs) fun _ => Keeps.ofResult _

theorem keeps_readPage (hsoft : s.softDelete = true) (hi : i.IsFilter) (page perPage : Value) :
    Keeps (Sends kind (RequestsOnly kind s.tableName (i.conditions ++ [Hydration.notDeleted])))
      (readPage env s i page perPage) := by
  have hranged (limit offset : Value) : ({ i with limit := limit, offset := offset } : Intent).IsFilter :=
    ⟨hi.relations, hi.withTrashed, hi.rawQuery, hi.words⟩
  refine Keeps.bind (Keeps.ofResult _) fun (_, perPage) => Keeps.bind (Keeps.ofResult _) fun offset => ?_
  refine Keeps.bind (keeps_rows hsoft (hranged perPage offset) rfl) fun data => ?_
  refine Keeps.bind (keeps_countRows hsoft (hranged .null .null) rfl) fun total => ?_
  exact Keeps.bind (Keeps.ofResult _) fun _ => Keeps.bind (Keeps.ofResult _) fun _ =>
    Keeps.bind (Keeps.ofResult _) fun _ => Keeps.pure _

theorem keeps_updateRows (hsoft : s.softDelete = true) (hi : i.IsFilter) (data : Row) :
    Keeps (Sends kind (RequestsOnly kind s.tableName (i.conditions ++ [Hydration.notDeleted])))
      (updateRows env s i data) := by
  refine Keeps.bind (Keeps.ofResult _) fun written => Keeps.ite (Keeps.pure _) (Keeps.ite (Keeps.throw _) ?_)
  rw [withoutDeleted_eq hsoft hi]
  exact Keeps.bind (keeps_runWrite hi.rawQuery rfl) fun _ => Keeps.pure _

theorem keeps_deleteRows (hsoft : s.softDelete = true) (hi : i.IsFilter) :
    Keeps (Sends kind (RequestsOnly kind s.tableName (i.conditions ++ [Hydration.notDeleted])))
      (deleteRows env s i) := by
  rw [deleteRows, hsoft, if_neg (by decide)]
  exact Keeps.ite (Keeps.throw _) (Keeps.bind (keeps_runWrite hi.rawQuery rfl) fun _ => Keeps.pure _)

/-- What a terminal that leaves out deleted rows sends: statements with the conditions of the chain, and behind them
the one that a row has not been deleted. -/
theorem keeps_perform (hsoft : s.softDelete = true) (hi : i.IsFilter) {t : Terminal} (ht : t.isScoped = true) :
    Keeps (Sends kind (RequestsOnly kind s.tableName (i.conditions ++ [Hydration.notDeleted])))
      (t.perform env s i) := by
  rw [(t.does_run env s i).perform_eq]
  cases t with
  | get => exact Keeps.bind (keeps_rows hsoft hi rfl) fun _ => Keeps.pure _
  | first => exact Keeps.bind (keeps_firstRow hsoft hi rfl) fun _ => Keeps.pure _
  | count => exact Keeps.bind (keeps_countRows hsoft hi rfl) fun _ => Keeps.pure _
  | paginate page perPage => exact Keeps.bind (keeps_readPage hsoft hi page perPage) fun _ => Keeps.pure _
  | update data => exact keeps_updateRows hsoft hi data
  | delete => exact keeps_deleteRows hsoft hi
  | _ => cases ht

end Terminal

/-! ### Deleted rows -/

/-- Conditions stand in a statement as they are read. -/
theorem Intent.sql_compile {table : String} {i : Intent} {l : Layout} (hraw : i.rawQuery = none)
    (hne : i.conditions ≠ []) (hwords : ∀ c ∈ i.conditions, c.junction = "AND" ∨ c.junction = "OR")
    (h : i.compile table = .ok l) :
    ∃ before behind, l.sql = before ++ " WHERE " ++ (Clause.reading table i.conditions).sql ++ behind := by
  obtain ⟨a, -, hstatement⟩ := (Intent.compile_eq_ok (by rw [hraw]; rfl)).1 h
  obtain ⟨start, filtered, tail, -, hfiltered, -, rfl⟩ := Compile.statement_eq_ok.1 hstatement
  have hwhere := Compile.sql_conditions hne hwords hfiltered
  refine ⟨(start ++ Layout.words (String.join (i.joins.map (Compile.joinText table)))).sql,
    (Layout.words (Compile.grouping i ++ Compile.ordering table i) ++ tail).sql, ?_⟩
  rw [Layout.sql] at hwhere
  simp only [Layout.sql, Layout.render_append, hwhere, String.append_assoc]

/-- A condition behind all others keeps out deleted rows exactly if the alternatives before the last have it too. -/
theorem Clause.keepsOut_reading_iff (table : String) (cs : List Clause) :
    (reading table (cs ++ [Hydration.notDeleted])).KeepsOut (Hydration.notDeleted.predicate table) ↔
      ∀ g ∈ (reading table cs).complete, Hydration.notDeleted.predicate table ∈ g := by
  rw [reading, List.map_append]
  exact Reading.keepsOut_concat (Hydration.notDeleted.predicate table) _

theorem Clause.complete_reading (table : String) {cs : List Clause} (hand : ∀ c ∈ cs.tail, c.junction ≠ "OR") :
    (reading table cs).complete = [] := by
  refine Reading.complete_ofConditions _ ?_
  rw [← List.map_tail]
  intro _ hmem
  obtain ⟨c, hc, rfl⟩ := List.mem_map.1 hmem
  exact hand c hc

/-- What the end of a chain of filters requests. -/
theorem Model.requestsOnly_finish {m : Model} (hsoft : m.schema.softDelete = true) (hm : m.intent.IsFilter)
    {t : Terminal} (ht : t.isScoped = true) (env : Surroundings) (sys : System) :
    ∀ x ∈ (m.finish env t (Session.fresh sys)).2.2.store.requests,
      RequestsOnly sys.adapter.kind m.schema.tableName (m.intent.conditions ++ [Hydration.notDeleted]) x := by
  rw [Model.finish_eq]
  -- nothing has been requested when a step begins
  exact (Terminal.keeps_perform hsoft hm ht (Session.fresh sys) ⟨rfl, fun _ hx => absurd hx List.not_mem_nil⟩).requests

/-- The statements that a class which keeps its deleted rows sends for a chain of filters: each has the conditions of
the chain with the one behind them that a row has not been deleted. They keep out deleted rows exactly if every
alternative of the chain but the last asks for that by itself, and so they do if no condition is joined by `OR`. -/
theorem keepsOut_deleted_iff {s : Schema} (hsoft : s.softDelete = true) {calls : List ChainCall}
    (hcalls : ∀ c ∈ calls, c.isFilter = true) {t : Terminal} (ht : t.isScoped = true) (classes : Catalogue)
    (env : Surroundings) (sys : System) :
    let m := Model.called classes ⟨s, .empty⟩ calls
    let guard := Hydration.notDeleted.predicate s.tableName
    ∀ x ∈ (m.finish env t (Session.fresh sys)).2.2.store.requests, x = openingRequest ∨
      ∃ i l before behind, i.conditions = m.intent.conditions ++ [Hydration.notDeleted] ∧
        Intent.compile s.tableName i = .ok l ∧ sys.adapter.kind.request l.sql l.bindings = .ok x ∧
        l.sql = before ++ " WHERE " ++ (Clause.reading s.tableName i.conditions).sql ++ behind ∧
        ((Clause.reading s.tableName i.conditions).KeepsOut guard ↔
          ∀ g ∈ (Clause.reading s.tableName m.intent.conditions).complete, guard ∈ g) ∧
        ((∀ c ∈ m.intent.conditions.tail, c.junction ≠ "OR") →
          (Clause.reading s.tableName i.conditions).KeepsOut guard) := by
  intro m guard x hx
  obtain ⟨hschema, hm⟩ := Model.isFilter_called classes calls ⟨s, .empty⟩ Intent.isFilter_empty hcalls
  have hsent := Model.requestsOnly_finish (hschema ▸ hsoft) hm ht env sys x hx
  rw [hschema] at hsent
  rcases hsent with hopening | ⟨i, l, hraw, hconditions, hl, hrequest⟩
  · exact .inl hopening
  · have hwords : ∀ c ∈ i.conditions, c.junction = "AND" ∨ c.junction = "OR" := by
      rw [hconditions]
      exact hm.guarded.words
    have hne : i.conditions ≠ [] := by
      rw [hconditions]
      exact List.append_ne_nil_of_right_ne_nil _ (List.cons_ne_nil _ _)
    obtain ⟨before, behind, hsql⟩ := Intent.sql_compile hraw hne hwords hl
    have hiff := Clause.keepsOut_reading_iff s.tableName m.intent.conditions
    rw [← hconditions] at hiff
    refine .inr ⟨i, l, before, behind, hconditions, hl, hrequest, hsql, hiff, fun hand => hiff.2 ?_⟩
    rw [Clause.complete_reading s.tableName hand]
    exact fun g hg => absurd hg List.not_mem_nil

/-- A class that keeps its deleted rows. -/
def keepingUsers : Schema := { Schema.root with name := "User", table := some "users", softDelete := true }

/-- A plain adapter that is connected, and a store that answers everything with no rows. -/
def connectedPlain : System :=
  ⟨{ (default : Client) with connected := true }, ⟨.stub, true, none⟩, .quiet, 0⟩

/-- What users whose conditions have been added by these calls request to read their rows. -/
def requestsOfUsers (calls : List ChainCall) : List Request :=
  ((Model.called Catalogue.start ⟨keepingUsers, .empty⟩ calls).finish ⟨.start, default⟩ .get
    (Session.fresh connectedPlain)).2.2.store.requests

/-- The conditions of users, as they are read, with the one that a row has not been deleted. -/
def readingOfUsers (calls : List ChainCall) : Reading Layout :=
  Clause.reading "users" ((Model.called Catalogue.start ⟨keepingUsers, .empty⟩ calls).intent.conditions ++
    [Hydration.notDeleted])

theorem keepsOut_deleted_users :
    let calls :=
      [ChainCall.whereArgs .and [.text "a", .int 1], .whereIn true "b" (.list [.int 2]), .whereNull true "c"]
    ∃ x ∈ requestsOfUsers calls, x ≠ openingRequest ∧
      (readingOfUsers calls).KeepsOut (Hydration.notDeleted.predicate "users") := by
  intro calls
  let x : Request := ("SELECT users.* FROM users WHERE users.a = ? AND users.b NOT IN (?) AND users.c IS NOT NULL " ++
    "AND users.deleted_at IS NULL", some [.int 1, .list [.int 2]])
  have hx : requestsOfUsers calls = [x] := rfl
  have hmem : x ∈ requestsOfUsers calls := hx ▸ List.mem_singleton_self x
  have hne : x ≠ openingRequest := fun h => absurd (congrArg Prod.fst h) (by decide)
  have hcalls : ∀ c ∈ calls, c.isFilter = true := by decide
  rcases keepsOut_deleted_iff (s := keepingUsers) rfl hcalls (t := .get) rfl Catalogue.start ⟨.start, default⟩
    connectedPlain x hmem with hopening | ⟨i, l, _, _, hconditions, -, -, -, -, hand⟩
  · exact absurd hopening hne
  · refine ⟨x, hmem, hne, ?_⟩
    rw [readingOfUsers, ← hconditions]
    exact hand (by decide)

/-- With one condition or the other, a deleted row is read for which the first of them is true. -/
theorem alternatives_let_deleted_through :
    let calls := [ChainCall.whereArgs .and [.text "a", .int 1], .whereArgs .or [.text "b", .int 2]]
    requestsOfUsers calls =
        [("SELECT users.* FROM users WHERE " ++ (readingOfUsers calls).sql, some [.int 1, .int 2])] ∧
      (readingOfUsers calls).sql = "users.a = ? OR users.b = ? AND users.deleted_at IS NULL" ∧
      ∃ truth : Layout → Truth, truth (Hydration.notDeleted.predicate "users") = .no ∧
        (readingOfUsers calls).truth truth = .yes := by
  refine ⟨rfl, rfl, fun l => if l.sql = "users.a = ?" then .yes else .no, by decide, by decide⟩

end RecordMapper
