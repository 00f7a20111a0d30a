import Mathlib.Data.List.Forall2
import RecordMapper.Proofs.SoftDelete

/-!
Conditions that say the same. Two conditions are alike if the same word joins them and they come to the same text and
the same bindings, and two intents are if they differ in conditions only, each of which is like the other. Main
statement: of two intents that are alike, calls make intents that are alike and end in the same way, and terminals do
the same with both.
-/
namespace RecordMapper

/-- Two conditions for which the same stands in a statement. -/
structure Clause.Alike (table : String) (c c' : Clause) : Prop where
  junction : c.junction = c'.junction
  condition : Compile.condition table c = Compile.condition table c'

/-- Two intents that are the same but for their conditions, which are alike one by one. -/
def Intent.Alike (table : String) (i i' : Intent) : Prop :=
  ∃ cs, List.Forall₂ (Clause.Alike table) i.conditions cs ∧ i' = { i with conditions := cs }

/-- Two steps that end in the same way and leave intents that are alike. -/
def Chain.StepsAlike (table : String) (x y : Chain.Step) : Prop := x.1.Alike table y.1 ∧ x.2 = y.2

variable {table : String}

/-! ### Statements -/

theorem Clause.Alike.refl (c : Clause) : c.Alike table c := ⟨rfl, rfl⟩

theorem Clause.forall₂_alike_refl : ∀ cs : List Clause, List.Forall₂ (Clause.Alike table) cs cs
  | [] => .nil
  | c :: rest => .cons (.refl c) (forall₂_alike_refl rest)

theorem Clause.isEmpty_alike {cs cs' : List Clause} (h : List.Forall₂ (Clause.Alike table) cs cs') :
    cs.isEmpty = cs'.isEmpty := by
  cases h <;> rfl

namespace Compile

theorem furtherConditions_alike {cs cs' : List Clause} (h : List.Forall₂ (Clause.Alike table) cs cs') :
    furtherConditions table cs = furtherConditions table cs' := by
  induction h with
  | nil => rfl
  | cons hc _ ih => rw [furtherConditions, furtherConditions, ih, hc.junction, hc.condition]

theorem conditions_alike {cs cs' : List Clause} (h : List.Forall₂ (Clause.Alike table) cs cs') :
    conditions table cs = conditions table cs' := by
  cases h with
  | nil => rfl
  | cons hc hrest => rw [conditions, conditions, furtherConditions_alike hrest, hc.condition]

theorem head_alike {i : Intent} {cs : List Clause} (h : List.Forall₂ (Clause.Alike table) i.conditions cs)
    (a : Action) : head table a i = head table a { i with conditions := cs } := by
  cases a with
  | delete => rw [head, head, Clause.isEmpty_alike h]
  | _ => rfl

theorem statement_alike {i : Intent} {cs : List Clause} (h : List.Forall₂ (Clause.Alike table) i.conditions cs)
    (a : Action) : statement table a i = statement table a { i with conditions := cs } := by
  rw [statement, statement, head_alike h, conditions_alike h]
  rfl

end Compile

namespace Intent.Alike

variable {i i' : Intent}

theorem refl (i : Intent) : i.Alike table i := ⟨i.conditions, Clause.forall₂_alike_refl _, rfl⟩

theorem compile (h : i.Alike table i') : i.compile table = i'.compile table := by
  obtain ⟨cs, hcs, rfl⟩ := h
  simp only [Intent.compile, Compile.statement_alike hcs]

theorem isEmpty_conditions (h : i.Alike table i') : i.conditions.isEmpty = i'.conditions.isEmpty := by
  obtain ⟨cs, hcs, rfl⟩ := h
  exact Clause.isEmpty_alike hcs

/-- Changes that do not look at the conditions and leave them leave intents alike. -/
theorem map (h : i.Alike table i') (f : Intent → Intent)
    (hf : ∀ i cs, f { i with conditions := cs } = { f i with conditions := cs })
    (hconditions : ∀ i, (f i).conditions = i.conditions) : (f i).Alike table (f i') := by
  obtain ⟨cs, hcs, rfl⟩ := h
  exact ⟨cs, (hconditions i).symm ▸ hcs, hf i cs⟩

theorem addConditions (h : i.Alike table i') {ds ds' : List Clause} (hds : List.Forall₂ (Clause.Alike table) ds ds') :
    (i.addConditions ds).Alike table (i'.addConditions ds') := by
  obtain ⟨cs, hcs, rfl⟩ := h
  exact ⟨cs ++ ds', List.rel_append hcs hds, rfl⟩

end Intent.Alike

/-! ### Calls -/

namespace Chain

variable {classes : Catalogue} {s : Schema} {run : Intent → List ChainCall → Step} {i i' : Intent}

theorem StepsAlike.ok (h : i.Alike table i') : StepsAlike table (ok i) (ok i') := ⟨h, rfl⟩

theorem StepsAlike.orElse {α : Type} (h : i.Alike table i') (r : Except Failure α) {f f' : α → Intent}
    (hf : ∀ a, (f a).Alike table (f' a)) : StepsAlike table (orElse i r f) (orElse i' r f') := by
  cases r with
  | error e => exact ⟨h, rfl⟩
  | ok a => exact ⟨hf a, rfl⟩

/-- One step after the other, the second only if the first does not fail. -/
theorem StepsAlike.andThen {next : Intent → Step}
    (hnext : ∀ j j', j.Alike table j' → StepsAlike table (next j) (next j')) : ∀ {x y : Step}, StepsAlike table x y →
    StepsAlike table
      (match x with
        | (j, .ok _) => next j
        | failed => failed)
      (match y with
        | (j, .ok _) => next j
        | failed => failed) := by
  rintro ⟨j, outcome⟩ ⟨j', _⟩ ⟨hj, rfl⟩
  cases outcome with
  | error e => exact ⟨hj, rfl⟩
  | ok _ => exact hnext j j' hj

/-- Running calls leaves intents alike. -/
def RunsAlike (table : String) (run : Intent → List ChainCall → Step) : Prop :=
  ∀ calls i i', i.Alike table i' → StepsAlike table (run i calls) (run i' calls)

theorem alike_declare (hrun : RunsAlike table run) : ∀ (names : List String) (i i' : Intent), i.Alike table i' →
    StepsAlike table (declare s run i names) (declare s run i' names)
  | [], _, _, h => .ok h
  | name :: rest, i, i', h => by
    rw [declare, declare]
    cases s.relations.lookup name with
    | none => exact ⟨h, rfl⟩
    | some calls => exact StepsAlike.andThen (alike_declare hrun rest) (hrun calls i i' h)

theorem alike_call (hrun : RunsAlike table run) (c : ChainCall) (i i' : Intent) (h : i.Alike table i') :
    StepsAlike table (call classes s run i c) (call classes s run i' c) := by
  cases c with
  | select fields =>
    refine .orElse h _ fun columns =>
      h.map (fun i => if columns.isEmpty then i else { i with select := columns }) ?_ ?_ <;>
      intros <;> split <;> rfl
  | groupBy fields =>
    refine .orElse h _ fun columns =>
      h.map (fun i => if columns.isEmpty then i else { i with groupBy := columns }) ?_ ?_ <;>
      intros <;> split <;> rfl
  | selectMore fields excepts =>
    exact .ok (h.map (fun i =>
      let columns := i.select ++ fields
      { i with select := if excepts.isEmpty then columns else columns.filter (!excepts.contains ·) })
      (fun _ _ => rfl) fun _ => rfl)
  | join table' first operator second type =>
    exact .ok (h.map (·.addJoin _) (fun _ _ => rfl) fun _ => rfl)
  | whereArgs j args => exact .orElse h _ fun cs => h.addConditions (Clause.forall₂_alike_refl cs)
  | whereRaw j text => exact .ok (h.addConditions (Clause.forall₂_alike_refl _))
  | whereIn negated field values => exact .orElse h _ fun items => h.addConditions (Clause.forall₂_alike_refl _)
  | whereNull negated field => exact .ok (h.addConditions (Clause.forall₂_alike_refl _))
  | withTrashed => exact .ok (h.map (fun i => { i with withTrashed := true }) (fun _ _ => rfl) fun _ => rfl)
  | orderBy field direction =>
    exact .ok (h.map (fun i => { i with order := some ⟨field, Text.toCapitals direction.shown⟩ }) (fun _ _ => rfl)
      fun _ => rfl)
  | limit limit offset =>
    exact .ok (h.map (fun i => { i with limit := limit, offset := offset }) (fun _ _ => rfl) fun _ => rfl)
  | relate kind model foreignKey localKey name callback =>
    exact .orElse h _ fun target => h.map (·.addRelation _) (fun _ _ => rfl) fun _ => rfl
  | withRelations fields =>
    rw [call, call]
    cases names fields with
    | error e => exact ⟨h, rfl⟩
    | ok given => exact alike_declare hrun given i i' h
  | relation method =>
    rw [call, call]
    cases s.methods.lookup method with
    | none => exact ⟨h, rfl⟩
    | some calls => exact hrun calls i i' h

theorem alike_callAll (hrun : RunsAlike table run) : ∀ (calls : List ChainCall) (i i' : Intent), i.Alike table i' →
    StepsAlike table (callAll classes s run i calls) (callAll classes s run i' calls)
  | [], _, _, h => .ok h
  | c :: rest, i, i', h => StepsAlike.andThen (alike_callAll hrun rest) (alike_call hrun c i i' h)

theorem alike_runCalls : ∀ fuel : Nat, RunsAlike table (runCalls classes s fuel)
  | 0, _, _, _, h => ⟨h, rfl⟩
  | fuel + 1, calls, i, i', h => alike_callAll (alike_runCalls fuel) calls i i' h

end Chain

/-- Calls one by one leave intents alike. -/
theorem Model.alike_called (classes : Catalogue) (s : Schema) : ∀ (calls : List ChainCall) (i i' : Intent),
    i.Alike table i' →
    (called classes ⟨s, i⟩ calls).intent.Alike table (called classes ⟨s, i'⟩ calls).intent
  | [], _, _, h => h
  | c :: rest, i, i', h => alike_called classes s rest _ _ (Chain.alike_runCalls Chain.maxDepth [c] i i' h).1

/-! ### Terminals -/

/-- A reading asks the same and does the same with the answers. -/
theorem Hydration.read_alike_conditions (classes : Catalogue) (fuel : Nat) (s : Schema) {i i' : Intent}
    (h : i.Alike s.tableName i') : read classes fuel s i = read classes fuel s i' := by
  have hrelations : i.relations = i'.relations := by
    obtain ⟨cs, -, rfl⟩ := h
    rfl
  cases fuel with
  | zero => rfl
  | succ fuel => rw [read, read, h.compile, hrelations]

theorem Intent.Alike.withoutDeleted {s : Schema} {i i' : Intent} (h : i.Alike table i') :
    (Hydration.withoutDeleted s i).Alike table (Hydration.withoutDeleted s i') := by
  have htrashed : i.withTrashed = i'.withTrashed := by
    obtain ⟨cs, -, rfl⟩ := h
    rfl
  rw [Hydration.withoutDeleted, Hydration.withoutDeleted, htrashed]
  split
  · exact h.addConditions (Clause.forall₂_alike_refl _)
  · exact h

namespace Terminal

variable {env : Surroundings} {s : Schema} {i i' : Intent}

theorem runRead_alike (h : i.Alike s.tableName i') : runRead env s i = runRead env s i' := by
  have hselect := h.map (fun i => { i with action := .known .select }) (fun _ _ => rfl) fun _ => rfl
  rw [runRead, runRead, Hydration.read_alike_conditions env.classes _ s hselect]

theorem rows_alike (h : i.Alike s.tableName i') : rows env s i = rows env s i' := runRead_alike h.withoutDeleted

theorem firstRow_alike (h : i.Alike s.tableName i') : firstRow env s i = firstRow env s i' := by
  rw [firstRow, firstRow, rows_alike (h.map (fun i => { i with limit := .int 1 }) (fun _ _ => rfl) fun _ => rfl)]

theorem countRows_alike (h : i.Alike s.tableName i') : countRows env s i = countRows env s i' := by
  rw [countRows, countRows, firstRow_alike (h.map counting (fun _ _ => rfl) fun _ => rfl)]

theorem readPage_alike (h : i.Alike s.tableName i') (page perPage : Value) :
    readPage env s i page perPage = readPage env s i' page perPage := by
  have hpage : pageOf s i page perPage = pageOf s i' page perPage := by
    obtain ⟨cs, -, rfl⟩ := h
    rfl
  have hrows (limit offset : Value) :
      rows env s { i with limit := limit, offset := offset } =
        rows env s { i' with limit := limit, offset := offset } :=
    rows_alike (h.map (fun i => { i with limit := limit, offset := offset }) (fun _ _ => rfl) fun _ => rfl)
  have hcount : countRows env s { i with limit := .null, offset := .null } =
      countRows env s { i' with limit := .null, offset := .null } :=
    countRows_alike (h.map (fun i => { i with limit := .null, offset := .null }) (fun _ _ => rfl) fun _ => rfl)
  simp only [readPage, hpage, hrows, hcount]

theorem runWrite_alike (h : i.Alike s.tableName i') : runWrite s i = runWrite s i' := by
  rw [runWrite, runWrite, h.compile]

theorem updateRows_alike (h : i.Alike s.tableName i') (data : Row) :
    updateRows env s i data = updateRows env s i' data := by
  have hwrite (row : Row) :
      runWrite s { Hydration.withoutDeleted s i with action := .known .update, data := some row } =
        runWrite s { Hydration.withoutDeleted s i' with action := .known .update, data := some row } :=
    runWrite_alike (h.withoutDeleted.map (fun i => { i with action := .known .update, data := some row })
      (fun _ _ => rfl) fun _ => rfl)
  simp only [updateRows, h.isEmpty_conditions, hwrite]

theorem deleteForGood_alike (h : i.Alike s.tableName i') : deleteForGood s i = deleteForGood s i' := by
  rw [deleteForGood, deleteForGood,
    runWrite_alike (h.map (fun i => { i with action := .known .delete }) (fun _ _ => rfl) fun _ => rfl)]

theorem deleteRows_alike (h : i.Alike s.tableName i') : deleteRows env s i = deleteRows env s i' := by
  have hguarded := h.addConditions (Clause.forall₂_alike_refl [Hydration.notDeleted])
  have hwrite (row : Row) :
      runWrite s { i.addConditions [Hydration.notDeleted] with action := .known .update, data := some row } =
        runWrite s { i'.addConditions [Hydration.notDeleted] with action := .known .update, data := some row } :=
    runWrite_alike (hguarded.map (fun i => { i with action := .known .update, data := some row }) (fun _ _ => rfl)
      fun _ => rfl)
  simp only [deleteRows, h.isEmpty_conditions, deleteForGood_alike h, hwrite]

/-- Of two intents that are alike, a terminal makes the same. -/
theorem perform_alike (h : i.Alike s.tableName i') (t : Terminal) : t.perform env s i = t.perform env s i' := by
  rw [(t.does_run env s i).perform_eq, (t.does_run env s i').perform_eq]
  cases t with
  | get => simp only [rows_alike h]
  | first => simp only [firstRow_alike h]
  | find key =>
    have hfound : { i with conditions := [.compare s.primaryKey "=" key Junction.and.word] } =
        { i' with conditions := [.compare s.primaryKey "=" key Junction.and.word] } := by
      obtain ⟨cs, -, rfl⟩ := h
      rfl
    simp only [hfound]
  | count => simp only [countRows_alike h]
  | paginate page perPage => simp only [readPage_alike h]
  | rawQuery sql =>
    have hraw := h.map (fun i => { i with rawQuery := some sql }) (fun _ _ => rfl) fun _ => rfl
    simp only [runRead_alike hraw]
  | insert | insertIgnore | insertOrUpdate => rfl
  | update data => exact updateRows_alike h data
  | delete => exact deleteRows_alike h
  | forceDelete => exact deleteForGood_alike h

end Terminal

end RecordMapper
