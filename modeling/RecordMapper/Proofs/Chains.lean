import RecordMapper.Proofs.SoftDelete

/-!
What chains leave in an intent. A property of intents is `Chain.Lasting` if no change that a call may make takes it
away; then no chain does, whatever relations it declares on its way and wherever it fails. Main statement: the
conditions of a chain are those of its calls one after another, and what a call adds is what it adds to an intent
without any.
-/
namespace RecordMapper

/-- An intent as a chain makes it: nothing but the chain decides its statement, and no two of its relations go by one
name. -/
structure Intent.IsChained (i : Intent) : Prop where
  rawQuery : i.rawQuery = none
  names : (i.relations.map Relation.identifier).Nodup

namespace Chain

/-- No change that a call may make takes the property away. -/
structure Lasting (P : Intent → Prop) : Prop where
  select : ∀ i columns, P i → P { i with select := columns }
  join : ∀ i j, P i → P (i.addJoin j)
  conditions : ∀ i cs, P i → P (i.addConditions cs)
  withTrashed : ∀ i, P i → P { i with withTrashed := true }
  order : ∀ i o, P i → P { i with order := o }
  groupBy : ∀ i columns, P i → P { i with groupBy := columns }
  range : ∀ i limit offset, P i → P { i with limit := limit, offset := offset }
  relation : ∀ i r, P i → P (i.addRelation r)

/-- Running calls keeps a property, if these are all of a kind. -/
def RunKeeps (P : Intent → Prop) (kind : ChainCall → Prop) (run : Intent → List ChainCall → Step) : Prop :=
  ∀ i calls, (∀ c ∈ calls, kind c) → P i → P (run i calls).1

/-- What a call or several calls do to conditions and how they end: whatever the intent is, these stand behind its own,
and it ends in one way. -/
def Adds (step : Intent → Step) (cs : List Clause) : Prop :=
  ∃ outcome, ∀ i, (step i).1.conditions = i.conditions ++ cs ∧ (step i).2 = outcome

/-- The conditions that a call adds. -/
def added (classes : Catalogue) (s : Schema) (c : ChainCall) : List Clause :=
  (runCalls classes s maxDepth .empty [c]).1.conditions

/-! ### Properties that last -/

section
variable {P : Intent → Prop} {kind : ChainCall → Prop} {classes : Catalogue} {s : Schema}
  {run : Intent → List ChainCall → Step}

theorem keeps_orElse {α : Type} {i : Intent} (hi : P i) (r : Except Failure α) {f : α → Intent} (hf : ∀ a, P (f a)) :
    P (orElse i r f).1 := by
  cases r with
  | error e => exact hi
  | ok a => exact hf a

theorem keeps_declare (hrun : RunKeeps P kind run)
    (hrelations : ∀ name calls, s.relations.lookup name = some calls → ∀ c ∈ calls, kind c) :
    ∀ (names : List String) (i : Intent), P i → P (declare s run i names).1
  | [], _, hi => hi
  | name :: rest, i, hi => by
    rw [declare]
    cases hcalls : s.relations.lookup name with
    | none => exact hi
    | some calls =>
      have hstep := hrun i calls (hrelations name calls hcalls) hi
      dsimp only
      split
      · rename_i j _ hrest
        rw [hrest] at hstep
        exact keeps_declare hrun hrelations rest j hstep
      · exact hstep

theorem keeps_withRelations (hrun : RunKeeps P kind run)
    (hrelations : ∀ name calls, s.relations.lookup name = some calls → ∀ c ∈ calls, kind c) (fields : List Value)
    {i : Intent} (hi : P i) : P (call classes s run i (.withRelations fields)).1 := by
  rw [Chain.call]
  cases names fields with
  | error e => exact hi
  | ok given => exact keeps_declare hrun hrelations given i hi

/-- What each call of a kind keeps, if the calls that it stands for do, is kept by calls of the kind at any depth. -/
theorem keeps_runCalls (hcall : ∀ run, RunKeeps P kind run → ∀ i c, kind c → P i → P (call classes s run i c).1) :
    ∀ fuel : Nat, RunKeeps P kind (runCalls classes s fuel)
  | 0, _, _, _, hi => hi
  | fuel + 1, i, calls, hcalls, hi =>
    keeps_callAll (hcall (runCalls classes s fuel) (keeps_runCalls hcall fuel)) calls i hcalls hi

theorem Lasting.call (hP : Lasting P) (hrun : RunKeeps P (fun _ => True) run) {i : Intent} (hi : P i) (c : ChainCall) :
    P (call classes s run i c).1 := by
  cases c with
  | select fields =>
    refine keeps_orElse hi _ fun columns => ?_
    split
    · exact hi
    · exact hP.select i _ hi
  | selectMore fields excepts => exact hP.select i _ hi
  | join table first operator second type => exact hP.join i _ hi
  | whereArgs j args => exact keeps_orElse hi _ fun cs => hP.conditions i cs hi
  | whereRaw j text => exact hP.conditions i _ hi
  | whereIn negated field values => exact keeps_orElse hi _ fun items => hP.conditions i _ hi
  | whereNull negated field => exact hP.conditions i _ hi
  | withTrashed => exact hP.withTrashed i hi
  | orderBy field direction => exact hP.order i _ hi
  | groupBy fields =>
    refine keeps_orElse hi _ fun columns => ?_
    split
    · exact hi
    · exact hP.groupBy i _ hi
  | limit limit offset => exact hP.range i limit offset hi
  | relate kind model foreignKey localKey name callback => exact keeps_orElse hi _ fun target => hP.relation i _ hi
  | withRelations fields => exact keeps_withRelations hrun (fun _ _ _ _ _ => trivial) fields hi
  | relation method =>
    simp only [Chain.call]
    cases s.methods.lookup method with
    | none => exact hi
    | some calls => exact hrun i calls (fun _ _ => trivial) hi

theorem Lasting.runCalls (hP : Lasting P) (fuel : Nat) (i : Intent) (calls : List ChainCall) (hi : P i) :
    P (runCalls classes s fuel i calls).1 :=
  keeps_runCalls (fun _ hrun _ c _ hj => hP.call hrun hj c) fuel i calls (fun _ _ => trivial) hi

end

/-- Calls one by one leave the class of a model as it is, and keep what lasts. -/
theorem Lasting.called {P : Intent → Prop} (hP : Lasting P) (classes : Catalogue) (calls : List ChainCall) (m : Model)
    (hm : P m.intent) : (m.called classes calls).schema = m.schema ∧ P (m.called classes calls).intent :=
  @Model.keeps_called classes m.schema P (fun _ => True) (fun i c _ hi => hP.runCalls maxDepth i [c] hi) calls m.intent
    (fun _ _ => trivial) hm

theorem lasting_isChained : Lasting Intent.IsChained where
  select := fun _ _ hi => ⟨hi.rawQuery, hi.names⟩
  join := fun _ _ hi => ⟨hi.rawQuery, hi.names⟩
  conditions := fun _ _ hi => ⟨hi.rawQuery, hi.names⟩
  withTrashed := fun _ hi => ⟨hi.rawQuery, hi.names⟩
  order := fun _ _ hi => ⟨hi.rawQuery, hi.names⟩
  groupBy := fun _ _ hi => ⟨hi.rawQuery, hi.names⟩
  range := fun _ _ _ hi => ⟨hi.rawQuery, hi.names⟩
  relation := fun i r hi => by
    refine ⟨hi.rawQuery, ?_⟩
    -- a relation that goes by the new one's name has been taken out
    rw [Intent.addRelation, List.map_append, List.map_singleton, List.nodup_append]
    refine ⟨(List.filter_sublist.map _).nodup hi.names, List.pairwise_singleton _ _, ?_⟩
    rintro name hname _ hlast rfl
    obtain ⟨q, hq, rfl⟩ := List.mem_map.1 hname
    have hother := (List.mem_filter.1 hq).2
    rw [List.mem_singleton.1 hlast] at hother
    simp at hother

theorem isChained_empty : Intent.empty.IsChained := ⟨rfl, List.nodup_nil⟩

/-! ### Chains on new models -/

theorem isChained_called (classes : Catalogue) (s : Schema) (calls : List ChainCall) :
    (Model.called classes ⟨s, .empty⟩ calls).intent.IsChained :=
  (lasting_isChained.called classes calls ⟨s, .empty⟩ isChained_empty).2

theorem schema_called (classes : Catalogue) (s : Schema) (calls : List ChainCall) :
    (Model.called classes ⟨s, .empty⟩ calls).schema = s :=
  Model.schema_of_called classes calls ⟨s, .empty⟩

/-- The end of a chain is that of a terminal for its class and its intent. -/
theorem finish_called (classes : Catalogue) (s : Schema) (calls : List ChainCall) (env : Surroundings) (t : Terminal)
    (sys : System) : ((Model.called classes ⟨s, .empty⟩ calls).finish env t sys).2 =
      (t.perform env s (Model.called classes ⟨s, .empty⟩ calls).intent).perform sys := by
  rw [Model.finish_eq, schema_called]

/-! ### Conditions that calls add -/

section
variable {classes : Catalogue} {s : Schema} {run : Intent → List ChainCall → Step}

theorem adds_ok {f : Intent → Intent} {cs : List Clause} (h : ∀ i, (f i).conditions = i.conditions ++ cs) :
    Adds (fun i => ok (f i)) cs :=
  ⟨.ok (), fun i => ⟨h i, rfl⟩⟩

/-- A change that concerns other parts of the intent. -/
theorem adds_nothing {f : Intent → Intent} (h : ∀ i, (f i).conditions = i.conditions) : Adds (fun i => ok (f i)) [] :=
  adds_ok fun i => (h i).trans (List.append_nil _).symm

theorem adds_error (e : Failure) : Adds (fun i => (i, .error e)) [] :=
  ⟨.error e, fun _ => ⟨(List.append_nil _).symm, rfl⟩⟩

theorem exists_adds_orElse {α : Type} (r : Except Failure α) {f : α → Intent → Intent}
    (hf : ∀ a, ∃ cs, ∀ i, (f a i).conditions = i.conditions ++ cs) :
    ∃ cs, Adds (fun i => orElse i r fun a => f a i) cs := by
  cases r with
  | error e => exact ⟨[], adds_error e⟩
  | ok a =>
    obtain ⟨cs, hcs⟩ := hf a
    exact ⟨cs, adds_ok hcs⟩

/-- One step after the other, the second only if the first does not fail. -/
theorem Adds.andThen {step next : Intent → Step} {cs : List Clause} (hstep : Adds step cs)
    (hnext : ∃ ds, Adds next ds) :
    ∃ ds, Adds (fun i =>
      match step i with
      | (j, .ok _) => next j
      | failed => failed) ds := by
  obtain ⟨outcome, hstep⟩ := hstep
  -- how the first step ends is the same for every intent, and so is whether there is a second
  cases outcome with
  | error e =>
    refine ⟨cs, .error e, fun i => ?_⟩
    obtain ⟨hconditions, hended⟩ := hstep i
    dsimp only
    split
    · rename_i j _ h
      rw [h] at hended
      cases hended
    · exact ⟨hconditions, hended⟩
  | ok _ =>
    obtain ⟨ds, outcome, hnext⟩ := hnext
    refine ⟨cs ++ ds, outcome, fun i => ?_⟩
    obtain ⟨hconditions, hended⟩ := hstep i
    dsimp only
    split
    · rename_i j _ h
      rw [h] at hconditions
      rw [(hnext j).1, hconditions, List.append_assoc]
      exact ⟨rfl, (hnext j).2⟩
    · rename_i hfailed
      exact (hfailed _ _ (Prod.ext rfl hended)).elim

theorem exists_adds_declare (hrun : ∀ calls, ∃ cs, Adds (run · calls) cs) : ∀ names : List String,
    ∃ cs, Adds (declare s run · names) cs
  | [] => ⟨[], adds_nothing fun _ => rfl⟩
  | name :: rest => by
    simp only [declare]
    cases s.relations.lookup name with
    | none => exact ⟨[], adds_error _⟩
    | some calls =>
      obtain ⟨cs, hcs⟩ := hrun calls
      exact hcs.andThen (exists_adds_declare hrun rest)

theorem exists_adds_call (hrun : ∀ calls, ∃ cs, Adds (run · calls) cs) (c : ChainCall) :
    ∃ cs, Adds (call classes s run · c) cs := by
  cases c with
  | select fields | groupBy fields =>
    refine exists_adds_orElse _ fun columns => ⟨[], fun i => ?_⟩
    split <;> exact (List.append_nil _).symm
  | selectMore | join | withTrashed | orderBy | limit => exact ⟨[], adds_nothing fun _ => rfl⟩
  | whereArgs j args => exact exists_adds_orElse _ fun cs => ⟨cs, fun _ => rfl⟩
  | whereRaw | whereNull => exact ⟨_, adds_ok fun _ => rfl⟩
  | whereIn negated field values => exact exists_adds_orElse _ fun items => ⟨_, fun _ => rfl⟩
  | relate kind model foreignKey localKey name callback =>
    exact exists_adds_orElse _ fun target => ⟨[], fun _ => (List.append_nil _).symm⟩
  | withRelations fields =>
    simp only [call]
    cases names fields with
    | error e => exact ⟨[], adds_error e⟩
    | ok given => exact exists_adds_declare hrun given
  | relation method =>
    simp only [call]
    cases s.methods.lookup method with
    | none => exact ⟨[], adds_error _⟩
    | some calls => exact hrun calls

theorem exists_adds_callAll (hrun : ∀ calls, ∃ cs, Adds (run · calls) cs) : ∀ calls : List ChainCall,
    ∃ cs, Adds (callAll classes s run · calls) cs
  | [] => ⟨[], adds_nothing fun _ => rfl⟩
  | c :: rest => by
    obtain ⟨cs, hcs⟩ : ∃ cs, Adds (call classes s run · c) cs := exists_adds_call hrun c
    simp only [callAll]
    exact hcs.andThen (exists_adds_callAll hrun rest)

theorem exists_adds_runCalls : ∀ (fuel : Nat) (calls : List ChainCall),
    ∃ cs, Adds (runCalls classes s fuel · calls) cs
  | 0, _ => ⟨[], adds_error _⟩
  | fuel + 1, calls => exists_adds_callAll (exists_adds_runCalls fuel) calls

end

/-- A call puts its conditions behind those of the intent. -/
theorem conditions_chain (classes : Catalogue) (m : Model) (c : ChainCall) :
    (m.chain classes [c]).1.intent.conditions = m.intent.conditions ++ added classes m.schema c := by
  obtain ⟨cs, outcome, hcs⟩ : ∃ cs, Adds (runCalls classes m.schema maxDepth · [c]) cs :=
    exists_adds_runCalls maxDepth [c]
  have hadded : added classes m.schema c = cs := (hcs .empty).1
  rw [hadded]
  exact (hcs m.intent).1

/-- The conditions of a chain are those of its calls one after another, behind those of the intent that it began
with. -/
theorem conditions_called (classes : Catalogue) : ∀ (calls : List ChainCall) (m : Model),
    (m.called classes calls).intent.conditions = m.intent.conditions ++ calls.flatMap (added classes m.schema)
  | [], _ => (List.append_nil _).symm
  | c :: rest, m => by
    have hrest := conditions_called classes rest (m.chain classes [c]).1
    rw [conditions_chain, List.append_assoc] at hrest
    exact hrest

end Chain

end RecordMapper
