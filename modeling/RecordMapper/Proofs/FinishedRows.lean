import RecordMapper.Proofs.Readings
import RecordMapper.Proofs.RelatedRows

/-!
Rows as a read gives them. A row is cast, gets its related rows under the names of its relations, and loses the columns
that its class hides. Main statements: relations that are read together are there exactly if each of them is; a read
has rows exactly if the casts of its rows succeed; what a finished row has under the name of a relation is what belongs
to the row as the relations before it have left it; and two reads of one statement ask the same if its rows are
finished alike in both.
-/
namespace RecordMapper

/-! ### Results one after another -/

theorem map_eq_ok {α β : Type} {r : Except Failure α} {f : α → β} {b : β} :
    r.map f = .ok b ↔ ∃ a, r = .ok a ∧ f a = b := by
  cases r <;> simp [Except.map]

/-- Results one after another: each comes from the item at its place. -/
theorem mapM_eq_ok {α β : Type} {f : α → Except Failure β} : ∀ {items : List α} {results : List β},
    items.mapM f = .ok results ↔ List.Forall₂ (fun a b => f a = .ok b) items results
  | [], results => by
    rw [List.forall₂_nil_left_iff]
    exact ⟨fun h => (Except.ok.inj h).symm, fun h => h ▸ rfl⟩
  | a :: rest, results => by
    rw [List.mapM_cons, bind_eq_ok, List.forall₂_cons_left_iff]
    constructor
    · rintro ⟨b, hb, h⟩
      obtain ⟨bs, hbs, h⟩ := bind_eq_ok.1 h
      cases h
      exact ⟨b, bs, hb, mapM_eq_ok.1 hbs, rfl⟩
    · rintro ⟨b, bs, hb, hbs, rfl⟩
      exact ⟨b, hb, bind_eq_ok.2 ⟨bs, mapM_eq_ok.2 hbs, rfl⟩⟩

/-- Results one after another are there exactly if each of them is. -/
theorem exists_mapM_eq_ok {α β : Type} {f : α → Except Failure β} : ∀ {items : List α},
    (∃ results, items.mapM f = .ok results) ↔ ∀ a ∈ items, ∃ b, f a = .ok b
  | [] => by simp [pure, Except.pure]
  | a :: rest => by
    have ih : (∃ results, rest.mapM f = .ok results) ↔ ∀ a ∈ rest, ∃ b, f a = .ok b := exists_mapM_eq_ok
    rw [List.forall_mem_cons, ← ih, List.mapM_cons]
    constructor
    · rintro ⟨results, h⟩
      obtain ⟨b, hb, h⟩ := bind_eq_ok.1 h
      obtain ⟨bs, hbs, -⟩ := bind_eq_ok.1 h
      exact ⟨⟨b, hb⟩, bs, hbs⟩
    · rintro ⟨⟨b, hb⟩, bs, hbs⟩
      exact ⟨b :: bs, bind_eq_ok.2 ⟨b, hb, bind_eq_ok.2 ⟨bs, hbs, rfl⟩⟩⟩

/-- Results of which one stands between others. -/
theorem mapM_append_cons_eq_ok {α β : Type} {f : α → Except Failure β} {before after : List α} {a : α}
    {results : List β} : (before ++ a :: after).mapM f = .ok results ↔
      ∃ bs b as, before.mapM f = .ok bs ∧ f a = .ok b ∧ after.mapM f = .ok as ∧ results = bs ++ b :: as := by
  rw [List.mapM_append, bind_eq_ok]
  constructor
  · rintro ⟨bs, hbs, h⟩
    obtain ⟨tail, htail, h⟩ := bind_eq_ok.1 h
    rw [List.mapM_cons] at htail
    obtain ⟨b, hb, htail⟩ := bind_eq_ok.1 htail
    obtain ⟨as, has, htail⟩ := bind_eq_ok.1 htail
    cases htail
    cases h
    exact ⟨bs, b, as, hbs, hb, has, rfl⟩
  · rintro ⟨bs, b, as, hbs, hb, has, rfl⟩
    refine ⟨bs, hbs, bind_eq_ok.2 ⟨b :: as, ?_, rfl⟩⟩
    rw [List.mapM_cons]
    exact bind_eq_ok.2 ⟨b, hb, bind_eq_ok.2 ⟨as, has, rfl⟩⟩

/-- Results that are all changed in one way. -/
theorem mapM_map_result {α β γ : Type} (f : α → Except Failure β) (g : β → γ) : ∀ items : List α,
    items.mapM (fun a => (f a).map g) = (items.mapM f).map (List.map g)
  | [] => rfl
  | a :: rest => by
    rw [List.mapM_cons, List.mapM_cons, mapM_map_result f g rest]
    cases f a with
    | error e => rfl
    | ok b => cases rest.mapM f <;> rfl

/-! ### Columns that are taken away -/

/-- A column that is taken away is gone; the others stay. -/
theorem Row.value?_erase (column other : String) (row : Row) :
    Row.value? other (Row.erase column row) = if column = other then none else Row.value? other row := by
  induction row with
  | nil => simp [Row.erase]
  | cons entry rest ih =>
    obtain ⟨c, v⟩ := entry
    rw [Row.erase] at ih
    by_cases hc : c = column
    · subst hc
      by_cases h : c = other <;> simp_all [Row.erase, Row.value?]
    · by_cases h : c = other
      · subst h
        simp [Row.erase, Row.value?, hc, Ne.symm hc]
      · simpa [Row.erase, Row.value?, hc, h] using ih

/-- A row without some columns. -/
def Row.hide (columns : List String) (row : Row) : Row := columns.foldl (fun row column => Row.erase column row) row

theorem Row.value?_hide (column : String) : ∀ (columns : List String) (row : Row),
    Row.value? column (Row.hide columns row) = if column ∈ columns then none else Row.value? column row
  | [], row => by simp [Row.hide]
  | c :: rest, row => by
    have ih := Row.value?_hide column rest (Row.erase c row)
    rw [Row.hide, List.foldl_cons, ← Row.hide, ih, Row.value?_erase]
    by_cases hc : c = column
    · simp [hc]
    · simp [hc, Ne.symm hc]

theorem Row.value_hide (column : String) (columns : List String) (row : Row) :
    Row.value (Row.hide columns row) column = if column ∈ columns then .null else Row.value row column := by
  rw [Row.value, Row.value?_hide]
  split <;> rfl

theorem Row.value?_isSome (column : String) (row : Row) :
    (Row.value? column row).isSome = true ↔ column ∈ Row.columns row := by
  induction row with
  | nil => simp [Row.columns]
  | cons entry rest ih =>
    obtain ⟨c, v⟩ := entry
    rw [Row.columns] at ih
    by_cases hc : c = column
    · simp [Row.value?, Row.columns, hc]
    · simpa [Row.value?, Row.columns, hc, Ne.symm hc] using ih

namespace Hydration

/-! ### Relations that are read together -/

/-- There is no first failure exactly if every reading has a result. -/
theorem firstFailure_eq_none {α : Type} : ∀ {readings : List (Timed α)},
    firstFailure readings = none ↔ ∀ t ∈ readings, ∃ a, t.result = .ok a
  | [] => by simp [firstFailure]
  | t :: rest => by
    have ih : firstFailure rest = none ↔ ∀ t ∈ rest, ∃ a, t.result = .ok a := firstFailure_eq_none
    rw [List.forall_mem_cons, ← ih, firstFailure]
    cases ht : t.result with
    | ok a => simp
    | error e => cases firstFailure rest <;> grind

/-- Readings done together have the results that each of them has. -/
theorem result_gather_eq_ok {α : Type} {readings : List (Timed α)} {results : List α} :
    (gather readings).result = .ok results ↔ readings.mapM Timed.result = .ok results := by
  rw [gather]
  cases hfirst : firstFailure readings with
  | none => rfl
  | some first =>
    constructor
    · rintro ⟨⟩
    · intro h
      rw [firstFailure_eq_none.2 (exists_mapM_eq_ok.1 ⟨results, h⟩)] at hfirst
      cases hfirst

/-- What a relation is loaded for comes back with it. -/
theorem gives_load (classes : Catalogue) (reader : Reader) (rows : List Row) (r : Relation) :
    (load classes reader rows r).Gives fun t => ∀ p, t.result = .ok p → p.1 = r := by
  rw [load]
  split
  · rintro _ ⟨⟩
    rfl
  · split
    · intro p hp
      cases hp
    · refine Rounds.Gives.map (Rounds.gives_of_forall (fun found p hp => ?_) _)
      obtain ⟨a, -, hp⟩ := bind_eq_ok.1 hp
      split at hp
      · cases hp
      · obtain ⟨related, -, hp⟩ := bind_eq_ok.1 hp
        cases hp
        rfl

theorem map_fst_of_loaded : ∀ {relations : List Relation} {readings : List (Timed (Relation × Related))}
    {hydrated : List (Relation × Related)},
    List.Forall₂ (fun r t => ∀ p, Timed.result t = .ok p → p.1 = r) relations readings →
    List.Forall₂ (fun t p => Timed.result t = .ok p) readings hydrated → hydrated.map Prod.fst = relations
  | _, _, _, .nil, .nil => rfl
  | _, _, _, .cons hr hrest, .cons ht htail => congrArg₂ List.cons (hr _ ht) (map_fst_of_loaded hrest htail)

/-! ### What a row gets -/

theorem attach_append (before after : List (Relation × Related)) (row : Row) :
    attach (before ++ after) row = attach after (attach before row) :=
  List.foldl_append

/-- A column that is no relation's name stays as it is. -/
theorem value?_attach_of_notMem {column : String} : ∀ {hydrated : List (Relation × Related)} (row : Row),
    column ∉ hydrated.map (fun p => p.1.identifier) → Row.value? column (attach hydrated row) = Row.value? column row
  | [], _, _ => rfl
  | (r, related) :: rest, row, h => by
    obtain ⟨hr, hrest⟩ := not_or.1 (List.mem_cons.not.1 h)
    rw [attach, List.foldl_cons, ← attach, value?_attach_of_notMem _ hrest, Row.value?_set, if_neg (Ne.symm hr)]

/-- Under the name of a relation stands what belongs to the row that the relations before it have left. -/
theorem value?_attach (before after : List (Relation × Related)) (r : Relation) (related : Related) (row : Row)
    (hafter : r.identifier ∉ after.map fun p => p.1.identifier) :
    Row.value? r.identifier (attach (before ++ (r, related) :: after) row) =
      some (valueFor r related (attach before row)) := by
  rw [attach_append, attach, List.foldl_cons, ← attach, value?_attach_of_notMem _ hafter, Row.value?_set, if_pos rfl]

/-! ### Rows of a read -/

theorem finishRow_eq (s : Schema) (hydrated : List (Relation × Related)) (row : Row) :
    finishRow s hydrated row =
      (Casts.apply .fromStorage s.castList row).map fun cast => Row.hide s.hidden (attach hydrated cast) := by
  rw [finishRow]
  cases Casts.apply .fromStorage s.castList row <;> rfl

/-- Whether rows can be finished depends on their casts only. -/
theorem mapM_finishRow (s : Schema) (hydrated : List (Relation × Related)) (rows : List Row) :
    rows.mapM (finishRow s hydrated) = (rows.mapM (Casts.apply .fromStorage s.castList)).map
      (List.map fun cast => Row.hide s.hidden (attach hydrated cast)) := by
  rw [← mapM_map_result]
  exact congrArg (rows.mapM ·) (funext (finishRow_eq s hydrated))

/-- Rows that are finished with some related rows. -/
theorem bind_rows_eq_map (rows : Except Failure (List Row)) :
    (do return Answer.rows (← rows)) = rows.map Answer.rows := by
  cases rows <;> rfl

/-- A read has rows if its relations are there and its rows can be cast. -/
theorem finished_eq_ok {s : Schema} {loaded : Except Failure (List (Relation × Related))} {rows : List Row}
    {a : Answer} :
    (do
      let hydrated ← loaded
      return Answer.rows (← rows.mapM (finishRow s hydrated))) = .ok a ↔
      ∃ hydrated cast, loaded = .ok hydrated ∧ rows.mapM (Casts.apply .fromStorage s.castList) = .ok cast ∧
        a = .rows (cast.map fun row => Row.hide s.hidden (attach hydrated row)) := by
  rw [bind_eq_ok]
  constructor
  · rintro ⟨hydrated, hhydrated, h⟩
    rw [bind_rows_eq_map, mapM_finishRow] at h
    obtain ⟨out, hout, rfl⟩ := map_eq_ok.1 h
    obtain ⟨cast, hcast, rfl⟩ := map_eq_ok.1 hout
    exact ⟨hydrated, cast, hhydrated, hcast, rfl⟩
  · rintro ⟨hydrated, cast, hhydrated, hcast, rfl⟩
    refine ⟨hydrated, hhydrated, ?_⟩
    rw [bind_rows_eq_map, mapM_finishRow, hcast]
    rfl

/-! ### Reads of two classes -/

/-- Two reads of one statement ask the same, if the rows of its answer are finished alike. A failure is passed on in
both, and so is an answer without rows. -/
theorem paired_read {classes : Catalogue} {s s' : Schema} {i i' : Intent}
    (hcompile : i'.compile s'.tableName = i.compile s.tableName)
    {R : Except Failure Answer → Except Failure Answer → Prop} (hfailed : ∀ e, R (.error e) (.error e))
    (hpassed : ∀ a, rows? a = none → R (.ok a) (.ok a))
    (hfinish : ∀ fuel raw, (finish classes (read classes fuel) s i.relations raw).Paired
      (fun t t' => R t.result t'.result) (finish classes (read classes fuel) s' i'.relations raw)) (fuel : Nat) :
    (read classes fuel s i).Paired (fun t t' => R t.result t'.result) (read classes fuel s' i') := by
  cases fuel with
  | zero => exact hfailed _
  | succ fuel =>
    rw [read, read, hcompile]
    cases i.compile s.tableName with
    | error e => exact hfailed e
    | ok l =>
      refine ⟨rfl, fun answers => ?_⟩
      rcases answers with _ | ⟨e | answer, _⟩
      · exact hfailed _
      · exact hfailed e
      · dsimp only
        cases hrows : rows? answer with
        | some raw => exact hfinish fuel raw
        | none =>
          -- an answer without rows is passed on, unless it is a list
          change R (if isList answer then .error notRows else .ok answer)
            (if isList answer then .error notRows else .ok answer)
          split
          · exact hfailed _
          · exact hpassed answer hrows

end Hydration

end RecordMapper
