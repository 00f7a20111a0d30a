import RecordMapper.Model.Terminal
import RecordMapper.Proofs.FinishedRows

/-!
Related rows and the casts of their parents. Related rows are asked for by the keys that the parents have in the store,
and they are put into the parents' rows by the keys that these have after the casts. Main statement: two classes that
differ in their casts only read with the same questions, and the rows that they give have the same related rows
wherever the casts leave the relations' keys the same texts. A cast that changes the text of a key takes away what
belongs to it.
-/
namespace RecordMapper

namespace Casts

theorem value?_applyOne {direction : Direction} {row result : Row} {column tag other : String}
    (h : applyOne direction row column tag = .ok result) (hother : column ≠ other) :
    Row.value? other result = Row.value? other row := by
  rw [applyOne] at h
  split at h
  · cases h
    rfl
  · split at h
    · cases h
    · rename_i cast _
      cases hv : cast.convert direction column (row.value column) with
      | error e => simp [hv, Except.map] at h
      | ok v =>
        rw [hv] at h
        rw [← Except.ok.inj h, Row.value?_set, if_neg hother]

/-- A column without a cast stays as it is. -/
theorem value?_apply {direction : Direction} {column : String} : ∀ {casts : Casts} {row result : Row},
    apply direction casts row = .ok result → column ∉ casts.map Prod.fst →
    Row.value? column result = Row.value? column row
  | [], _, _, h, _ => by
    cases h
    rfl
  | (c, tag) :: rest, row, result, h, hcolumn => by
    obtain ⟨hc, hrest⟩ := not_or.1 (List.mem_cons.not.1 hcolumn)
    obtain ⟨next, hnext, h⟩ := bind_eq_ok.1 h
    rw [value?_apply h hrest, value?_applyOne hnext (Ne.symm hc)]

end Casts

namespace Hydration

/-- What related rows are found by: nothing if the key is null, else its text. -/
def keyOf (v : Value) : Option KeyText := if v.isNull then none else some (indexKey v)

/-- Two rows of one parent: they have the same in some columns, and the same keys for some relations. -/
structure Alike (columns : List String) (relations : List Relation) (row row' : Row) : Prop where
  columns : ∀ c ∈ columns, Row.value? c row = Row.value? c row'
  keys : ∀ r ∈ relations, keyOf (Row.value row r.parentKey) = keyOf (Row.value row' r.parentKey)

/-- The relations' names have the same under them in both rows, if the keys of both are the same after the casts. -/
def AttachedAlike (relations : List Relation) (casts casts' : Casts) (row out out' : Row) : Prop :=
  ∃ c c', Casts.apply .fromStorage casts row = .ok c ∧ Casts.apply .fromStorage casts' row = .ok c' ∧
    ((∀ r ∈ relations, keyOf (Row.value c r.parentKey) = keyOf (Row.value c' r.parentKey)) →
      ∀ r ∈ relations, Row.value? r.identifier out = Row.value? r.identifier out')

/-! ### Keys and related rows -/

/-- What belongs to a row depends on the text of its key only. -/
theorem valueFor_congr (r : Relation) (related : Related) {row row' : Row}
    (h : keyOf (Row.value row r.parentKey) = keyOf (Row.value row' r.parentKey)) :
    valueFor r related row = valueFor r related row' := by
  rw [keyOf, keyOf] at h
  by_cases hnull : (Row.value row r.parentKey).isNull = true
  · by_cases hnull' : (Row.value row' r.parentKey).isNull = true
    · cases related <;> simp only [valueFor, hnull, hnull', if_true]
    · simp [hnull, hnull'] at h
  · by_cases hnull' : (Row.value row' r.parentKey).isNull = true
    · simp [hnull, hnull'] at h
    · rw [if_neg hnull, if_neg hnull'] at h
      cases related <;> simp only [valueFor, hnull, hnull', Option.some.inj h]

/-- One relation more: its name has the same under it, and the keys of the others are still the same, even where the
name is that of a key. -/
theorem Alike.set {columns : List String} {r : Relation} {rest : List Relation} {row row' : Row}
    (h : Alike columns (r :: rest) row row') (related : Related) :
    Alike (r.identifier :: columns) rest (Row.set r.identifier (valueFor r related row) row)
      (Row.set r.identifier (valueFor r related row') row') := by
  have hvalue := valueFor_congr r related (h.keys r List.mem_cons_self)
  constructor
  · intro c hc
    rw [Row.value?_set, Row.value?_set, hvalue]
    split
    · rfl
    · rename_i hne
      exact h.columns c ((List.mem_cons.1 hc).resolve_left (Ne.symm hne))
  · intro other hother
    have hkeys := h.keys other (List.mem_cons_of_mem r hother)
    by_cases hname : r.identifier = other.parentKey
    · simp [Row.value, hname, hvalue]
    · simpa [Row.value, hname] using hkeys

/-- All relations, one after another. -/
theorem Alike.attach : ∀ (hydrated : List (Relation × Related)) {columns : List String} {row row' : Row},
    Alike columns (hydrated.map Prod.fst) row row' →
    ∀ c, c ∈ columns ∨ (∃ r ∈ hydrated.map Prod.fst, r.identifier = c) →
      Row.value? c (attach hydrated row) = Row.value? c (attach hydrated row')
  | [], _, _, _, h, c, hc => h.columns c (hc.resolve_right fun ⟨_, hr, _⟩ => List.not_mem_nil hr)
  | (r, related) :: rest, columns, row, row', h, c, hc => by
    refine Alike.attach rest (h.set related) c ?_
    rcases hc with hc | ⟨other, hother, hname⟩
    · exact .inl (List.mem_cons_of_mem _ hc)
    · rcases List.mem_cons.1 hother with rfl | hother
      · exact .inl (hname ▸ List.mem_cons_self)
      · exact .inr ⟨other, hother, hname⟩

/-- A row that is finished with some casts and with others. -/
theorem attachedAlike_finishRow {s : Schema} {casts' : Option Casts} {hydrated : List (Relation × Related)}
    {row out out' : Row} (h : finishRow s hydrated row = .ok out)
    (h' : finishRow { s with casts := casts' } hydrated row = .ok out') :
    AttachedAlike (hydrated.map Prod.fst) s.castList (casts'.getD []) row out out' := by
  rw [finishRow_eq] at h h'
  obtain ⟨c, hc, rfl⟩ := map_eq_ok.1 h
  obtain ⟨c', hc', rfl⟩ := map_eq_ok.1 h'
  refine ⟨c, c', hc, hc', fun hkeys r hr => ?_⟩
  have halike : Alike [] (hydrated.map Prod.fst) c c' := ⟨nofun, hkeys⟩
  rw [Row.value?_hide, Row.value?_hide, Alike.attach hydrated halike _ (.inr ⟨r, hr, rfl⟩)]

/-- Rows as they are read with some casts and with others, and as the store gave them. -/
structure ReadAlike (relations : List Relation) (casts casts' : Casts) (raw out out' : List Row) : Prop where
  length : out.length = raw.length
  length' : out'.length = raw.length
  rows : ∀ (k : Nat) (o o' : Row), out[k]? = some o → out'[k]? = some o' →
    ∃ row, raw[k]? = some row ∧ AttachedAlike relations casts casts' row o o'

theorem readAlike_mapM {s : Schema} {casts' : Option Casts} {hydrated : List (Relation × Related)} :
    ∀ {raw out out' : List Row}, List.Forall₂ (fun row o => finishRow s hydrated row = .ok o) raw out →
    List.Forall₂ (fun row o => finishRow { s with casts := casts' } hydrated row = .ok o) raw out' →
    ReadAlike (hydrated.map Prod.fst) s.castList (casts'.getD []) raw out out'
  | _, _, _, .nil, .nil => ⟨rfl, rfl, nofun⟩
  | row :: raw, o :: out, o' :: out', .cons h hrest, .cons h' hrest' => by
    have ih := readAlike_mapM hrest hrest'
    refine ⟨congrArg (· + 1) ih.length, congrArg (· + 1) ih.length', fun k p p' hp hp' => ?_⟩
    cases k with
    | zero =>
      cases hp
      cases hp'
      exact ⟨row, rfl, attachedAlike_finishRow h h'⟩
    | succ k => exact ih.rows k p p' hp hp'

/-! ### Readings -/

/-- Related rows come in the order of their relations. -/
theorem gives_hydrate (classes : Catalogue) (reader : Reader) (rows : List Row) (relations : List Relation) :
    (hydrate classes reader rows relations).Gives fun t =>
      ∀ hydrated, t.result = .ok hydrated → hydrated.map Prod.fst = relations := by
  rw [hydrate]
  split
  · rename_i hnone
    rintro _ ⟨⟩
    exact (List.isEmpty_iff.1 hnone).symm
  · refine Rounds.Gives.map (Rounds.Gives.imp ?_ (Rounds.gives_together fun r _ => gives_load classes reader rows r))
    intro readings hloaded hydrated hresult
    exact map_fst_of_loaded hloaded (mapM_eq_ok.1 (result_gather_eq_ok.1 hresult))

/-- Rows that are finished with some related rows. -/
theorem readAlike_of_result {s : Schema} {casts' : Option Casts} {raw out out' : List Row}
    {hydrated : List (Relation × Related)}
    (h : (raw.mapM (finishRow s hydrated)).map Answer.rows = .ok (.rows out))
    (h' : (raw.mapM (finishRow { s with casts := casts' } hydrated)).map Answer.rows = .ok (.rows out')) :
    ReadAlike (hydrated.map Prod.fst) s.castList (casts'.getD []) raw out out' := by
  obtain ⟨rows, hrows, h⟩ := map_eq_ok.1 h
  obtain ⟨rows', hrows', h'⟩ := map_eq_ok.1 h'
  cases h
  cases h'
  exact readAlike_mapM (mapM_eq_ok.1 hrows) (mapM_eq_ok.1 hrows')

/-- Parents' rows with some casts and with others: the same is asked for both. -/
theorem paired_finish (classes : Catalogue) (reader : Reader) (s : Schema) (casts' : Option Casts)
    (relations : List Relation) (raw : List Row) :
    (finish classes reader s relations raw).Paired
      (fun t t' => ∀ out out', t.result = .ok (.rows out) → t'.result = .ok (.rows out') →
        ReadAlike relations s.castList (casts'.getD []) raw out out')
      (finish classes reader { s with casts := casts' } relations raw) := by
  rw [finish, finish]
  split
  · rename_i hnone
    intro out out' h h'
    have halike := readAlike_of_result h h'
    rcases Bool.or_eq_true_iff.1 hnone with hraw | hrelations
    · refine ⟨halike.length, halike.length', fun k o o' ho _ => ?_⟩
      obtain ⟨row, hrow, -⟩ := halike.rows k o o' ho ‹_›
      rw [List.isEmpty_iff.1 hraw] at hrow
      cases hrow
    · rw [List.isEmpty_iff.1 hrelations]
      exact halike
  · refine Rounds.Gives.paired ((gives_hydrate classes reader raw relations).imp fun t hfst out out' h h' => ?_)
    obtain ⟨hydrated, hhydrated, h⟩ := bind_eq_ok.1 h
    obtain ⟨hydrated', hhydrated', h'⟩ := bind_eq_ok.1 h'
    cases hhydrated.symm.trans hhydrated'
    rw [← hfst hydrated hhydrated]
    exact readAlike_of_result h h'

/-- The rows that the store gives for the statement of an intent. -/
def Gave (sys : System) (table : String) (i : Intent) (raw : List Row) : Prop :=
  ∃ l answer, i.compile table = .ok l ∧ ((Client.execute l.sql l.bindings).perform sys).1 = .ok answer ∧
    rows? answer = some raw

/-- The same, of a whole reading. -/
theorem read_alike (classes : Catalogue) (fuel : Nat) (s : Schema) (casts' : Option Casts) (i : Intent)
    (sys : System) :
    ∃ t t' after, (read classes fuel s i).perform.perform sys = (.ok t, after) ∧
      (read classes fuel { s with casts := casts' } i).perform.perform sys = (.ok t', after) ∧
      ∀ out out', t.result = .ok (.rows out) → t'.result = .ok (.rows out') →
        ∃ raw, Gave sys s.tableName i raw ∧ ReadAlike i.relations s.castList (casts'.getD []) raw out out' := by
  cases fuel with
  | zero => exact ⟨_, _, sys, rfl, rfl, fun out out' h => by cases h⟩
  | succ fuel =>
    have htable : ({ s with casts := casts' } : Schema).tableName = s.tableName := rfl
    rw [read, read, htable]
    cases hl : i.compile s.tableName with
    | error e => exact ⟨_, _, sys, rfl, rfl, fun out out' h => by cases h⟩
    | ok l =>
      have hasked := Rounds.perform_askAll_singleton ⟨l.sql, l.bindings⟩ sys
      dsimp only
      rw [Rounds.perform_ask hasked, Rounds.perform_ask hasked]
      cases hanswer : ((Client.execute l.sql l.bindings).perform sys).1 with
      | error e => exact ⟨_, _, _, rfl, rfl, fun out out' h => by cases h⟩
      | ok answer =>
        dsimp only
        cases hraw : rows? answer with
        | none =>
          refine ⟨_, _, _, rfl, rfl, fun out out' h _ => ?_⟩
          -- an answer without rows is passed on as it is
          split at h
          · cases h
          · cases Except.ok.inj h
            cases hraw
        | some raw =>
          obtain ⟨t, t', after, ht, ht', halike⟩ :=
            (paired_finish classes (read classes fuel) s casts' i.relations raw).perform
              ((Client.execute l.sql l.bindings).perform sys).2
          exact ⟨t, t', after, ht, ht', fun out out' h h' =>
            ⟨raw, ⟨l, answer, hl, hanswer, hraw⟩, halike out out' h h'⟩⟩

/-- Columns without casts keep their keys. -/
theorem AttachedAlike.of_uncast {relations : List Relation} {casts casts' : Casts} {row out out' : Row}
    (h : AttachedAlike relations casts casts' row out out')
    (huncast : ∀ r ∈ relations, r.parentKey ∉ (casts ++ casts').map Prod.fst) :
    ∀ r ∈ relations, Row.value? r.identifier out = Row.value? r.identifier out' := by
  obtain ⟨c, c', hc, hc', hattached⟩ := h
  refine hattached fun r hr => ?_
  have hnone := huncast r hr
  rw [List.map_append, List.mem_append, not_or] at hnone
  rw [Row.value, Row.value, Casts.value?_apply hc hnone.1, Casts.value?_apply hc' hnone.2]

end Hydration

open Hydration

theorem Terminal.perform_runRead {env : Surroundings} {s : Schema} {i : Intent} {sys after : System}
    {t : Timed Answer}
    (h : (read env.classes maxDepth s { i with action := .known .select }).perform.perform sys = (.ok t, after)) :
    (Terminal.runRead env s i).perform sys = (t.result, after) := by
  rw [Terminal.runRead, Operation.perform_bind, h]
  rfl

/-- Two classes that differ in their casts only, and a store that is in the same state for both. Their reads send the
same. If both have rows, these come from the same rows of the store, and each two of them have the same under the
relations' names, if for every relation the casts of both classes leave null keys null and give the others the same
text; and so they have if no cast of either class is on such a key. -/
theorem attached_alike_of_sameKeys (env : Surroundings) (s : Schema) (casts' : Option Casts) (i : Intent)
    (sys : System) :
    let reading := (Terminal.runRead env s i).perform sys
    let reading' := (Terminal.runRead env { s with casts := casts' } i).perform sys
    reading.2 = reading'.2 ∧
      ∀ out out', reading.1 = .ok (.rows out) → reading'.1 = .ok (.rows out') →
        ∃ raw, Gave sys s.tableName { i with action := .known .select } raw ∧
          ReadAlike i.relations s.castList (casts'.getD []) raw out out' ∧
          ((∀ r ∈ i.relations, r.parentKey ∉ (s.castList ++ casts'.getD []).map Prod.fst) →
            ∀ (k : Nat) (o o' : Row), out[k]? = some o → out'[k]? = some o' →
              ∀ r ∈ i.relations, Row.value? r.identifier o = Row.value? r.identifier o') := by
  intro reading reading'
  obtain ⟨t, t', after, ht, ht', halike⟩ :=
    read_alike env.classes maxDepth s casts' { i with action := .known .select } sys
  have hreading : reading = (t.result, after) := Terminal.perform_runRead ht
  have hreading' : reading' = (t'.result, after) := Terminal.perform_runRead ht'
  rw [hreading, hreading']
  refine ⟨rfl, fun out out' h h' => ?_⟩
  obtain ⟨raw, hgave, hread⟩ := halike out out' h h'
  refine ⟨raw, hgave, hread, fun huncast k o o' ho ho' => ?_⟩
  obtain ⟨row, -, hattached⟩ := hread.rows k o o' ho ho'
  exact hattached.of_uncast huncast

/-- A plain adapter that is connected, and a store that gives these rows for one statement after another. -/
def answering (answers : List (List Row)) : System :=
  ⟨{ (default : Client) with connected := true }, ⟨.stub, true, none⟩,
    { Store.quiet with script := answers.map fun rows => ⟨.rows rows, 0.0⟩ }, 0⟩

/-- Users. -/
def userSchema : Schema := { Schema.root with name := "User", table := some "users" }

/-- A store that has user 1 with one post. -/
def storeOfUserOne : System := answering [[[("id", .int 1)]], [[("id", .int 10), ("user_id", .int 1)]]]

/-- User 1 as it is read with its posts. -/
def userOne (casts : Casts) : Except Failure Answer :=
  ((Terminal.runRead ⟨[postClass], default⟩ { userSchema with casts := some casts }
    { Intent.empty with relations := [postsOfUsers] }).perform storeOfUserOne).1

/-- The key that is a text after the cast has the text of the number that it was: the post stays. -/
theorem userOne_string_keeps_posts :
    ∃ o o', userOne [] = .ok (.rows [o]) ∧ userOne [("id", "string")] = .ok (.rows [o']) ∧
      Row.value? "posts" o = Row.value? "posts" o' := by
  obtain ⟨raw, ⟨l, answer, hl, hanswer, hraw⟩, halike, -⟩ :=
    (attached_alike_of_sameKeys ⟨[postClass], default⟩ { userSchema with casts := some [] } (some [("id", "string")])
      { Intent.empty with relations := [postsOfUsers] } storeOfUserOne).2 _ _ rfl rfl
  cases hl
  cases hanswer
  cases hraw
  refine ⟨_, _, rfl, rfl, ?_⟩
  obtain ⟨row, hrow, c, c', hc, hc', hattached⟩ := halike.rows 0 _ _ rfl rfl
  cases hrow
  cases hc
  cases hc'
  exact hattached (by decide) postsOfUsers (List.mem_singleton_self _)

/-- A cast that makes another text of the key takes the post away. -/
theorem userOne_float_loses_posts :
    ∃ o o', userOne [] = .ok (.rows [o]) ∧ userOne [("id", "float")] = .ok (.rows [o']) ∧
      Row.value? "posts" o = some (.list [.dict [(.text "id", .int 10), (.text "user_id", .int 1)]]) ∧
      Row.value? "posts" o' = some (.list []) :=
  ⟨_, _, rfl, rfl, rfl, rfl⟩

end RecordMapper
