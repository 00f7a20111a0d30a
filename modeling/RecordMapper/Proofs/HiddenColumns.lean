import RecordMapper.Proofs.ParentCasts

/-!
Related rows and the columns that their class hides. Related rows are read as any other rows, and so they have lost the
columns that their class hides before they are put in order by their keys. Main statement: two related classes that
differ in their hidden columns only are asked the same, and where both reads succeed each parent has the same related
rows, less what the class of each hides. Both succeed or neither does if both hide the relation's key or neither; but
with a class that hides the key a read succeeds only where there are no related rows.
-/
namespace RecordMapper

namespace Chain

/-! ### Chains do not look at hidden columns -/

theorem declare_hidden (s : Schema) (hidden : List String) (run : Intent → List ChainCall → Step) :
    ∀ (names : List String) (i : Intent), declare { s with hidden := hidden } run i names = declare s run i names
  | [], _ => rfl
  | name :: rest, i => by
    rw [declare, declare]
    dsimp only
    cases s.relations.lookup name with
    | none => rfl
    | some calls =>
      dsimp only
      rcases run i calls with ⟨j, _ | _⟩
      · rfl
      · exact declare_hidden s hidden run rest j

theorem call_hidden (classes : Catalogue) (s : Schema) (hidden : List String)
    (run : Intent → List ChainCall → Step) (i : Intent) (c : ChainCall) :
    call classes { s with hidden := hidden } run i c = call classes s run i c := by
  cases c with
  | withRelations fields =>
    rw [call, call]
    cases names fields with
    | error e => rfl
    | ok given => exact declare_hidden s hidden run given i
  | _ => rfl

theorem callAll_hidden (classes : Catalogue) (s : Schema) (hidden : List String)
    (run : Intent → List ChainCall → Step) : ∀ (calls : List ChainCall) (i : Intent),
    callAll classes { s with hidden := hidden } run i calls = callAll classes s run i calls
  | [], _ => rfl
  | c :: rest, i => by
    rw [callAll, callAll, call_hidden]
    rcases call classes s run i c with ⟨j, _ | _⟩
    · rfl
    · exact callAll_hidden classes s hidden run rest j

theorem runCalls_hidden (classes : Catalogue) (s : Schema) (hidden : List String) : ∀ fuel : Nat,
    runCalls classes { s with hidden := hidden } fuel = runCalls classes s fuel
  | 0 => rfl
  | fuel + 1 => by
    funext i calls
    rw [runCalls, runCalls, runCalls_hidden classes s hidden fuel, callAll_hidden]

end Chain

namespace Hydration

/-- What a parent gets of related rows: all of them, or the last one. -/
def given (r : Relation) (rows : List Row) : Value :=
  if r.isMany then rowsValue rows else (rows.getLast?.map Row.toValue).getD .null

/-- The results of reading the same rows for two classes, each without the columns that its class hides. -/
inductive ReadHiding (hidden hidden' : List String) : Except Failure Answer → Except Failure Answer → Prop
  | failed (e : Failure) : ReadHiding hidden hidden' (.error e) (.error e)
  | passed {a : Answer} (hother : rows? a = none) : ReadHiding hidden hidden' (.ok a) (.ok a)
  | rows (found : List Row) : ReadHiding hidden hidden' (.ok (.rows (found.map (Row.hide hidden))))
      (.ok (.rows (found.map (Row.hide hidden'))))

/-- The results of loading a relation to either of two classes: the same failure, or the same rows put in order by
their keys, each without the columns that its class hides. -/
inductive LoadHiding (r r' : Relation) (hidden hidden' : List String) :
    Except Failure (Relation × Related) → Except Failure (Relation × Related) → Prop
  | failed (e : Failure) : LoadHiding r r' hidden hidden' (.error e) (.error e)
  | found (rows : List Row) : LoadHiding r r' hidden hidden'
      ((index r (rows.map (Row.hide hidden))).map fun related => (r, related))
      ((index r' (rows.map (Row.hide hidden'))).map fun related => (r', related))

/-- A reading succeeds where another one does, unless it fails in one way for which there is an excuse. -/
def SucceedsUnless {α β : Type} (e : Failure) (excuse : Prop) (x : Except Failure α) (x' : Except Failure β) : Prop :=
  (∃ a', x' = .ok a') → (∃ a, x = .ok a) ∨ x = .error e ∧ excuse

/-- Two rows of one parent that have the same but for one column. -/
def AgreeBut (column : String) (row row' : Row) : Prop :=
  ∀ c, c ≠ column → Row.value? c row = Row.value? c row'

/-- The relation's name has the same related rows under it in both rows, each without the columns that its class hides;
it has nothing under it if the parents' class hides it. The other columns are the same, if no relation behind this one
goes by its name. -/
structure RelatedHiding (r : Relation) (after : List Relation) (shown hidden hidden' : List String) (out out' : Row) :
    Prop where
  related : ∃ rows : List Row, (r.relatedKey ∈ hidden ∨ r.relatedKey ∈ hidden' → rows = []) ∧
    Row.value? r.identifier out =
        (if r.identifier ∈ shown then none else some (given r (rows.map (Row.hide hidden)))) ∧
      Row.value? r.identifier out' =
        if r.identifier ∈ shown then none else some (given r (rows.map (Row.hide hidden')))
  others : (∀ other ∈ after, other.parentKey ≠ r.identifier) → AgreeBut r.identifier out out'

/-! ### Related rows of two classes -/

/-- What is asked of a class for the related rows of a relation, before deleted rows are left out. -/
def relatedIntent (classes : Catalogue) (r : Relation) (keys : List Value) (s : Schema) : Except Failure Intent := do
  let _ ← Model.new s
  let (i, outcome) := Chain.runCalls classes s Chain.maxDepth .empty (r.callback.getD [])
  outcome
  let (i, outcome) := Chain.runCalls classes s Chain.maxDepth i [.whereIn false r.relatedKey (.list keys)]
  outcome
  return i

theorem new_eq_ok {s : Schema} {m : Model} (h : Model.new s = .ok m) : m = ⟨s, .empty⟩ := by
  rw [Model.new] at h
  split at h
  · exact (Except.ok.inj h).symm
  · cases h

theorem relatedModel_eq_map {classes : Catalogue} {r : Relation} {c : ModelClass}
    (hclass : classes.byNumber? r.model = some c) (keys : List Value) :
    relatedModel classes r keys = (relatedIntent classes r keys c.schema).map fun i => ⟨c.schema, i⟩ := by
  simp only [relatedModel, hclass, Option.elim, relatedIntent, bind, Except.bind]
  cases hnew : Model.new c.schema with
  | error e => rfl
  | ok m =>
    rw [new_eq_ok hnew]
    simp only [Model.chain]
    rcases Chain.runCalls classes c.schema Chain.maxDepth .empty (r.callback.getD []) with ⟨i, _ | _⟩
    · rfl
    · dsimp only
      rcases Chain.runCalls classes c.schema Chain.maxDepth i [.whereIn false r.relatedKey (.list keys)] with
        ⟨j, _ | _⟩ <;> rfl

/-- The same is asked of a class that hides other columns. -/
theorem relatedIntent_hidden (classes : Catalogue) (r : Relation) (keys : List Value) (s : Schema)
    (hidden : List String) : relatedIntent classes r keys { s with hidden := hidden } = relatedIntent classes r keys s := by
  have htable : ({ s with hidden := hidden } : Schema).tableName? = s.tableName? := rfl
  rw [relatedIntent, relatedIntent, Chain.runCalls_hidden, Model.new, Model.new, htable]
  cases s.tableName? <;> rfl

/-- Rows of two classes that differ in their hidden columns, finished with the same related rows. -/
theorem mapM_finishRow_hidden (s : Schema) (hidden : List String) (hydrated : List (Relation × Related))
    (rows : List Row) : ReadHiding s.hidden hidden ((rows.mapM (finishRow s hydrated)).map .rows)
      ((rows.mapM (finishRow { s with hidden := hidden } hydrated)).map .rows) := by
  have hcasts : ({ s with hidden := hidden } : Schema).castList = s.castList := rfl
  rw [mapM_finishRow, mapM_finishRow, hcasts]
  cases rows.mapM (Casts.apply .fromStorage s.castList) with
  | error e => exact .failed e
  | ok cast =>
    have hfound : ReadHiding s.hidden hidden _ _ := .rows (cast.map (attach hydrated))
    rwa [List.map_map, List.map_map] at hfound

/-- The same is asked for the related rows of both, and they are finished alike. -/
theorem paired_finish_hidden (classes : Catalogue) (reader : Reader) (s : Schema) (hidden : List String)
    (relations : List Relation) (rows : List Row) :
    (finish classes reader s relations rows).Paired (fun t t' => ReadHiding s.hidden hidden t.result t'.result)
      (finish classes reader { s with hidden := hidden } relations rows) := by
  rw [finish, finish]
  split
  · exact mapM_finishRow_hidden s hidden [] rows
  · refine Rounds.Gives.paired (Rounds.gives_of_forall (fun t => ?_) _)
    dsimp only
    cases t.result with
    | error e => exact .failed e
    | ok hydrated =>
      change ReadHiding _ _ (do return Answer.rows (← rows.mapM (finishRow s hydrated)))
        (do return Answer.rows (← rows.mapM (finishRow { s with hidden := hidden } hydrated)))
      rw [bind_rows_eq_map, bind_rows_eq_map]
      exact mapM_finishRow_hidden s hidden hydrated rows

/-- Two classes that differ in their hidden columns are read with the same questions. -/
theorem paired_read_hidden (classes : Catalogue) (fuel : Nat) (s : Schema) (hidden : List String) (i : Intent) :
    (read classes fuel s i).Paired (fun t t' => ReadHiding s.hidden hidden t.result t'.result)
      (read classes fuel { s with hidden := hidden } i) := by
  have hcompile : i.compile ({ s with hidden := hidden } : Schema).tableName = i.compile s.tableName := rfl
  exact paired_read hcompile ReadHiding.failed (fun _ => ReadHiding.passed)
    (fun fuel => paired_finish_hidden classes (read classes fuel) s hidden i.relations) fuel

theorem bind_pair_eq_map (r : Relation) (related : Except Failure Related) :
    (do return (r, ← related)) = related.map fun related => (r, related) := by
  cases related <;> rfl

theorem index_nil (r : Relation) : index r [] = .ok (noRows r) := by
  simp only [index, keyed, noRows]
  cases r.isMany <;> rfl

/-- The related rows of one relation to two classes that differ in their hidden columns. -/
theorem paired_load_hidden {classes : Catalogue} {r : Relation} {number' : Nat} {c c' : ModelClass}
    (hclass : classes.byNumber? r.model = some c) (hclass' : classes.byNumber? number' = some c')
    (hhidden : c'.schema = { c.schema with hidden := c'.schema.hidden }) (fuel : Nat) (rows : List Row) :
    (load classes (read classes fuel) rows r).Paired
      (fun t t' => LoadHiding r { r with model := number' } c.schema.hidden c'.schema.hidden t.result t'.result)
      (load classes (read classes fuel) rows { r with model := number' }) := by
  have hparent : ({ r with model := number' } : Relation).parentKey = r.parentKey := rfl
  rw [load, load, hparent]
  split
  · -- nobody has a key, and nothing is asked
    have hnone : LoadHiding r { r with model := number' } c.schema.hidden c'.schema.hidden _ _ := .found []
    rwa [List.map_nil, List.map_nil, index_nil, index_nil] at hnone
  · rw [relatedModel_eq_map hclass, relatedModel_eq_map (r := { r with model := number' }) hclass']
    have hasked : relatedIntent classes { r with model := number' } (uniqueKeys rows r.parentKey) c'.schema =
        relatedIntent classes r (uniqueKeys rows r.parentKey) c.schema := by
      rw [hhidden]
      exact relatedIntent_hidden classes r _ c.schema c'.schema.hidden
    rw [hasked]
    cases relatedIntent classes r (uniqueKeys rows r.parentKey) c.schema with
    | error e => exact .failed e
    | ok i =>
      have hdeleted : withoutDeleted c'.schema i = withoutDeleted c.schema i := by
        rw [hhidden]
        rfl
      have hread := paired_read_hidden classes fuel c.schema c'.schema.hidden (withoutDeleted c.schema i)
      rw [← hhidden] at hread
      simp only [Except.map, hdeleted]
      refine Rounds.Paired.map (hread.imp ?_)
      rintro ⟨height, result⟩ ⟨height', result'⟩ h
      cases h with
      | failed e => exact .failed e
      | passed hother =>
        simp only [bind, Except.bind, hother]
        exact .failed notRows
      | rows found =>
        have hfound : LoadHiding r { r with model := number' } c.schema.hidden c'.schema.hidden _ _ := .found found
        rwa [← bind_pair_eq_map, ← bind_pair_eq_map] at hfound

/-! ### What a parent gets -/

/-- A row without the hidden columns has a key if it had one and the key is shown. -/
theorem isNull_value_hide (column : String) (hidden : List String) (row : Row) :
    (Row.value (Row.hide hidden row) column).isNull = false ↔
      column ∉ hidden ∧ (Row.value row column).isNull = false := by
  rw [Row.value_hide]
  by_cases hmem : column ∈ hidden
  · simp [hmem, Value.isNull]
  · simp [hmem]

/-- Rows without the columns that their class hides are put in order if each of them has a key and the class shows it;
otherwise they are refused. -/
theorem index_hide_cases (r : Relation) (hidden : List String) (found : List Row) :
    ((∃ row ∈ found, r.relatedKey ∈ hidden ∨ (Row.value row r.relatedKey).isNull = true) ∧
        index r (found.map (Row.hide hidden)) = .error (missingKey r)) ∨
      ((∀ row ∈ found, r.relatedKey ∉ hidden ∧ (Row.value row r.relatedKey).isNull = false) ∧
        ∃ related, index r (found.map (Row.hide hidden)) = .ok related ∧
          ∀ row, valueFor r related row =
            given r ((matching r found (Row.value row r.parentKey)).map (Row.hide hidden))) := by
  rcases index_spec r (found.map (Row.hide hidden)) with ⟨⟨other, hother, hnull⟩, herror⟩ | ⟨hall, related, hok, hvalue⟩
  · obtain ⟨row, hrow, rfl⟩ := List.mem_map.1 hother
    refine .inl ⟨⟨row, hrow, ?_⟩, herror⟩
    by_contra hshown
    rw [not_or, Bool.not_eq_true] at hshown
    rw [(isNull_value_hide _ _ _).2 hshown] at hnull
    cases hnull
  · have hshown : ∀ row ∈ found, r.relatedKey ∉ hidden ∧ (Row.value row r.relatedKey).isNull = false := fun row hrow =>
      (isNull_value_hide _ _ _).1 (hall _ (List.mem_map_of_mem hrow))
    refine .inr ⟨hshown, related, hok, fun row => ?_⟩
    have hmatching : matching r (found.map (Row.hide hidden)) (Row.value row r.parentKey) =
        (matching r found (Row.value row r.parentKey)).map (Row.hide hidden) := by
      rw [matching, matching]
      by_cases hnull : (Row.value row r.parentKey).isNull = true
      · rw [if_pos hnull, if_pos hnull, List.map_nil]
      · rw [if_neg hnull, if_neg hnull, List.filter_map]
        refine congrArg _ (List.filter_congr fun other hother => ?_)
        rw [Function.comp, Row.value_hide, if_neg (hshown other hother).1]
    rw [hvalue, belonging, hmatching, given]

/-- A relation that can be loaded to one of the classes can be loaded to the other, unless this one alone hides its
key. -/
theorem LoadHiding.succeedsUnless {r : Relation} {number' : Nat} {hidden hidden' : List String}
    {x x' : Except Failure (Relation × Related)} (h : LoadHiding r { r with model := number' } hidden hidden' x x') :
    SucceedsUnless (missingKey r) (r.relatedKey ∈ hidden ∧ r.relatedKey ∉ hidden') x x' := by
  rintro ⟨p', hok⟩
  cases h with
  | failed e => cases hok
  | found rows =>
    obtain ⟨related', hrelated', -⟩ := map_eq_ok.1 hok
    rcases index_hide_cases { r with model := number' } hidden' rows with ⟨-, herror'⟩ | ⟨hshown', -⟩
    · rw [herror'] at hrelated'
      cases hrelated'
    · rcases index_hide_cases r hidden rows with ⟨⟨row, hrow, hmissing⟩, herror⟩ | ⟨-, related, hrelated, -⟩
      · obtain ⟨hkey', hnull'⟩ := hshown' row hrow
        refine .inr ⟨by rw [herror]; rfl, hmissing.resolve_right fun hnull => ?_, hkey'⟩
        exact Bool.false_ne_true (hnull'.symm.trans hnull)
      · exact .inl ⟨_, map_eq_ok.2 ⟨related, hrelated, rfl⟩⟩

theorem LoadHiding.symm {r r' : Relation} {hidden hidden' : List String} {x x' : Except Failure (Relation × Related)}
    (h : LoadHiding r r' hidden hidden' x x') : LoadHiding r' r hidden' hidden x' x := by
  cases h with
  | failed e => exact .failed e
  | found rows => exact .found rows

/-- A relation as it has been loaded to either of two classes: each parent is given the same rows, less what the class
of each hides, and nobody is given any if one of the classes hides the relation's key. -/
def GivesHiding (r : Relation) (hidden hidden' : List String) (p p' : Relation × Related) : Prop :=
  ∃ found : List Row, (r.relatedKey ∈ hidden ∨ r.relatedKey ∈ hidden' → found = []) ∧
    ∀ row, valueFor p.1 p.2 row = given r ((matching r found (Row.value row r.parentKey)).map (Row.hide hidden)) ∧
      valueFor p'.1 p'.2 row = given r ((matching r found (Row.value row r.parentKey)).map (Row.hide hidden'))

theorem LoadHiding.givesHiding {r : Relation} {number' : Nat} {hidden hidden' : List String}
    {x x' : Except Failure (Relation × Related)} {p p' : Relation × Related}
    (h : LoadHiding r { r with model := number' } hidden hidden' x x') (hp : x = .ok p) (hp' : x' = .ok p') :
    p.1.identifier = r.identifier ∧ p'.1.identifier = r.identifier ∧ GivesHiding r hidden hidden' p p' := by
  cases h with
  | failed e => cases hp
  | found rows =>
    obtain ⟨related, hrelated, rfl⟩ := map_eq_ok.1 hp
    obtain ⟨related', hrelated', rfl⟩ := map_eq_ok.1 hp'
    rcases index_hide_cases r hidden rows with ⟨-, herror⟩ | ⟨hshown, other, hother, hvalue⟩
    · rw [herror] at hrelated
      cases hrelated
    rcases index_hide_cases { r with model := number' } hidden' rows with
      ⟨-, herror'⟩ | ⟨hshown', other', hother', hvalue'⟩
    · rw [herror'] at hrelated'
      cases hrelated'
    cases hother.symm.trans hrelated
    cases hother'.symm.trans hrelated'
    refine ⟨rfl, rfl, rows, fun hkey => List.eq_nil_iff_forall_not_mem.2 fun row hrow => ?_, fun row =>
      ⟨hvalue row, hvalue' row⟩⟩
    exact hkey.elim (hshown row hrow).1 (hshown' row hrow).1

/-! ### All relations of a read -/

theorem firstFailure_of_one_failed {α : Type} {t : Timed α} {e : Failure} (ht : t.result = .error e)
    {as : List (Timed α)} (has : ∀ a ∈ as, ∃ x, a.result = .ok x) : ∀ {bs : List (Timed α)},
    (∀ b ∈ bs, ∃ x, b.result = .ok x) → firstFailure (bs ++ t :: as) = some (t.height, e)
  | [], _ => by
    rw [List.nil_append, firstFailure, ht, firstFailure_eq_none.2 has]
  | b :: bs, hbs => by
    obtain ⟨⟨x, hx⟩, hrest⟩ := List.forall_mem_cons.1 hbs
    rw [List.cons_append, firstFailure, hx, firstFailure_of_one_failed ht has hrest]

/-- One of several readings that are done together is replaced. -/
theorem SucceedsUnless.gather {α : Type} {e : Failure} {excuse : Prop} {t t' : Timed α} (bs as : List (Timed α))
    (h : SucceedsUnless e excuse t.result t'.result) :
    SucceedsUnless e excuse (gather (bs ++ t :: as)).result (gather (bs ++ t' :: as)).result := by
  rintro ⟨results', hresults'⟩
  obtain ⟨before, x', after, hbefore, hx', hafter, -⟩ := mapM_append_cons_eq_ok.1 (result_gather_eq_ok.1 hresults')
  rcases h ⟨x', hx'⟩ with ⟨x, hx⟩ | ⟨herror, hexcuse⟩
  · exact .inl ⟨_, result_gather_eq_ok.2 (mapM_append_cons_eq_ok.2 ⟨before, x, after, hbefore, hx, hafter, rfl⟩)⟩
  · refine .inr ⟨?_, hexcuse⟩
    rw [Hydration.gather, firstFailure_of_one_failed herror (exists_mapM_eq_ok.1 ⟨after, hafter⟩)
      (exists_mapM_eq_ok.1 ⟨before, hbefore⟩)]

theorem AgreeBut.attach {column : String} : ∀ {hydrated : List (Relation × Related)} {row row' : Row},
    (∀ p ∈ hydrated, p.1.parentKey ≠ column) → AgreeBut column row row' →
    AgreeBut column (attach hydrated row) (attach hydrated row')
  | [], _, _, _, h => h
  | (r, related) :: rest, row, row', hkeys, h => by
    obtain ⟨hkey, hrest⟩ := List.forall_mem_cons.1 hkeys
    have hsame : Row.value row r.parentKey = Row.value row' r.parentKey := by
      rw [Row.value, Row.value, h r.parentKey hkey]
    have hvalue : valueFor r related row = valueFor r related row' := valueFor_congr r related (congrArg keyOf hsame)
    have hset : AgreeBut column (Row.set r.identifier (valueFor r related row) row)
        (Row.set r.identifier (valueFor r related row') row') := fun c hc => by
      rw [Row.value?_set, Row.value?_set, hvalue, h c hc]
    have hattach := AgreeBut.attach hrest hset
    exact hattach

/-- A parent's row with one of its relations loaded to either of two classes. -/
theorem GivesHiding.relatedHiding {r : Relation} {hidden hidden' : List String} {p p' : Relation × Related}
    (h : GivesHiding r hidden hidden' p p') (hp : p.1.identifier = r.identifier) (hp' : p'.1.identifier = r.identifier)
    (bs as : List (Relation × Related)) (hname : r.identifier ∉ (as.map Prod.fst).map Relation.identifier)
    (shown : List String) (row : Row) :
    RelatedHiding r (as.map Prod.fst) shown hidden hidden' (Row.hide shown (attach (bs ++ p :: as) row))
      (Row.hide shown (attach (bs ++ p' :: as) row)) := by
  obtain ⟨q, related⟩ := p
  obtain ⟨q', related'⟩ := p'
  obtain ⟨found, hnone, hgiven⟩ := h
  rw [List.map_map] at hname
  have hvalue := value?_attach bs as q related row (hp ▸ hname)
  have hvalue' := value?_attach bs as q' related' row (hp' ▸ hname)
  rw [hp, (hgiven _).1] at hvalue
  rw [hp', (hgiven _).2] at hvalue'
  constructor
  · refine ⟨matching r found (Row.value (attach bs row) r.parentKey), fun hkey => ?_, ?_, ?_⟩
    · rw [hnone hkey, matching]
      split <;> rfl
    · rw [Row.value?_hide, hvalue]
    · rw [Row.value?_hide, hvalue']
  · intro hkeys c hc
    have hset : AgreeBut r.identifier (Row.set q.identifier (valueFor q related (attach bs row)) (attach bs row))
        (Row.set q'.identifier (valueFor q' related' (attach bs row)) (attach bs row)) := fun c hc => by
      rw [Row.value?_set, Row.value?_set, hp, hp', if_neg (Ne.symm hc), if_neg (Ne.symm hc)]
    have hattach := hset.attach fun b (hb : b ∈ as) => hkeys b.1 (List.mem_map_of_mem hb)
    rw [Row.value?_hide, Row.value?_hide, attach_append, attach_append]
    split
    · rfl
    · exact hattach c hc

/-- The results of reading parents whose relations differ in the class of one of them: the classes of this one hide
different columns. -/
structure ReadsHiding (r : Relation) (after : List Relation) (shown hidden hidden' : List String)
    (x x' : Except Failure Answer) : Prop where
  succeeds : SucceedsUnless (missingKey r) (r.relatedKey ∈ hidden ∧ r.relatedKey ∉ hidden') x x'
  succeeds' : SucceedsUnless (missingKey r) (r.relatedKey ∈ hidden' ∧ r.relatedKey ∉ hidden) x' x
  rows : ∀ out out', x = .ok (.rows out) → x' = .ok (.rows out') →
    List.Forall₂ (RelatedHiding r after shown hidden hidden') out out'

/-- A result that has no rows in it. -/
theorem ReadsHiding.same (r : Relation) (after : List Relation) (shown hidden hidden' : List String)
    {x : Except Failure Answer} (hx : ∀ out, x = .ok (.rows out) → out = []) :
    ReadsHiding r after shown hidden hidden' x x where
  succeeds := .inl
  succeeds' := .inl
  rows := fun out out' h h' => by
    rw [hx out h, hx out' h']
    exact .nil

/-- A result that is worked on further, if this succeeds whatever the result is. -/
theorem SucceedsUnless.finished {s : Schema} {rows : List Row} {e : Failure} {excuse : Prop}
    {x x' : Except Failure (List (Relation × Related))} (h : SucceedsUnless e excuse x x') :
    SucceedsUnless e excuse (do
        let hydrated ← x
        return Answer.rows (← rows.mapM (finishRow s hydrated))) (do
        let hydrated ← x'
        return Answer.rows (← rows.mapM (finishRow s hydrated))) := by
  rintro ⟨a', ha'⟩
  obtain ⟨hydrated', cast, hhydrated', hcast, -⟩ := finished_eq_ok.1 ha'
  rcases h ⟨hydrated', hhydrated'⟩ with ⟨hydrated, hhydrated⟩ | ⟨rfl, hexcuse⟩
  · exact .inl ⟨_, finished_eq_ok.2 ⟨hydrated, cast, hhydrated, hcast, rfl⟩⟩
  · exact .inr ⟨rfl, hexcuse⟩

/-- Relations that have been loaded together, one of them to either of two classes. -/
theorem LoadHiding.readsHiding {r : Relation} {number' : Nat} {hidden hidden' : List String}
    {t t' : Timed (Relation × Related)} (h : LoadHiding r { r with model := number' } hidden hidden' t.result t'.result)
    (bs : List (Timed (Relation × Related))) {as : List (Timed (Relation × Related))} {after : List Relation}
    (has : List.Forall₂ (fun q a => ∀ p, Timed.result a = .ok p → p.1 = q) after as)
    (hname : r.identifier ∉ after.map Relation.identifier) (s : Schema) (rows : List Row) :
    ReadsHiding r after s.hidden hidden hidden'
      (do
        let hydrated ← (gather (bs ++ t :: as)).result
        return Answer.rows (← rows.mapM (finishRow s hydrated)))
      (do
        let hydrated ← (gather (bs ++ t' :: as)).result
        return Answer.rows (← rows.mapM (finishRow s hydrated))) where
  succeeds := (h.succeedsUnless.gather bs as).finished
  succeeds' := (h.symm.succeedsUnless.gather bs as).finished
  rows := by
    intro out out' hout hout'
    obtain ⟨hydrated, cast, hhydrated, hcast, ha⟩ := finished_eq_ok.1 hout
    obtain ⟨hydrated', cast', hhydrated', hcast', ha'⟩ := finished_eq_ok.1 hout'
    obtain ⟨before, p, later, hbefore, hp, hlater, rfl⟩ := mapM_append_cons_eq_ok.1 (result_gather_eq_ok.1 hhydrated)
    obtain ⟨before', p', later', hbefore', hp', hlater', rfl⟩ :=
      mapM_append_cons_eq_ok.1 (result_gather_eq_ok.1 hhydrated')
    cases hcast.symm.trans hcast'
    cases hbefore.symm.trans hbefore'
    cases hlater.symm.trans hlater'
    cases ha
    cases ha'
    obtain ⟨hidentifier, hidentifier', hgives⟩ := h.givesHiding hp hp'
    have hfst : later.map Prod.fst = after := map_fst_of_loaded has (mapM_eq_ok.1 hlater)
    subst hfst
    rw [List.forall₂_map_left_iff, List.forall₂_map_right_iff]
    exact List.forall₂_same.2 fun row _ => hgives.relatedHiding hidentifier hidentifier' before later hname s.hidden row

section Read

variable {classes : Catalogue} {r : Relation} {number' : Nat} {c c' : ModelClass}

/-- Parents' rows with relations of which one is to either of two classes. -/
theorem paired_finish_related (hclass : classes.byNumber? r.model = some c)
    (hclass' : classes.byNumber? number' = some c') (hhidden : c'.schema = { c.schema with hidden := c'.schema.hidden })
    (before : List Relation) {after : List Relation} (hname : r.identifier ∉ after.map Relation.identifier)
    (fuel : Nat) (s : Schema) (rows : List Row) :
    (finish classes (read classes fuel) s (before ++ r :: after) rows).Paired
      (fun t t' => ReadsHiding r after s.hidden c.schema.hidden c'.schema.hidden t.result t'.result)
      (finish classes (read classes fuel) s (before ++ { r with model := number' } :: after) rows) := by
  have hsome (q : Relation) : (before ++ q :: after).isEmpty = false := by simp
  rw [finish, finish, hsome, hsome, Bool.or_false]
  split
  · rename_i hrows
    rw [List.isEmpty_iff.1 hrows]
    exact ReadsHiding.same r after _ _ _ fun out hout => by cases hout; rfl
  · rw [hydrate, hydrate, hsome, hsome, if_neg Bool.false_ne_true, if_neg Bool.false_ne_true, List.map_append,
      List.map_append, List.map_cons, List.map_cons]
    have hload := paired_load_hidden hclass hclass' hhidden fuel rows
    have hall := hload.together_replace (gives_load classes (read classes fuel) rows) after before
    refine Rounds.Paired.map (Rounds.Paired.map (hall.imp ?_))
    rintro _ _ ⟨bs, t, t', as, rfl, rfl, h, -, has⟩
    exact h.readsHiding bs has hname s rows

/-- A read with relations of which one is to either of two classes. -/
theorem paired_read_related (hclass : classes.byNumber? r.model = some c)
    (hclass' : classes.byNumber? number' = some c') (hhidden : c'.schema = { c.schema with hidden := c'.schema.hidden })
    (before : List Relation) {after : List Relation} (hname : r.identifier ∉ after.map Relation.identifier)
    (fuel : Nat) (s : Schema) (i : Intent) :
    (read classes fuel s { i with relations := before ++ r :: after }).Paired
      (fun t t' => ReadsHiding r after s.hidden c.schema.hidden c'.schema.hidden t.result t'.result)
      (read classes fuel s { i with relations := before ++ { r with model := number' } :: after }) := by
  have hcompile : ({ i with relations := before ++ { r with model := number' } :: after } : Intent).compile s.tableName =
      ({ i with relations := before ++ r :: after } : Intent).compile s.tableName := rfl
  have hsame {x : Except Failure Answer} (hx : ∀ out, x ≠ .ok (.rows out)) :
      ReadsHiding r after s.hidden c.schema.hidden c'.schema.hidden x x :=
    ReadsHiding.same r after _ _ _ fun out hout => (hx out hout).elim
  refine paired_read hcompile (fun e => hsame nofun) (fun a ha => hsame fun out hout => ?_)
    (fun fuel => paired_finish_related hclass hclass' hhidden before hname fuel s) fuel
  cases hout
  cases ha

end Read

end Hydration

open Hydration

/-- Two classes that differ in their hidden columns only, and a relation to the one or to the other, among any other
relations of a read. Both reads send the same. Where one succeeds, the other does too, unless its class alone hides the
relation's key: then it may be refused because related rows have no key. Where both have rows, each two of them have the
same related rows under the relation's name, less what the class of each hides, and none at all if a class hides the
key. -/
theorem related_alike_of_hidden (env : Surroundings) (s : Schema) (i : Intent) (before after : List Relation)
    (r : Relation) (number' : Nat) {c c' : ModelClass} (hclass : env.classes.byNumber? r.model = some c)
    (hclass' : env.classes.byNumber? number' = some c') (hhidden : c'.schema = { c.schema with hidden := c'.schema.hidden })
    (hname : r.identifier ∉ after.map Relation.identifier) (sys : System) :
    let reading := (Terminal.runRead env s { i with relations := before ++ r :: after }).perform sys
    let reading' :=
      (Terminal.runRead env s { i with relations := before ++ { r with model := number' } :: after }).perform sys
    reading.2 = reading'.2 ∧
      ReadsHiding r after s.hidden c.schema.hidden c'.schema.hidden reading.1 reading'.1 := by
  intro reading reading'
  obtain ⟨t, t', later, ht, ht', hreads⟩ := (paired_read_related hclass hclass' hhidden before hname maxDepth s
    { i with action := .known .select }).perform sys
  have hreading : reading = (t.result, later) := Terminal.perform_runRead ht
  have hreading' : reading' = (t'.result, later) := Terminal.perform_runRead ht'
  rw [hreading, hreading']
  exact ⟨rfl, hreads⟩

/-- A class of posts that hides columns. -/
def guardedPostClass (hidden : List String) : ModelClass := { postClass with
  number := 2
  schema := { postClass.schema with hidden := hidden } }

/-- User 1 as it is read with its posts, which are of the class with this number: the plain one, or the one that hides
columns. -/
def userOneWith (hidden : List String) (number : Nat) : Except Failure Answer :=
  ((Terminal.runRead ⟨[postClass, guardedPostClass hidden], default⟩ userSchema
    { Intent.empty with relations := [{ postsOfUsers with model := number }] }).perform storeOfUserOne).1

/-- The post comes without its number. -/
theorem userOne_posts_without_id :
    ∃ o o', userOneWith ["id"] 1 = .ok (.rows [o]) ∧ userOneWith ["id"] 2 = .ok (.rows [o']) ∧
      RelatedHiding postsOfUsers [] [] [] ["id"] o o' ∧
      Row.value? "posts" o' = some (.list [.dict [(.text "user_id", .int 1)]]) := by
  obtain ⟨-, hreads⟩ := related_alike_of_hidden ⟨[postClass, guardedPostClass ["id"]], default⟩ userSchema
    Intent.empty [] [] postsOfUsers 2 rfl rfl rfl (by decide) storeOfUserOne
  cases hreads.rows _ _ rfl rfl with
  | cons h _ => exact ⟨_, _, rfl, rfl, h, rfl⟩

/-- A post whose class hides the column that it is found by is refused as if it did not have it. -/
theorem userOne_hidden_key_fails :
    (∃ o, userOneWith ["user_id"] 1 = .ok (.rows [o]) ∧
        Row.value? "posts" o = some (.list [.dict [(.text "id", .int 10), (.text "user_id", .int 1)]])) ∧
      ∃ e, userOneWith ["user_id"] 2 = .error e ∧ e.IsIntegrity :=
  ⟨⟨_, rfl, rfl⟩, missingKey postsOfUsers, rfl, _, rfl, rfl⟩

end RecordMapper
