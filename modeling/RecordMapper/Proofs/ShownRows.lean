import RecordMapper.Proofs.Chains
import RecordMapper.Proofs.HiddenColumns

/-!
What the caller sees of rows. `Shown` says of a row that no column is left in it that its class hides, and that the
same holds of the related rows in it, of their related rows and so on; only what stands under a name that the class
hides is not seen. Main statement: a terminal that reads gives the caller one row for each row of the store's answer,
or for the first, in the store's order, and all of them are shown in this sense, however deep relations are nested.
-/
namespace RecordMapper

/-- The relations that the related rows come with: those that the relation's own calls declare. -/
def Relation.nested (classes : Catalogue) (r : Relation) (c : ModelClass) : List Relation :=
  (Chain.runCalls classes c.schema Chain.maxDepth .empty (r.callback.getD [])).1.relations

/-- A row without any column that its class hides. Under the name of each relation, unless the class hides it, stand
related rows that are without what their own class hides, and so on. -/
inductive Shown (classes : Catalogue) : Schema → List Relation → Row → Prop
  | intro {s : Schema} {relations : List Relation} {row : Row} (related : Relation → List Row)
      (hidden : ∀ c ∈ s.hidden, c ∉ row.columns)
      (attached : ∀ r ∈ relations, r.identifier ∉ s.hidden →
        Row.value? r.identifier row = some (Hydration.given r (related r)))
      (known : ∀ r ∈ relations, related r ≠ [] → (classes.byNumber? r.model).isSome = true)
      (below : ∀ r ∈ relations, ∀ c, classes.byNumber? r.model = some c → ∀ q ∈ related r,
        Shown classes c.schema (r.nested classes c) q) :
      Shown classes s relations row

/-- A row as it is shown, and as the store gave it: the columns that are neither hidden nor names of relations have what
the casts make of them. -/
structure ShownFrom (classes : Catalogue) (s : Schema) (relations : List Relation) (raw out : Row) : Prop where
  shown : Shown classes s relations out
  kept : ∃ cast, Casts.apply .fromStorage s.castList raw = .ok cast ∧ ∀ c, c ∉ s.hidden →
    c ∉ relations.map Relation.identifier → Row.value? c out = Row.value? c cast

/-- The rows that a result has; where there is no row there are none. -/
def Result.rows? : Result → Option (List Row)
  | nothing => some []
  | row r => some [r]
  | answer a => Hydration.rows? a
  | page p => Hydration.rows? p.data
  | number _ => none

namespace Terminal

/-- Terminals that give rows back. -/
def isReading : Terminal → Bool
  | get | first | find _ | paginate .. | rawQuery _ => true
  | _ => false

/-- Of the rows that the store gives, those that a terminal gives back. -/
def taken (t : Terminal) (raw : List Row) : List Row :=
  match t with
  | first | find _ => raw.take 1
  | _ => raw

/-- What a terminal asks for first, for the intent of a chain. -/
def asked (s : Schema) (i : Intent) : Terminal → Except Failure Intent
  | get => .ok (Hydration.withoutDeleted s i)
  | first => .ok (Hydration.withoutDeleted s { i with limit := .int 1 })
  | find key => .ok (Hydration.withoutDeleted s
      { i with conditions := [.compare s.primaryKey "=" key Junction.and.word], limit := .int 1 })
  | paginate page perPage => do
    let (page, perPage) ← pageOf s i page perPage
    return Hydration.withoutDeleted s { i with limit := perPage, offset := ← offsetOf page perPage }
  | rawQuery sql => .ok { i with rawQuery := some sql }
  | _ => .ok i

end Terminal

namespace Hydration

/-- Related rows that are shown as their class shows them. -/
def RowsShown (classes : Catalogue) (r : Relation) (found : List Row) : Prop :=
  ∀ q ∈ found, ∃ c, classes.byNumber? r.model = some c ∧ Shown classes c.schema (r.nested classes c) q

/-- A relation as it has been loaded: each parent is given those of some rows that match its key, and all of these are
shown as their class shows them. -/
def LoadedShown (classes : Catalogue) (p : Relation × Related) : Prop :=
  ∃ found, RowsShown classes p.1 found ∧
    ∀ row, valueFor p.1 p.2 row = given p.1 (matching p.1 found (Row.value row p.1.parentKey))

/-- A reader whose rows are shown. -/
def ReaderShows (classes : Catalogue) (reader : Reader) : Prop :=
  ∀ s i, (i.relations.map Relation.identifier).Nodup → (reader s i).Gives fun t =>
    ∀ a out, t.result = .ok a → rows? a = some out → ∀ q ∈ out, Shown classes s i.relations q

/-! ### Related rows -/

theorem mem_of_mem_matching {r : Relation} {found : List Row} {key : Value} {q : Row} (h : q ∈ matching r found key) :
    q ∈ found := by
  rw [matching] at h
  split at h
  · cases h
  · exact (List.mem_filter.1 h).1

theorem relations_withoutDeleted (s : Schema) (i : Intent) : (withoutDeleted s i).relations = i.relations := by
  rw [withoutDeleted]
  split <;> rfl

/-- What is asked of a class for related rows comes with the relations that the relation's own calls declare. -/
theorem relations_relatedIntent {classes : Catalogue} {r : Relation} {c : ModelClass} {keys : List Value} {i : Intent}
    (h : relatedIntent classes r keys c.schema = .ok i) :
    i.relations = r.nested classes c ∧ (i.relations.map Relation.identifier).Nodup := by
  obtain ⟨_, -, h⟩ := bind_eq_ok.1 h
  have hchained : (Chain.runCalls classes c.schema Chain.maxDepth .empty (r.callback.getD [])).1.IsChained :=
    Chain.lasting_isChained.runCalls Chain.maxDepth .empty _ Chain.isChained_empty
  have hnested : (Chain.runCalls classes c.schema Chain.maxDepth .empty (r.callback.getD [])).1.relations =
    r.nested classes c := rfl
  generalize Chain.runCalls classes c.schema Chain.maxDepth .empty (r.callback.getD []) = step at h hchained hnested
  obtain ⟨_, -, h⟩ := bind_eq_ok.1 h
  cases h
  exact ⟨hnested, hchained.names⟩

/-- Related rows without anything that their class hides are put in order. -/
theorem loadedShown_of_index {classes : Catalogue} {r : Relation} {found : List Row} {related : Related}
    (hfound : RowsShown classes r found) (h : index r found = .ok related) : LoadedShown classes (r, related) := by
  refine ⟨found, hfound, ?_⟩
  rcases index_spec r found with ⟨-, herror⟩ | ⟨-, other, hother, hvalue⟩
  · rw [h] at herror
    cases herror
  · cases hother.symm.trans h
    exact hvalue

theorem gives_load_shown {classes : Catalogue} {reader : Reader} (hreader : ReaderShows classes reader)
    (rows : List Row) (r : Relation) :
    (load classes reader rows r).Gives fun t => ∀ p, t.result = .ok p → p.1 = r ∧ LoadedShown classes p := by
  rw [load]
  split
  · rintro _ ⟨⟩
    have hnone : RowsShown classes r [] := fun _ hq => absurd hq List.not_mem_nil
    exact ⟨rfl, loadedShown_of_index hnone (index_nil r)⟩
  · cases hclass : classes.byNumber? r.model with
    | none =>
      rw [relatedModel, hclass]
      exact fun _ h => by cases h
    | some c =>
      rw [relatedModel_eq_map hclass]
      cases hi : relatedIntent classes r (uniqueKeys rows r.parentKey) c.schema with
      | error e => exact fun _ h => by cases h
      | ok i =>
        obtain ⟨hnested, hnames⟩ := relations_relatedIntent hi
        have hrelations := relations_withoutDeleted c.schema i
        refine Rounds.Gives.map ((hreader c.schema (withoutDeleted c.schema i) (hrelations ▸ hnames)).imp ?_)
        intro found hshown p hp
        obtain ⟨a, ha, hp⟩ := bind_eq_ok.1 hp
        cases hrows : rows? a with
        | none =>
          rw [hrows] at hp
          cases hp
        | some out =>
          rw [hrows] at hp
          obtain ⟨related, hrelated, hp⟩ := bind_eq_ok.1 hp
          cases hp
          refine ⟨rfl, loadedShown_of_index (fun q hq => ⟨c, hclass, ?_⟩) hrelated⟩
          rw [← hnested, ← hrelations]
          exact hshown a out ha hrows q hq

/-- Relations that have been loaded together. -/
theorem loadedShown_of_results {classes : Catalogue} : ∀ {relations : List Relation}
    {readings : List (Timed (Relation × Related))} {hydrated : List (Relation × Related)},
    List.Forall₂ (fun r t => ∀ p, Timed.result t = .ok p → p.1 = r ∧ LoadedShown classes p) relations readings →
    List.Forall₂ (fun t p => Timed.result t = .ok p) readings hydrated →
    hydrated.map Prod.fst = relations ∧ ∀ p ∈ hydrated, LoadedShown classes p
  | _, _, _, .nil, .nil => ⟨rfl, List.forall_mem_nil _⟩
  | _, _, _, .cons h hrest, .cons ht htail => by
    obtain ⟨hfst, hshown⟩ := h _ ht
    obtain ⟨hrelations, hall⟩ := loadedShown_of_results hrest htail
    exact ⟨congrArg₂ List.cons hfst hrelations, List.forall_mem_cons.2 ⟨hshown, hall⟩⟩

theorem gives_hydrate_shown {classes : Catalogue} {reader : Reader} (hreader : ReaderShows classes reader)
    (rows : List Row) (relations : List Relation) :
    (hydrate classes reader rows relations).Gives fun t => ∀ hydrated, t.result = .ok hydrated →
      hydrated.map Prod.fst = relations ∧ ∀ p ∈ hydrated, LoadedShown classes p := by
  rw [hydrate]
  split
  · rename_i hnone
    rintro _ ⟨⟩
    exact ⟨(List.isEmpty_iff.1 hnone).symm, List.forall_mem_nil _⟩
  · refine Rounds.Gives.map ((Rounds.gives_together fun r _ => gives_load_shown hreader rows r).imp ?_)
    intro readings hloaded hydrated hresult
    exact loadedShown_of_results hloaded (mapM_eq_ok.1 (result_gather_eq_ok.1 hresult))

/-! ### Rows with their related rows -/

section
variable {classes : Catalogue} {hydrated : List (Relation × Related)}
  (hnames : ((hydrated.map Prod.fst).map Relation.identifier).Nodup) (hloaded : ∀ p ∈ hydrated, LoadedShown classes p)
include hnames hloaded

/-- Under the name of a relation that is not hidden stand rows that are shown. -/
theorem exists_related (hidden : List String) (row : Row) {r : Relation} (hr : r ∈ hydrated.map Prod.fst) :
    ∃ related, RowsShown classes r related ∧ (r.identifier ∉ hidden →
      Row.value? r.identifier (Row.hide hidden (attach hydrated row)) = some (given r related)) := by
  obtain ⟨⟨_, related⟩, hp, rfl⟩ := List.mem_map.1 hr
  obtain ⟨found, hfound, hvalue⟩ := hloaded _ hp
  obtain ⟨before, after, rfl⟩ := List.append_of_mem hp
  dsimp only at hfound hvalue ⊢
  rename_i r
  have hafter : r.identifier ∉ after.map fun p => p.1.identifier := by
    rw [List.map_map, List.map_append, List.nodup_append, List.map_cons, List.nodup_cons] at hnames
    exact hnames.2.1.1
  refine ⟨matching r found (Row.value (attach before row) r.parentKey), fun q hq => hfound q (mem_of_mem_matching hq),
    fun hshown => ?_⟩
  rw [Row.value?_hide, if_neg hshown, value?_attach before after r related row hafter, hvalue]

/-- A row with its related rows, without the columns that its class hides. -/
theorem shown_attach (s : Schema) (row : Row) :
    Shown classes s (hydrated.map Prod.fst) (Row.hide s.hidden (attach hydrated row)) := by
  choose! related hshown hattached using fun r (hr : r ∈ hydrated.map Prod.fst) =>
    exists_related hnames hloaded s.hidden row hr
  refine .intro related (fun c hc => ?_) hattached (fun r hr hne => ?_) fun r hr c hclass q hq => ?_
  · rw [← Row.value?_isSome, Row.value?_hide, if_pos hc]
    exact Bool.false_ne_true
  · obtain ⟨q, hq⟩ := List.exists_mem_of_ne_nil _ hne
    obtain ⟨c, hclass, -⟩ := hshown r hr q hq
    rw [hclass]
    rfl
  · obtain ⟨c', hclass', hq⟩ := hshown r hr q hq
    cases hclass.symm.trans hclass'
    exact hq

/-- A row as it comes from the store, finished. -/
theorem shownFrom_finishRow {s : Schema} {raw out : Row} (h : finishRow s hydrated raw = .ok out) :
    ShownFrom classes s (hydrated.map Prod.fst) raw out := by
  rw [finishRow_eq] at h
  obtain ⟨cast, hcast, rfl⟩ := map_eq_ok.1 h
  refine ⟨shown_attach hnames hloaded s cast, cast, hcast, fun c hshown hc => ?_⟩
  rw [List.map_map] at hc
  rw [Row.value?_hide, if_neg hshown, value?_attach_of_notMem cast hc]

end

/-! ### Reads -/

/-- The rows of an answer with their relations: one for each, in their order. -/
theorem gives_finish_shown {classes : Catalogue} {reader : Reader} (hreader : ReaderShows classes reader) (s : Schema)
    {relations : List Relation} (hnames : (relations.map Relation.identifier).Nodup) (raw : List Row) :
    (finish classes reader s relations raw).Gives fun t => ∀ a, t.result = .ok a →
      ∃ out, a = .rows out ∧ List.Forall₂ (ShownFrom classes s relations) raw out := by
  rw [finish]
  split
  · rename_i hnone
    intro a ha
    obtain ⟨out, hout, rfl⟩ := map_eq_ok.1 ha
    refine ⟨out, rfl, ?_⟩
    rcases Bool.or_eq_true_iff.1 hnone with hraw | hrelations
    · rw [List.isEmpty_iff.1 hraw] at hout ⊢
      cases hout
      exact .nil
    · rw [List.isEmpty_iff.1 hrelations]
      exact (mapM_eq_ok.1 hout).imp fun raw out h =>
        @shownFrom_finishRow classes [] List.nodup_nil (List.forall_mem_nil _) s raw out h
  · refine Rounds.Gives.map ((gives_hydrate_shown hreader raw relations).imp ?_)
    intro t hloaded a ha
    obtain ⟨hydrated, hhydrated, ha⟩ := bind_eq_ok.1 ha
    obtain ⟨out, hout, ha⟩ := bind_eq_ok.1 ha
    cases ha
    obtain ⟨rfl, hshown⟩ := hloaded hydrated hhydrated
    exact ⟨out, rfl, (mapM_eq_ok.1 hout).imp fun _ _ h => shownFrom_finishRow hnames hshown h⟩

/-- However deep relations are nested, the rows of a read are shown. -/
theorem readerShows_read (classes : Catalogue) : ∀ fuel : Nat, ReaderShows classes (read classes fuel)
  | 0, _, _, _ => by
    intro a out ha
    cases ha
  | fuel + 1, s, i, hnames => by
    rw [read]
    cases i.compile s.tableName with
    | error e => exact fun _ _ h => by cases h
    | ok l =>
      intro answers
      rcases answers with _ | ⟨e | answer, _⟩
      · exact fun _ _ h => by cases h
      · exact fun _ _ h => by cases h
      · dsimp only
        cases hraw : rows? answer with
        | none =>
          intro a out ha hrows
          -- an answer without rows is passed on as it is
          split at ha
          · cases ha
          · cases ha
            rw [hraw] at hrows
            cases hrows
        | some raw =>
          refine (gives_finish_shown (readerShows_read classes fuel) s hnames raw).imp ?_
          rintro t hfinished a out ha hrows
          obtain ⟨_, rfl, hall⟩ := hfinished a ha
          cases hrows
          exact ((List.forall₂_and_left out raw).1 (hall.flip.imp fun _ _ h => ⟨h.shown, h⟩)).1

/-- What a read gives for the answer to its statement: the rows of the answer as they are shown, and an answer without
rows as it is. -/
def ReadShown (classes : Catalogue) (s : Schema) (relations : List Relation) (answer a : Answer) : Prop :=
  (∀ raw, rows? answer = some raw → ∃ out, a = .rows out ∧ List.Forall₂ (ShownFrom classes s relations) raw out) ∧
    (rows? answer = none → a = answer)

/-- The answer to the statement of an intent. -/
def Answered (sys : System) (table : String) (i : Intent) (answer : Answer) : Prop :=
  ∃ l, i.compile table = .ok l ∧ ((Client.execute l.sql l.bindings).perform sys).1 = .ok answer

theorem read_shown (classes : Catalogue) (fuel : Nat) (s : Schema) {i : Intent}
    (hnames : (i.relations.map Relation.identifier).Nodup) (sys : System) :
    ∃ t after, (read classes fuel s i).perform.perform sys = (.ok t, after) ∧ ∀ a, t.result = .ok a →
      ∃ answer, Answered sys s.tableName i answer ∧ ReadShown classes s i.relations answer a := by
  cases fuel with
  | zero => exact ⟨_, sys, rfl, fun _ h => by cases h⟩
  | succ fuel =>
    rw [read]
    cases hl : i.compile s.tableName with
    | error e => exact ⟨_, sys, rfl, fun _ h => by cases h⟩
    | ok l =>
      dsimp only
      rw [Rounds.perform_ask (Rounds.perform_askAll_singleton ⟨l.sql, l.bindings⟩ sys)]
      cases hanswer : ((Client.execute l.sql l.bindings).perform sys).1 with
      | error e => exact ⟨_, _, rfl, fun _ h => by cases h⟩
      | ok answer =>
        dsimp only
        cases hraw : rows? answer with
        | none =>
          refine ⟨_, _, rfl, fun a ha => ⟨answer, ⟨l, hl, hanswer⟩, ?_⟩⟩
          rw [ReadShown, hraw]
          constructor
          · rintro _ ⟨⟩
          · intro _
            dsimp only at ha
            split at ha
            · cases ha
            · exact (Except.ok.inj ha).symm
        | some raw =>
          have hfinish := gives_finish_shown (readerShows_read classes fuel) s hnames raw
          obtain ⟨t, _, after, ht, -, -, hfinished⟩ :=
            hfinish.refl.perform ((Client.execute l.sql l.bindings).perform sys).2
          refine ⟨t, after, ht, fun a ha => ⟨answer, ⟨l, hl, hanswer⟩, ?_⟩⟩
          rw [ReadShown, hraw]
          constructor
          · rintro _ ⟨⟩
            exact hfinished a ha
          · rintro ⟨⟩

end Hydration

namespace Terminal

open Hydration Operation

/-- The result of a terminal for the answer to its statement: the rows that it takes of the answer as they are shown,
and none if the answer has none. -/
def Shows (t : Terminal) (classes : Catalogue) (s : Schema) (relations : List Relation) (answer : Answer)
    (result : Result) : Prop :=
  (∀ raw, Hydration.rows? answer = some raw →
    ∃ out, result.rows? = some out ∧ List.Forall₂ (ShownFrom classes s relations) (t.taken raw) out) ∧
  (Hydration.rows? answer = none → result.rows?.getD [] = [])

variable {env : Surroundings} {s : Schema} {i : Intent} {sys : System} {a answer : Answer} {result : Result}

theorem runRead_shown (hnames : (i.relations.map Relation.identifier).Nodup)
    (h : ((runRead env s i).perform sys).1 = .ok a) :
    ∃ answer, Answered sys s.tableName { i with action := .known .select } answer ∧
      ReadShown env.classes s i.relations answer a := by
  obtain ⟨t, after, ht, hshown⟩ :=
    @read_shown env.classes maxDepth s { i with action := .known .select } hnames sys
  rw [perform_runRead ht] at h
  exact hshown a h

theorem rows_shown (hnames : (i.relations.map Relation.identifier).Nodup)
    (h : ((rows env s i).perform sys).1 = .ok a) :
    ∃ answer, Answered sys s.tableName { withoutDeleted s i with action := .known .select } answer ∧
      ReadShown env.classes s i.relations answer a := by
  rw [← relations_withoutDeleted s i] at hnames ⊢
  exact runRead_shown hnames h

/-- All rows of a read. -/
theorem shows_all {t : Terminal} (htaken : ∀ raw, t.taken raw = raw) (hrows : result.rows? = Hydration.rows? a)
    {relations : List Relation} (h : ReadShown env.classes s relations answer a) :
    t.Shows env.classes s relations answer result := by
  constructor
  · intro raw hraw
    obtain ⟨out, rfl, hall⟩ := h.1 raw hraw
    exact ⟨out, hrows, (htaken raw).symm ▸ hall⟩
  · intro hnone
    rw [hrows, h.2 hnone, hnone]
    rfl

/-- The first row of a read. -/
theorem shows_first {t : Terminal} (htaken : ∀ raw, t.taken raw = raw.take 1) {row : Option Row}
    (hrow : firstOf a = .ok row) {relations : List Relation} (h : ReadShown env.classes s relations answer a) :
    t.Shows env.classes s relations answer (ofRow row) := by
  constructor
  · intro raw hraw
    obtain ⟨out, rfl, hall⟩ := h.1 raw hraw
    cases hrow
    refine ⟨out.take 1, ?_, htaken raw ▸ List.forall₂_take 1 hall⟩
    cases out <;> rfl
  · intro hnone
    have hsame := h.2 hnone
    subst hsame
    cases a with
    | rows out => cases hnone
    | value v =>
      rw [firstOf] at hrow
      split at hrow
      · cases hrow
      · cases hrow
        rfl
    | summary _ => cases hrow

/-- A terminal that reads gives the rows that it takes of the answer to what it asks. -/
theorem shows_perform (hnames : (i.relations.map Relation.identifier).Nodup) {t : Terminal} (ht : t.isReading = true)
    (h : ((t.perform env s i).perform sys).1 = .ok result) :
    ∃ j answer, t.asked s i = .ok j ∧ Answered sys s.tableName { j with action := .known .select } answer ∧
      t.Shows env.classes s i.relations answer result := by
  have hfirst {j : Intent} (hrelations : j.relations = i.relations) (t : Terminal)
      (htaken : ∀ raw, t.taken raw = raw.take 1)
      (h : ((do return ofRow (← firstRow env s j) : Operation Result).perform sys).1 = .ok result) :
      ∃ answer, Answered sys s.tableName
          { withoutDeleted s { j with limit := .int 1 } with action := .known .select } answer ∧
        t.Shows env.classes s i.relations answer result := by
    obtain ⟨row, hrow, h⟩ := perform_bind_eq_ok.1 h
    obtain ⟨a, ha, hrow⟩ := perform_bind_eq_ok.1 hrow
    cases h
    rw [← hrelations] at hnames ⊢
    obtain ⟨answer, hanswered, hshown⟩ := rows_shown (i := { j with limit := .int 1 }) hnames ha
    exact ⟨answer, hanswered, shows_first htaken hrow hshown⟩
  rw [(t.does_run env s i).perform_eq] at h
  cases t with
  | get =>
    obtain ⟨a, ha, h⟩ := perform_bind_eq_ok.1 h
    cases h
    obtain ⟨answer, hanswered, hshown⟩ := rows_shown hnames ha
    exact ⟨_, answer, rfl, hanswered, shows_all (fun _ => rfl) rfl hshown⟩
  | first =>
    obtain ⟨answer, hanswered, hshows⟩ := hfirst rfl .first (fun _ => rfl) h
    exact ⟨_, answer, rfl, hanswered, hshows⟩
  | find key =>
    obtain ⟨answer, hanswered, hshows⟩ :=
      hfirst (j := { i with conditions := [.compare s.primaryKey "=" key Junction.and.word] }) rfl (.find key)
        (fun _ => rfl) h
    exact ⟨_, answer, rfl, hanswered, hshows⟩
  | paginate page perPage =>
    obtain ⟨p, hp, h⟩ := perform_bind_eq_ok.1 h
    cases h
    obtain ⟨⟨number, length⟩, hpage, hp⟩ := perform_bind_eq_ok.1 hp
    obtain ⟨offset, hoffset, hp⟩ := perform_bind_eq_ok.1 hp
    obtain ⟨data, hdata, hp⟩ := perform_bind_eq_ok.1 hp
    -- what is counted behind the rows is only a number
    obtain ⟨total, -, hp⟩ := perform_bind_eq_ok.1 hp
    obtain ⟨pages, -, hp⟩ := perform_bind_eq_ok.1 hp
    obtain ⟨next, -, hp⟩ := perform_bind_eq_ok.1 hp
    obtain ⟨previous, -, hp⟩ := perform_bind_eq_ok.1 hp
    cases hp
    obtain ⟨answer, hanswered, hshown⟩ :=
      rows_shown (i := { i with limit := length, offset := offset }) hnames hdata
    refine ⟨_, answer, ?_, hanswered, shows_all (fun _ => rfl) rfl hshown⟩
    exact bind_eq_ok.2 ⟨(number, length), hpage, bind_eq_ok.2 ⟨offset, hoffset, rfl⟩⟩
  | rawQuery sql =>
    obtain ⟨a, ha, h⟩ := perform_bind_eq_ok.1 h
    cases h
    obtain ⟨answer, hanswered, hshown⟩ := runRead_shown (i := { i with rawQuery := some sql }) hnames ha
    exact ⟨_, answer, rfl, hanswered, shows_all (fun _ => rfl) rfl hshown⟩
  | _ => cases ht

end Terminal

open Hydration

/-- The end of any chain by a terminal that reads. If it has a result, the store has answered what the terminal asks
for the chain. Where the answer has rows, the result has one row for each of them, or for the first, in their order,
each of them shown: no column is left that its class hides, and at every depth none that a related class hides. Where
the answer has no rows, the result has none. -/
theorem rows_shown_at_every_depth (s : Schema) (classes : Catalogue) (calls : List ChainCall) {t : Terminal}
    (ht : t.isReading = true) (env : Surroundings) (sys : System) {result : Result}
    (hresult : ((Model.called classes ⟨s, .empty⟩ calls).finish env t (Session.fresh sys)).2.1 = .ok result) :
    let i := (Model.called classes ⟨s, .empty⟩ calls).intent
    ∃ j answer, t.asked s i = .ok j ∧
      Answered (Session.fresh sys) s.tableName { j with action := .known .select } answer ∧
      (∀ raw, rows? answer = some raw →
        ∃ out, result.rows? = some out ∧ List.Forall₂ (ShownFrom env.classes s i.relations) (t.taken raw) out) ∧
      (rows? answer = none → result.rows?.getD [] = []) := by
  intro i
  rw [Chain.finish_called] at hresult
  exact Terminal.shows_perform (Chain.isChained_called classes s calls).names ht hresult

/-- Posts that hide a column, and comments that hide another. -/
def discreetClasses : Catalogue :=
  [{ postClass with schema := { postClass.schema with hidden := ["draft"] } },
   ⟨2, { name := "Comment" }, [2, 0], { Schema.root with name := "Comment", table := some "comments", hidden := ["ip"] }⟩]

/-- Users that hide a column. -/
def discreetUsers : Schema := { userSchema with hidden := ["password"] }

/-- With their posts and the comments on these. -/
def commentedPosts : List ChainCall :=
  [.relate .hasMany "Post" "user_id" "id" (some "posts")
    (some [.relate .hasMany "Comment" "post_id" "id" (some "comments") none])]

/-- A store that gives a user, a post and a comment with all their columns. -/
def indiscreetStore : System :=
  answering [[[("id", .int 1), ("password", .text "secret")]],
    [[("id", .int 10), ("user_id", .int 1), ("draft", .text "secret")]],
    [[("id", .int 100), ("post_id", .int 10), ("ip", .text "secret")]]]

theorem discreetUsers_shown :
    let m := Model.called discreetClasses ⟨discreetUsers, .empty⟩ commentedPosts
    ∃ a raw o, (m.finish ⟨discreetClasses, default⟩ .get (Session.fresh indiscreetStore)).2.1 = .ok (.answer a) ∧
      rows? a = some [o] ∧ ShownFrom discreetClasses discreetUsers m.intent.relations raw o ∧
      Row.value? "posts" o = some (.list [.dict [(.text "id", .int 10), (.text "user_id", .int 1),
        (.text "comments", .list [.dict [(.text "id", .int 100), (.text "post_id", .int 10)]])]]) := by
  obtain ⟨j, answer, hj, ⟨l, hl, hanswer⟩, hrows, -⟩ :=
    rows_shown_at_every_depth discreetUsers discreetClasses commentedPosts (t := .get) rfl ⟨discreetClasses, default⟩
      indiscreetStore rfl
  cases hj
  cases hl
  cases hanswer
  obtain ⟨out, hout, hall⟩ := hrows _ rfl
  cases hout
  cases hall with
  | cons h _ => exact ⟨_, _, _, rfl, rfl, h, rfl⟩

end RecordMapper
