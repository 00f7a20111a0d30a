import Mathlib.Data.List.Nodup
import RecordMapper.Proofs.WrittenRecords

/-!
Columns of upserts. One record is written twice in an upsert, as a new row and as what a row with the same key becomes.
Main statement: an upsert assigns the columns that it inserts, each once and in the same order, with the same values.
The columns that the library fills in are among them, so a row that is there gets a new identifier and a new time at
which it was created, whatever the caller asks for.
-/
namespace RecordMapper

/-- A statement that inserts a record, or assigns all of it to a row that is there. -/
structure Layout.Upserts (l : Layout) (table : String) (row : Row) : Prop where
  text : ∀ r : Value → String,
    l.render r = Written.insertion r table "INSERT INTO" row ++ " ON DUPLICATE KEY UPDATE " ++ Written.assignments r row
  -- nulls and truth values are inserted as bindings, but assigned as words
  bindings : l.bindings = row.map Prod.snd ++ (row.map Prod.snd).filter (!·.isLiteral)

theorem Layout.upserts_of_writesRecord {l : Layout} {table : String} {row : Row}
    (h : l.WritesRecord table .insertUpdate row) : l.Upserts table row := by
  constructor
  · intro r
    obtain ⟨more, htext, hnone⟩ := h.text r
    rw [htext, hnone (by decide), String.append_empty]
    rfl
  · obtain ⟨more, hbindings, hnone⟩ := h.bindings
    rw [hbindings, hnone (by decide), List.append_nil]
    rfl

/-! ### Columns behind others -/

theorem nodup_withColumn {columns : List String} (h : columns.Nodup) (column : String) :
    (withColumn columns column).Nodup := by
  rw [withColumn]
  split
  · exact h
  · rename_i hnew
    rw [← List.concat_eq_append]
    exact h.concat hnew

theorem nodup_foldl_withColumn (more : List String) {columns : List String} (h : columns.Nodup) :
    (more.foldl withColumn columns).Nodup := by
  induction more generalizing columns with
  | nil => exact h
  | cons c more ih => exact ih (nodup_withColumn h c)

namespace Schema.WritesAs

variable {s : Schema} {data row : Row} {env : Surroundings} {n : Nat}

/-- A record is written with each column once, if the caller's record has each once. -/
theorem nodup_columns {stamps : Row} (h : s.WritesAs data stamps row) (hdata : data.columns.Nodup) :
    row.columns.Nodup := by
  rw [h.columns]
  exact nodup_foldl_withColumn _ (hdata.filter _)

/-- An upsert writes the time as that of the creation, whatever the caller's record has. -/
theorem created_at (h : s.WritesAs data (s.stamps env n .insertUpdate) row) (htimestamps : s.timestamps = true) :
    Row.value? "created_at" row = some (Terminal.timestamp env) := by
  have hstamps : s.stamps env n .insertUpdate =
      ((s.uuidColumn.filter (!·.isEmpty)).toList.map fun c => (c, Value.text (Terminal.identifier n))) ++
        ["created_at", "updated_at"].map (·, Terminal.timestamp env) := by
    rw [Schema.stamps, htimestamps]
    rfl
  rw [h.stamps "created_at" (by rw [hstamps]; simp [Row.columns]), hstamps, List.reverse_append]
  rfl

/-- An upsert writes a fresh identifier, whatever the caller's record has. -/
theorem identifier (h : s.WritesAs data (s.stamps env n .insertUpdate) row) {column : String}
    (huuid : s.uuidColumn = some column) (hne : column ≠ "")
    (hcreated : column ≠ "created_at") (hupdated : column ≠ "updated_at") :
    Row.value? column row = some (.text (Terminal.identifier n)) := by
  have hgiven : s.uuidColumn.filter (!·.isEmpty) = some column := by
    rw [huuid]
    exact Option.filter_eq_some_iff.2 ⟨rfl, by simpa using hne⟩
  have hstamps : s.stamps env n .insertUpdate = (column, .text (Terminal.identifier n)) ::
      if s.timestamps then ["created_at", "updated_at"].map (·, Terminal.timestamp env) else [] := by
    rw [Schema.stamps, hgiven]
    rfl
  have htimes : Row.value? column
      (if s.timestamps then ["created_at", "updated_at"].map (·, Terminal.timestamp env) else []).reverse = none := by
    cases s.timestamps with
    | false => rfl
    | true => simp [Row.value?, hcreated.symm, hupdated.symm]
  rw [h.stamps column (by rw [hstamps]; exact List.mem_cons_self), hstamps, List.reverse_cons, Row.value?_append,
    htimes, Option.none_or]
  exact if_pos rfl

end Schema.WritesAs

/-- An upsert of a record of which something is left sends one statement, which inserts a row and assigns all of it to a
row that is there: the columns that may be set and those that the library fills in, each once. So a row that is there
gets a new identifier and a new time at which it was created, also where the record has its own. If a cast fails or
nothing is left, nothing is sent. -/
theorem upsert_assigns_inserted (s : Schema) (classes : Catalogue) (calls : List ChainCall) (data : Row)
    (env : Surroundings) (sys : System) :
    let finished := ((Model.called classes ⟨s, .empty⟩ calls).finish env (.insertOrUpdate data) (Session.fresh sys)).2
    match Terminal.payload s data with
    | .error e => finished = (.error e, Session.fresh sys)
    | .ok [] => finished = (.ok .nothing, Session.fresh sys)
    | .ok (_ :: _) => ∃ row l issued,
        s.WritesAs data (s.stamps env (sys.issued + 1) .insertUpdate) row ∧
          (data.columns.Nodup → row.columns.Nodup) ∧ Layout.Upserts l s.tableName row ∧
          (s.timestamps = true → Row.value? "created_at" row = some (Terminal.timestamp env)) ∧
          (∀ column, s.uuidColumn = some column → column ≠ "" → column ≠ "created_at" → column ≠ "updated_at" →
            Row.value? column row = some (.text (Terminal.identifier (sys.issued + 1)))) ∧
          finished.2 = ((Client.execute l.sql l.bindings).perform { Session.fresh sys with issued := issued }).2 ∧
          ∀ x ∈ finished.2.store.requests,
            x = openingRequest ∨ sys.adapter.kind.request l.sql l.bindings = .ok x := by
  intro finished
  let i := (Model.called classes ⟨s, .empty⟩ calls).intent
  have hperform : Terminal.perform env s i (.insertOrUpdate data) = Terminal.insertRow env s .insertUpdate data :=
    (Terminal.does_run env s i _).perform_eq
  have hfinished : finished = (Terminal.insertRow env s .insertUpdate data).perform (Session.fresh sys) := by
    rw [← hperform]
    exact Chain.finish_called ..
  cases hpayload : Terminal.payload s data with
  | error e =>
    dsimp only
    rw [hfinished, Terminal.insertRow, Operation.perform_bind, Operation.perform_ofResult, hpayload]
  | ok written =>
    cases written with
    | nil =>
      rw [hfinished, ← hperform]
      exact Terminal.perform_nothing rfl hpayload env i _
    | cons entry rest =>
      obtain ⟨row, l, issued, hrow, hwrites, hafter⟩ :=
        Terminal.insertRow_sends env (.inr (.inr rfl)) hpayload (List.cons_ne_nil _ _) (Session.fresh sys)
      rw [← hfinished] at hafter
      refine ⟨row, l, issued, hrow, hrow.nodup_columns, Layout.upserts_of_writesRecord hwrites, hrow.created_at,
        fun column => hrow.identifier, hafter, ?_⟩
      rw [hafter]
      exact Client.requests_execute rfl l

set_option maxRecDepth 2048 in
/-- A member's upsert for a new name also assigns the identifier and the time of creation, which nobody asked for. -/
theorem upsert_assigns_identifier :
    let env : Surroundings := ⟨.start, default⟩
    let identifier := Value.text (Terminal.identifier 1)
    let time := Terminal.timestamp env
    memberSchema.uuidColumn = some "uid" ∧ memberSchema.timestamps = true ∧
      ((Model.called .start ⟨memberSchema, .empty⟩ []).finish env (.insertOrUpdate [("name", .text "Ann")])
        (Session.fresh connectedPlain)).2.2.store.requests =
      [("INSERT INTO members (name, uid, created_at, updated_at) VALUES (?, ?, ?, ?) " ++
          "ON DUPLICATE KEY UPDATE name = ?, uid = ?, created_at = ?, updated_at = ?",
        some [.text "Ann", identifier, time, time, .text "Ann", identifier, time, time])] :=
  ⟨rfl, rfl, rfl⟩

end RecordMapper
