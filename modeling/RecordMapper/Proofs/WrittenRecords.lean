import RecordMapper.Proofs.Chains
import RecordMapper.Proofs.ParentCasts
import RecordMapper.Proofs.Written

/-!
Records as they are written. Of a record the columns that its class lets a caller set are left, each with the value
that its cast makes of it for the store; behind them come the columns that the library fills in itself, unless they are
there. Main statement: a terminal that writes a record sends one statement for exactly these columns in this order,
however often it tries, and no statement if no column is left.
-/
namespace RecordMapper

/-- What a column has in the store: nulls stay nulls, and any other value is converted by the column's casts. -/
def Casts.stored : Casts → String → Value → Except Failure Value
  | [], _, v => .ok v
  | (c, tag) :: rest, column, v =>
    if c = column ∧ v.isNull = false then
      match Cast.ofName? tag with
      | none => .error (.ofFault (.usage "<casts>" (unknown tag column) []))
      | some cast => do stored rest column (← cast.convert .toStorage column v)
    else stored rest column v

/-- A column behind others, unless it is among them. -/
def withColumn (columns : List String) (column : String) : List String :=
  if column ∈ columns then columns else columns ++ [column]

namespace Schema

/-- The columns of a record that a caller may set: those that are allowed, if any are, and not guarded. -/
def settable (s : Schema) (data : Row) : List String :=
  data.columns.filter fun c => (s.fillable = [] ∨ c ∈ s.fillable) ∧ (s.guarded = [] ∨ c ∉ s.guarded)

/-- The columns that the library fills in itself: the `n`-th identifier where rows are inserted, and the time. -/
def stamps (s : Schema) (env : Surroundings) (n : Nat) (a : Action) : Row :=
  let identifier := (s.uuidColumn.filter (!·.isEmpty)).toList.map fun c => (c, Value.text (Terminal.identifier n))
  let times :=
    if a = .update then ["updated_at"] else if a = .insert then ["created_at"] else ["created_at", "updated_at"]
  (if a = .update then [] else identifier) ++ if s.timestamps then times.map (·, Terminal.timestamp env) else []

/-- A record as it is written for a caller's record, with the columns that the library fills in. -/
structure WritesAs (s : Schema) (data stamps row : Row) : Prop where
  columns : row.columns = stamps.columns.foldl withColumn (s.settable data)
  settable : ∀ c ∈ s.settable data, c ∉ stamps.columns →
    s.castList.stored c (Row.value data c) = .ok (Row.value row c)
  -- of two values for one column the later counts
  stamps : ∀ c ∈ stamps.columns, Row.value? c row = Row.value? c stamps.reverse

end Schema

/-- A null or a truth value, which an assignment writes into the text. -/
def Value.isLiteral : Value → Bool
  | .null | .bool _ => true
  | _ => false

/-- The values of a record that become bindings: all that are inserted, and of those assigned the ones that are not
written into the text. -/
def Row.bound (a : Action) (row : Row) : List Value :=
  let values := row.map Prod.snd
  let assigned := values.filter (!·.isLiteral)
  match a with
  | .insert | .insertIgnore => values
  | .insertUpdate => values ++ assigned
  | .update => assigned
  | .select | .delete => []

/-- A statement that writes a record into a table. There is nothing else in an insert; an update goes on with its
conditions. -/
structure Layout.WritesRecord (l : Layout) (table : String) (a : Action) (row : Row) : Prop where
  text : ∀ r : Value → String, ∃ more,
    l.render r = Written.head r table a { data := some row } ++ more ∧ (a ≠ .update → more = "")
  bindings : ∃ more, l.bindings = row.bound a ++ more ∧ (a ≠ .update → more = [])

/-- The action and the record of a terminal that writes one. -/
def Terminal.record? : Terminal → Option (Action × Row)
  | insert data => some (.insert, data)
  | insertIgnore data => some (.insertIgnore, data)
  | insertOrUpdate data => some (.insertUpdate, data)
  | update data => some (.update, data)
  | _ => none

/-- A record has been sent: there was one statement for it, tried as often as it may be. -/
def SendsRecord (s : Schema) (env : Surroundings) (a : Action) (data : Row) (sys after : System) : Prop :=
  ∃ row l issued, s.WritesAs data (s.stamps env (sys.issued + 1) a) row ∧ Layout.WritesRecord l s.tableName a row ∧
    after = ((Client.execute l.sql l.bindings).perform { sys with issued := issued }).2

/-- The failure of a chain whose conditions or whose range have no statement. -/
def Uncompiled (s : Schema) (i : Intent) (e : Failure) : Prop :=
  Compile.conditions s.tableName (Hydration.withoutDeleted s i).conditions = .error e ∨ Compile.range i = .error e

/-! ### Columns of a record -/

theorem Row.columns_set (column : String) (v : Value) (row : Row) :
    Row.columns (Row.set column v row) = withColumn (Row.columns row) column := by
  induction row with
  | nil => rfl
  | cons entry rest ih =>
    obtain ⟨c, w⟩ := entry
    by_cases hc : c = column
    · simp [Row.set, Row.columns, withColumn, hc]
    · by_cases hmem : column ∈ Row.columns rest
      all_goals
        rw [withColumn] at ih
        simp_all [Row.set, Row.columns, withColumn, Ne.symm hc]

theorem Row.columns_override : ∀ later row : Row,
    Row.columns (Row.override row later) = (Row.columns later).foldl withColumn (Row.columns row)
  | [], _ => rfl
  | (c, v) :: rest, row => by
    have hrest := Row.columns_override rest (Row.set c v row)
    rw [Row.columns_set] at hrest
    exact hrest

theorem Row.override_ne_nil : ∀ (later : Row) {row : Row}, row ≠ [] → Row.override row later ≠ []
  | [], _, h => h
  | (c, v) :: rest, row, _ => by
    refine Row.override_ne_nil rest ?_
    rcases row with _ | ⟨⟨column, w⟩, more⟩ <;> simp only [Row.set]
    · exact List.cons_ne_nil _ _
    · split <;> exact List.cons_ne_nil _ _

theorem Row.value?_append (column : String) : ∀ row more : Row,
    Row.value? column (row ++ more) = (Row.value? column row).or (Row.value? column more)
  | [], _ => rfl
  | (c, v) :: rest, more => by
    by_cases hc : c = column
    · simp [Row.value?, hc]
    · simpa [Row.value?, hc] using Row.value?_append column rest more

theorem Row.value?_override (column : String) : ∀ later row : Row,
    Row.value? column (Row.override row later) = (Row.value? column later.reverse).or (Row.value? column row)
  | [], _ => rfl
  | (c, v) :: rest, row => by
    have hrest := Row.value?_override column rest (Row.set c v row)
    rw [List.reverse_cons, Row.value?_append, Option.or_assoc]
    refine hrest.trans (congrArg _ ?_)
    by_cases hc : c = column <;> simp [Row.value?, hc]

theorem Row.has_of_value {row : Row} {column : String} (h : (Row.value row column).isNull = false) :
    Row.has row column = true := by
  rw [Row.has]
  rw [Row.value] at h
  cases hv : Row.value? column row with
  | none => rw [hv] at h; cases h
  | some v => rfl

theorem Schema.columns_restrict_guard (s : Schema) (data : Row) :
    (s.guard.restrict data).columns = s.settable data := by
  rw [Guard.columns_restrict, Schema.settable]
  refine List.filter_congr fun c _ => ?_
  rw [Bool.eq_iff_iff]
  simp [Guard.admits, Schema.guard]

/-- A column that may be set keeps its value. -/
theorem Guard.value?_restrict {g : Guard} {column : String} (h : g.admits column = true) (data : Row) :
    Row.value? column (g.restrict data) = Row.value? column data := by
  induction data with
  | nil => rfl
  | cons entry rest ih =>
    obtain ⟨c, v⟩ := entry
    rw [Guard.restrict] at ih
    by_cases hc : c = column
    · subst hc
      simp [Guard.restrict, h, Row.value?]
    · by_cases hadmits : g.admits c = true
      · simpa [Guard.restrict, hadmits, Row.value?, hc] using ih
      · simpa [Guard.restrict, hadmits, Row.value?, hc] using ih

/-! ### Bindings of a record -/

theorem Layout.bindings_separated (separator : String) : ∀ parts : List Layout,
    bindings (separated separator parts) = parts.flatMap bindings
  | [] => rfl
  | [p] => (List.append_nil p.bindings).symm
  | p :: q :: rest => by
    have hrest := bindings_separated separator (q :: rest)
    rw [separated, bindings_append, bindings_append, hrest]
    · exact congrArg (· ++ _) (List.append_nil _)
    · exact List.cons_ne_nil q rest

namespace Compile

open Layout

theorem bindings_assignments (data : Row) :
    (assignments data).bindings = (data.map Prod.snd).filter (!·.isLiteral) := by
  rw [assignments, bindings_separated]
  induction data with
  | nil => rfl
  | cons entry rest ih =>
    obtain ⟨c, v⟩ := entry
    rw [List.map_cons, List.flatMap_cons, ih]
    cases v <;> rfl

theorem bindings_insertion (verb table : String) (data : Row) :
    (insertion verb table data).bindings = data.map Prod.snd := by
  have hvalues : (data.flatMap fun e => bindings [.slot e.2]) = data.map Prod.snd := List.map_eq_flatMap.symm
  rw [insertion, bindings_append, bindings_append, bindings_separated, List.flatMap_map]
  exact (List.append_nil _).trans hvalues

/-- The beginning of a statement binds the values of its record, and nothing else. -/
theorem bindings_head {table : String} {a : Action} {i : Intent} {row : Row} {l : Layout} (hdata : i.data = some row)
    (h : head table a i = .ok l) : l.bindings = row.bound a := by
  cases a with
  | select =>
    rw [← Except.ok.inj h]
    rfl
  | insert | insertIgnore =>
    obtain ⟨data, hrequired, h⟩ := bind_eq_ok.1 h
    cases hdata.symm.trans (requireData_eq_ok.1 hrequired).1
    rw [← Except.ok.inj h]
    exact bindings_insertion _ table row
  | insertUpdate =>
    obtain ⟨data, hrequired, h⟩ := bind_eq_ok.1 h
    cases hdata.symm.trans (requireData_eq_ok.1 hrequired).1
    rw [← Except.ok.inj h, bindings_append, bindings_append, bindings_insertion, bindings_assignments]
    exact congrArg (· ++ _) (List.append_nil _)
  | update =>
    obtain ⟨data, hrequired, h⟩ := bind_eq_ok.1 h
    cases hdata.symm.trans (requireData_eq_ok.1 hrequired).1
    rw [← Except.ok.inj h, bindings_append, bindings_assignments]
    rfl
  | delete =>
    rw [head] at h
    split at h
    · cases h
    · rw [← Except.ok.inj h]
      rfl

/-- The statement of an intent that writes a record, with nothing else in it unless it is an update. -/
theorem writesRecord {table : String} {a : Action} {i : Intent} {row : Row} {l : Layout} (ha : i.action = .known a)
    (hdata : i.data = some row)
    (halone : a ≠ .update → i = { Intent.empty with action := .known a, data := some row })
    (h : statement table a i = .ok l) : l.WritesRecord table a row := by
  obtain ⟨start, filtered, tail, hstart, hfiltered, htail, hl⟩ := statement_eq_ok.1 h
  refine ⟨fun r => ⟨String.join (i.joins.map (joinText table)) ++ Written.conditions r table i.conditions ++
    grouping i ++ ordering table i ++ Written.range r i, ?_, fun hother => ?_⟩,
    filtered.bindings ++ tail.bindings, ?_, fun hother => ?_⟩
  · have hhead : Written.head r table a i = Written.head r table a { data := some row } := by
      by_cases hupdate : a = .update
      · rw [hupdate, Written.head, Written.head, hdata]
      · rw [halone hupdate]
        cases a <;> rfl
    rw [render_statement r ha h, Intent.written, ha]
    simp only [hhead, String.append_assoc]
  · rw [halone hother]
    rfl
  · rw [hl, bindings_append, bindings_append, bindings_append, bindings_append, bindings_head hdata hstart]
    simp [words, bindings]
  · rw [halone hother] at hfiltered htail
    cases hfiltered
    cases htail
    rfl

/-- The statement of an update with a record fails where its conditions or its range do. -/
theorem error_of_update {table : String} {i : Intent} {row : Row} {e : Failure} (hdata : i.data = some row)
    (hne : row ≠ []) (h : statement table .update i = .error e) :
    conditions table i.conditions = .error e ∨ range i = .error e := by
  rw [statement, head, requireData_eq_ok.2 ⟨hdata, hne⟩] at h
  cases hconditions : conditions table i.conditions with
  | error failure =>
    rw [hconditions] at h
    cases h
    exact .inl rfl
  | ok filtered =>
    cases hrange : range i with
    | error failure =>
      rw [hconditions, hrange] at h
      cases h
      exact .inr rfl
    | ok tail =>
      rw [hconditions, hrange] at h
      cases h

end Compile

namespace Casts

/-- A cast converts the value that a column has and leaves all else. -/
theorem columns_applyOne {direction : Direction} {row result : Row} {column tag : String}
    (h : applyOne direction row column tag = .ok result) : result.columns = row.columns := by
  rw [applyOne] at h
  split at h
  · cases h
    rfl
  · rename_i hnull
    split at h
    · cases h
    · obtain ⟨v, -, rfl⟩ := map_eq_ok.1 h
      exact Row.columns_set_of_has column v row (Row.has_of_value (by simpa using hnull))

theorem columns_apply {direction : Direction} : ∀ {casts : Casts} {row result : Row},
    apply direction casts row = .ok result → result.columns = row.columns
  | [], _, _, h => by
    cases h
    rfl
  | (c, tag) :: rest, row, result, h => by
    obtain ⟨next, hnext, h⟩ := bind_eq_ok.1 h
    rw [columns_apply h, columns_applyOne hnext]

/-- A cast record has what its columns have in the store. -/
theorem stored_apply {column : String} : ∀ {casts : Casts} {row result : Row},
    apply .toStorage casts row = .ok result → casts.stored column (Row.value row column) = .ok (Row.value result column)
  | [], _, _, h => by
    cases h
    rfl
  | (c, tag) :: rest, row, result, h => by
    obtain ⟨next, hnext, h⟩ := bind_eq_ok.1 h
    have hrest : stored rest column (Row.value next column) = .ok (Row.value result column) := stored_apply h
    rw [stored]
    by_cases hc : c = column
    · subst hc
      rw [applyOne] at hnext
      split at hnext
      · rename_i hnull
        cases hnext
        rw [if_neg (by simp [hnull])]
        exact hrest
      · rename_i hnull
        rw [if_pos ⟨rfl, by simpa using hnull⟩]
        cases hcast : Cast.ofName? tag with
        | none =>
          rw [hcast] at hnext
          cases hnext
        | some cast =>
          rw [hcast] at hnext
          obtain ⟨v, hv, rfl⟩ := map_eq_ok.1 hnext
          have hset : Row.value (Row.set c v row) c = v := by simp [Row.value]
          rw [hset] at hrest
          exact bind_eq_ok.2 ⟨v, hv, hrest⟩
    · have hsame : Row.value next column = Row.value row column := by
        rw [Row.value, Row.value, value?_applyOne hnext hc]
      rw [if_neg fun h => hc h.1, ← hsame]
      exact hrest

end Casts

/-- A record that is not empty has a statement that inserts it. -/
theorem Intent.exists_compile_record (table : String) {a : Action}
    (ha : a = .insert ∨ a = .insertIgnore ∨ a = .insertUpdate) {row : Row} (hne : row ≠ []) :
    ∃ l, Intent.compile table { Intent.empty with action := .known a, data := some row } = .ok l := by
  obtain ⟨entry, rest, rfl⟩ := List.exists_cons_of_ne_nil hne
  rcases ha with rfl | rfl | rfl <;> exact ⟨_, rfl⟩

namespace Terminal

open Operation

variable {s : Schema} {data written : Row}

/-- What is written of a record before the library fills in its own columns. -/
theorem payload_writes (h : payload s data = .ok written) :
    written.columns = s.settable data ∧
      ∀ c ∈ s.settable data, s.castList.stored c (Row.value data c) = .ok (Row.value written c) := by
  refine ⟨(Casts.columns_apply h).trans (s.columns_restrict_guard data), fun c hc => ?_⟩
  have hadmits : s.guard.admits c = true := by
    rw [← s.columns_restrict_guard, Guard.columns_restrict] at hc
    exact (List.mem_filter.1 hc).2
  have hstored : s.castList.stored c (Row.value (s.guard.restrict data) c) = .ok (Row.value written c) :=
    Casts.stored_apply h
  rwa [Row.value, Guard.value?_restrict hadmits, ← Row.value] at hstored

/-- What is written of a record once the library has filled in its own columns. -/
theorem writesAs_override (h : payload s data = .ok written) (stamps : Row) :
    s.WritesAs data stamps (Row.override written stamps) := by
  obtain ⟨hcolumns, hstored⟩ := payload_writes h
  refine ⟨by rw [Row.columns_override, hcolumns], fun c hc hother => ?_, fun c hc => ?_⟩
  · have hnone : Row.value? c stamps.reverse = none := by
      rw [← Option.not_isSome_iff_eq_none, Row.value?_isSome, Row.columns, List.map_reverse, List.mem_reverse]
      exact hother
    rw [hstored c hc, Row.value, Row.value, Row.value?_override, hnone, Option.none_or]
  · have hsome : (Row.value? c stamps.reverse).isSome = true := by
      rw [Row.value?_isSome, Row.columns, List.map_reverse, List.mem_reverse]
      exact hc
    obtain ⟨v, hv⟩ := Option.isSome_iff_exists.1 hsome
    rw [Row.value?_override, hv, Option.some_or]

/-- The columns that the library fills in when a record is inserted. -/
theorem perform_stamped (env : Surroundings) {a : Action} (ha : a ≠ .update) (sys : System) :
    ∃ issued, (stamped env s a written).perform sys =
      (.ok (Row.override written (s.stamps env (sys.issued + 1) a)), { sys with issued := issued }) := by
  refine ⟨sys.issued + if (s.uuidColumn.filter (!·.isEmpty)).isSome then 1 else 0, ?_⟩
  by_cases hinsert : a = .insert
  all_goals
    simp only [stamped, Schema.stamps, if_neg ha, hinsert, if_true, if_false]
    cases s.uuidColumn.filter (!·.isEmpty) <;> cases s.timestamps <;> rfl

/-- A statement that is followed by something that only looks at its answer. -/
theorem perform_runWrite {i : Intent} {l : Layout} (h : i.compile s.tableName = .ok l) (f : Answer → Result)
    (sys : System) : ((do return f (← runWrite s i) : Operation Result).perform sys).2 =
      ((Client.execute l.sql l.bindings).perform sys).2 := by
  rw [perform_bind, runWrite, perform_bind, perform_ofResult, h]
  dsimp only
  split <;> simp_all

/-- A record of which nothing is left is not written. -/
theorem perform_nothing {a : Action} {t : Terminal} (ht : t.record? = some (a, data)) (h : payload s data = .ok [])
    (env : Surroundings) (i : Intent) (sys : System) : (t.perform env s i).perform sys = (.ok .nothing, sys) := by
  rw [(t.does_run env s i).perform_eq]
  cases t with
  | insert | insertIgnore | insertOrUpdate | update =>
    cases ht
    simp only [insertRow, updateRows, perform_bind, perform_ofResult, h]
    rfl
  | _ => cases ht

theorem insertRow_sends (env : Surroundings) {a : Action} (ha : a = .insert ∨ a = .insertIgnore ∨ a = .insertUpdate)
    (h : payload s data = .ok written) (hne : written ≠ []) (sys : System) :
    SendsRecord s env a data sys ((insertRow env s a data).perform sys).2 := by
  have hother : a ≠ .update := by rcases ha with rfl | rfl | rfl <;> decide
  obtain ⟨issued, hstamped⟩ := @perform_stamped s written env a hother sys
  have hrow := Row.override_ne_nil (s.stamps env (sys.issued + 1) a) hne
  have hrecord := writesAs_override h (s.stamps env (sys.issued + 1) a)
  generalize Row.override written (s.stamps env (sys.issued + 1) a) = row at hstamped hrow hrecord
  obtain ⟨l, hl⟩ := Intent.exists_compile_record s.tableName ha hrow
  refine ⟨row, l, issued, hrecord, Compile.writesRecord rfl rfl (fun _ => rfl) hl, ?_⟩
  rw [insertRow, perform_bind, perform_ofResult, h]
  dsimp only
  rw [if_neg (by simpa using hne), perform_bind, hstamped]
  exact perform_runWrite hl _ _

/-- An update of a record of which something is left, with a condition of the caller's. -/
theorem perform_updateRows (env : Surroundings) {i : Intent} (hconditions : i.conditions ≠ [])
    (h : payload s data = .ok written) (hne : written ≠ []) (n : Nat) (sys : System) :
    (updateRows env s i data).perform sys =
      (do return Result.answer (← runWrite s { Hydration.withoutDeleted s i with
          action := .known .update, data := some (Row.override written (s.stamps env n .update)) }) :
        Operation Result).perform sys := by
  have hrow : Row.override written (s.stamps env n .update) =
      if s.timestamps then Row.set "updated_at" (timestamp env) written else written := by
    rw [Schema.stamps]
    cases s.timestamps <;> rfl
  rw [hrow, updateRows, perform_bind, perform_ofResult, h]
  dsimp only
  rw [if_neg (by simpa using hne), if_neg (by simpa using hconditions)]

theorem updateRows_sends (env : Surroundings) {i : Intent} (hraw : i.rawQuery = none) (hconditions : i.conditions ≠ [])
    (h : payload s data = .ok written) (hne : written ≠ []) (sys : System) :
    SendsRecord s env .update data sys ((updateRows env s i data).perform sys).2 ∨
      ∃ e, Uncompiled s i e ∧ (updateRows env s i data).perform sys = (.error e, sys) := by
  have hrow := Row.override_ne_nil (s.stamps env (sys.issued + 1) .update) hne
  have hrecord := writesAs_override h (s.stamps env (sys.issued + 1) .update)
  rw [perform_updateRows env hconditions h hne (sys.issued + 1)]
  generalize Row.override written (s.stamps env (sys.issued + 1) .update) = row at hrow hrecord
  -- what leaves out deleted rows is only a condition
  have hscoped : (Hydration.withoutDeleted s i).rawQuery = none ∧
      Compile.range (Hydration.withoutDeleted s i) = Compile.range i := by
    rcases Hydration.withoutDeleted_cases s i with hsame | hguarded
    · rw [hsame]
      exact ⟨hraw, rfl⟩
    · rw [hguarded]
      exact ⟨hraw, rfl⟩
  let sent : Intent := { Hydration.withoutDeleted s i with action := .known .update, data := some row }
  have hcompile : sent.compile s.tableName = Compile.statement s.tableName .update sent := by
    rw [Intent.compile, show sent.rawQuery = none from hscoped.1]
  cases hl : sent.compile s.tableName with
  | ok l =>
    have hwrites : l.WritesRecord s.tableName .update row :=
      Compile.writesRecord (i := sent) rfl rfl (absurd rfl) (hcompile ▸ hl)
    exact .inl ⟨row, l, sys.issued, hrecord, hwrites, perform_runWrite hl _ _⟩
  | error e =>
    refine .inr ⟨e, ?_, ?_⟩
    · rw [hcompile] at hl
      exact (Compile.error_of_update rfl hrow hl).imp_right hscoped.2.symm.trans
    · rw [perform_bind, runWrite, perform_bind, perform_ofResult, hl]

/-- A record of which something is left is sent, or its update has no statement. -/
theorem sends_perform {a : Action} {t : Terminal} (ht : t.record? = some (a, data)) (env : Surroundings) {i : Intent}
    (hraw : i.rawQuery = none) (hconditions : a = .update → i.conditions ≠ []) (h : payload s data = .ok written)
    (hne : written ≠ []) (sys : System) :
    SendsRecord s env a data sys ((t.perform env s i).perform sys).2 ∨
      a = .update ∧ ∃ e, Uncompiled s i e ∧ (t.perform env s i).perform sys = (.error e, sys) := by
  rw [(t.does_run env s i).perform_eq]
  cases t with
  | insert | insertIgnore | insertOrUpdate =>
    cases ht
    exact .inl (insertRow_sends env (by decide) h hne sys)
  | update =>
    cases ht
    exact (updateRows_sends env hraw (hconditions rfl) h hne sys).imp_right (⟨rfl, ·⟩)
  | _ => cases ht

end Terminal

/-- A store to which nothing has been sent gets one statement only, however often it is tried. -/
theorem Client.requests_execute {sys : System} (hquiet : sys.store.requests = []) (l : Layout) :
    ∀ x ∈ ((execute l.sql l.bindings).perform sys).2.store.requests,
      x = openingRequest ∨ sys.adapter.kind.request l.sql l.bindings = .ok x := by
  let P (x : Request) : Prop := x = openingRequest ∨ sys.adapter.kind.request l.sql l.bindings = .ok x
  have hsent : Operation.Keeps (Sends sys.adapter.kind P) (execute l.sql l.bindings) :=
    keeps_execute (.inl rfl) fun _ hx => .inr hx
  exact (hsent sys ⟨rfl, fun x hx => absurd hx (hquiet ▸ List.not_mem_nil)⟩).requests

/-- A record whose casts succeed, at the end of any chain. If its class lets the caller set none of its columns,
nothing is sent and there is no result. Otherwise one statement is sent, as often as it is tried: for the columns that
may be set, in the order of the record and with the values that the casts make of them, and then for those that the
library fills in, as far as they are not there; but an update needs a condition of the caller's, and where the chain's
conditions or its range have no statement it fails before anything is sent. -/
theorem record_written_as_settable (s : Schema) (classes : Catalogue) (calls : List ChainCall) {t : Terminal}
    {a : Action} {data written : Row} (ht : t.record? = some (a, data))
    (hcasts : Terminal.payload s data = .ok written) (env : Surroundings) (sys : System) :
    let m := Model.called classes ⟨s, .empty⟩ calls
    let finished := (m.finish env t (Session.fresh sys)).2
    (s.settable data = [] → finished = (.ok .nothing, Session.fresh sys)) ∧
      (s.settable data ≠ [] → (a = .update → m.intent.conditions ≠ []) →
        (∃ row l issued, s.WritesAs data (s.stamps env (sys.issued + 1) a) row ∧
          Layout.WritesRecord l s.tableName a row ∧
          finished.2 =
            ((Client.execute l.sql l.bindings).perform { Session.fresh sys with issued := issued }).2 ∧
          ∀ x ∈ finished.2.store.requests,
            x = openingRequest ∨ sys.adapter.kind.request l.sql l.bindings = .ok x) ∨
        a = .update ∧ ∃ e, Uncompiled s m.intent e ∧ finished = (.error e, Session.fresh sys)) := by
  intro m finished
  have hfinished : finished = (t.perform env s m.intent).perform (Session.fresh sys) := Chain.finish_called ..
  have hraw : m.intent.rawQuery = none := (Chain.isChained_called classes s calls).rawQuery
  have hcolumns := (Terminal.payload_writes hcasts).1
  rw [hfinished]
  constructor
  · intro hnone
    rw [hnone, Row.columns, List.map_eq_nil_iff] at hcolumns
    exact Terminal.perform_nothing ht (hcolumns ▸ hcasts) env m.intent _
  · intro hsome hconditions
    have hne : written ≠ [] := by
      rintro rfl
      exact hsome hcolumns.symm
    refine (Terminal.sends_perform ht env hraw hconditions hcasts hne (Session.fresh sys)).imp_left ?_
    rintro ⟨row, l, issued, hrecord, hwrites, hafter⟩
    refine ⟨row, l, issued, hrecord, hwrites, hafter, ?_⟩
    rw [hafter]
    exact Client.requests_execute rfl l

/-- Users who may set their names and whether they are active, and get an identifier. -/
def memberSchema : Schema :=
  { Schema.root with
    name := "Member", table := some "members", uuidColumn := some "uid", fillable := ["name", "active"],
    casts := some [("active", "boolean")] }

/-- What a member who would rather be an administrator asks to be written. -/
def memberRecord : Row := [("active", .text "yes"), ("role", .text "admin"), ("name", .text "Ann")]

theorem memberRecord_without_role :
    let m := Model.called .start ⟨memberSchema, .empty⟩ []
    let finished := (m.finish ⟨.start, default⟩ (.insertOrUpdate memberRecord) (Session.fresh connectedPlain)).2
    ∃ row l, row.columns = ["active", "name", "uid", "created_at", "updated_at"] ∧ Row.value row "active" = .int 1 ∧
      Layout.WritesRecord l "members" .insertUpdate row ∧
      ∀ x ∈ finished.2.store.requests, x = openingRequest ∨ AdapterKind.stub.request l.sql l.bindings = .ok x := by
  have hcasts : Terminal.payload memberSchema memberRecord = .ok [("active", .int 1), ("name", .text "Ann")] := rfl
  have hsettable : memberSchema.settable memberRecord = ["active", "name"] := by decide
  obtain ⟨row, l, issued, hrecord, hwrites, -, hrequests⟩ | ⟨h, -⟩ :=
    (record_written_as_settable memberSchema .start [] (t := .insertOrUpdate memberRecord) rfl hcasts ⟨.start, default⟩
      connectedPlain).2 (by rw [hsettable]; exact List.cons_ne_nil _ _) (fun h => by cases h)
  · refine ⟨row, l, hrecord.columns, ?_, hwrites, hrequests⟩
    have hactive := hrecord.settable "active" (by rw [hsettable]; exact List.mem_cons_self) (by decide)
    exact (Except.ok.inj hactive).symm
  · cases h

end RecordMapper
