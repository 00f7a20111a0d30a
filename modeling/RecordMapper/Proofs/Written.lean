import RecordMapper.Proofs.Slots
import RecordMapper.Proofs.Statement

/-!
Statements with their values written in. `Intent.written` writes a statement clause by clause, each value at its own
place by a function `r`, and knows neither of slots nor of bindings. Main statement: a compiled statement has as many
slots as bindings, and with its bindings written over its slots one after another it is the statement that is written
clause by clause. So no binding can have moved to the place of another.
-/
namespace RecordMapper

namespace Written

open Compile (qualify selectList joinText grouping ordering)

section
variable (r : Value → String) (table : String)

/-- An assignment: nulls and truth values by themselves, any other value as `r` writes it. -/
def assignment (column : String) : Value → String
  | .null => column ++ " = NULL"
  | .bool b => column ++ " = " ++ if b then "1" else "0"
  | v => column ++ " = " ++ r v

/-- The assignments of a record. -/
def assignments (data : Row) : String := ", ".intercalate (data.map fun (column, v) => assignment r column v)

/-- A record to be inserted: its columns, then its values in the same order. -/
def insertion (verb : String) (data : Row) : String :=
  verb ++ " " ++ table ++ " (" ++ ", ".intercalate (data.map Prod.fst) ++ ") VALUES (" ++
    ", ".intercalate (data.map fun (_, v) => r v) ++ ")"

/-- A comparison. A list stands between brackets, or decides by itself if it is empty; what stands behind `IS` is
text. -/
def comparison (field operator : String) (v : Value) : String :=
  let column := qualify table field
  if operator = "IN" ∨ operator = "NOT IN" then
    match v.elements?.getD [] with
    | [] => if operator = "IN" then "1 = 0" else "1 = 1"
    | items => column ++ " " ++ operator ++ " (" ++ r (.list items) ++ ")"
  else if operator = "IS" ∨ operator = "IS NOT" then column ++ " " ++ operator ++ " " ++ v.shown
  else column ++ " " ++ operator ++ " " ++ r v

/-- A condition. -/
def condition : Clause → String
  | .raw text _ => text
  | .compare field operator v _ => comparison r table field operator v

/-- All conditions, those behind the first with the words that join them. -/
def conditions : List Clause → String
  | [] => ""
  | c :: rest => " WHERE " ++ condition r table c ++
      String.join (rest.map fun c => " " ++ c.junction ++ " " ++ condition r table c)

/-- The integer that a value is or spells. -/
def whole (v : Value) : Value :=
  match v.toInt with
  | .ok n => .int n
  | .error _ => v

/-- How many rows, and behind that from which on. -/
def range (i : Intent) : String :=
  if i.limit.isTruthy then
    " LIMIT " ++ r (whole i.limit) ++ if i.offset.isTruthy then " OFFSET " ++ r (whole i.offset) else ""
  else ""

/-- The beginning, which the action decides. -/
def head (a : Action) (i : Intent) : String :=
  let data := i.data.getD []
  match a with
  | .select => "SELECT " ++ selectList table i ++ " FROM " ++ table
  | .insert => insertion r table "INSERT INTO" data
  | .insertIgnore => insertion r table "INSERT IGNORE INTO" data
  | .insertUpdate => insertion r table "INSERT INTO" data ++ " ON DUPLICATE KEY UPDATE " ++ assignments r data
  | .update => "UPDATE " ++ table ++ " SET " ++ assignments r data
  | .delete => "DELETE FROM " ++ table

end

end Written

open Compile Written in
/-- The statement of an intent, written clause by clause with the values that it has. -/
def Intent.written (r : Value → String) (table : String) (i : Intent) : String :=
  match i.action with
  | .known a => Written.head r table a i ++ String.join (i.joins.map (joinText table)) ++
      Written.conditions r table i.conditions ++ grouping i ++ ordering table i ++ Written.range r i
  | .unknown _ => ""

/-! ### Layouts of plain text -/

namespace Layout

/-- Whether all text of a layout is plain. -/
def isPlain : Layout → Bool
  | [] => true
  | .text s :: rest => isPlainText s && isPlain rest
  | .slot _ :: rest => isPlain rest

@[simp] theorem isPlain_words (s : String) : isPlain (words s) = isPlainText s := Bool.and_true _

@[simp] theorem isPlain_append (l m : Layout) : isPlain (l ++ m) = (isPlain l && isPlain m) := by
  induction l with
  | nil => rfl
  | cons p l ih => cases p <;> simp [isPlain, ih, Bool.and_assoc]

theorem isPlain_separated (separator : String) (hs : isPlainText separator = true) :
    ∀ parts : List Layout, (∀ p ∈ parts, isPlain p = true) → isPlain (separated separator parts) = true
  | [], _ => rfl
  | [p], h => h p (by simp)
  | p :: q :: rest, h => by
    have hrest : isPlain (separated separator (q :: rest)) = true :=
      isPlain_separated separator hs (q :: rest) fun m hmem => h m (List.mem_cons_of_mem _ hmem)
    rw [separated, isPlain_append, isPlain_append, isPlain_words, h p (by simp), hs, hrest]
    · rfl
    · exact List.cons_ne_nil q rest

theorem render_separated (r : Value → String) (separator : String) : ∀ parts : List Layout,
    render r (separated separator parts) = separator.intercalate (parts.map (render r))
  | [] => by rw [List.map_nil, String.intercalate_nil]; rfl
  | [p] => by rw [List.map_cons, List.map_nil, String.intercalate_singleton]; rfl
  | p :: q :: rest => by
    rw [separated, render_append, render_append, render_words, render_separated r separator (q :: rest),
      List.map_cons, List.map_cons, List.map_cons, String.intercalate_cons_cons]
    exact List.cons_ne_nil q rest

/-- The slots of a plain layout are filled with its bindings as its values are written. -/
theorem fillFrom_sql (r : Value → String) : ∀ l : Layout, l.isPlain = true →
    fillFrom none l.sql.toList ((l.bindings.map r).map String.toList) = (l.render r).toList
  | [], _ => rfl
  | .text s :: rest, h => by
    rw [isPlain, Bool.and_eq_true] at h
    rw [bindings, sql, render, String.toList_append, fillFrom_plain _ _ _ h.1, ← sql, fillFrom_sql r rest h.2, render,
      String.toList_append]
  | .slot v :: rest, h => by
    have ih := fillFrom_sql r rest h
    rw [bindings, sql, render, String.toList_append, ← sql, List.map_cons, List.map_cons, render,
      String.toList_append, ← ih]
    exact fillFrom_slot _ _ _

/-- A plain layout has as many slots as values. -/
theorem slots_sql : ∀ l : Layout, l.isPlain = true →
    (segmentsFrom none l.sql.toList).slots = l.bindings.length
  | [], _ => rfl
  | .text s :: rest, h => by
    rw [isPlain, Bool.and_eq_true] at h
    rw [bindings, sql, render, String.toList_append, slots_segmentsFrom_plain _ _ h.1, ← sql, slots_sql rest h.2]
  | .slot v :: rest, h => by
    rw [bindings, sql, render, String.toList_append, ← sql, List.length_cons, ← slots_sql rest h]
    exact slots_segmentsFrom_slot _

end Layout

/-! ### Intents of plain text -/

/-- Whether a condition is plain: its text, or its field and operator and what stands behind `IS`, and the word that
joins it. -/
def Clause.isPlain : Clause → Bool
  | .raw text junction => isPlainText text && isPlainText junction
  | .compare field operator v junction =>
    isPlainText field && isPlainText operator && isPlainText junction &&
      (!(operator == "IS" || operator == "IS NOT") || isPlainText v.shown)

/-- Whether a join is plain. -/
def Join.isPlain (j : Join) : Bool :=
  isPlainText j.table && isPlainText j.first && isPlainText j.operator &&
    isPlainText j.second && isPlainText j.type

/-- A table and an intent whose texts are plain: what names columns and tables, and what stands in a statement as it
was given. -/
structure PlainTexts (table : String) (i : Intent) : Prop where
  table : isPlainText table = true
  select : ∀ c ∈ i.select, isPlainText c = true
  data : ∀ data, i.data = some data → ∀ e ∈ data, isPlainText e.1 = true
  conditions : ∀ c ∈ i.conditions, c.isPlain = true
  joins : ∀ j ∈ i.joins, j.isPlain = true
  order : ∀ o, i.order = some o → isPlainText o.field = true
  groupBy : ∀ c ∈ i.groupBy, isPlainText c = true

namespace Compile

open Layout

theorem isPlain_qualify {table field : String} (ht : isPlainText table = true)
    (hf : isPlainText field = true) : isPlainText (qualify table field) = true := by
  rw [qualify]
  split
  · exact hf
  · rw [isPlainText_append, isPlainText_append, ht, hf]
    decide

theorem isPlain_selectList {table : String} {i : Intent} (h : PlainTexts table i) :
    isPlainText (selectList table i) = true := by
  rw [selectList]
  split
  · refine isPlainText_intercalate ", " (by decide) _ fun s hs => ?_
    rcases List.mem_cons.1 hs with rfl | hs
    · rw [isPlainText_append, h.table]
      decide
    · obtain ⟨j, hj, rfl⟩ := List.mem_map.1 hs
      have hplain := h.joins j hj
      simp only [Join.isPlain, Bool.and_eq_true] at hplain
      rw [isPlainText_append, hplain.1.1.1.1]
      decide
  · exact isPlainText_intercalate ", " (by decide) _ h.select

theorem isPlain_joinText {table : String} (ht : isPlainText table = true) {j : Join}
    (hj : j.isPlain = true) : isPlainText (joinText table j) = true := by
  simp only [Join.isPlain, Bool.and_eq_true] at hj
  obtain ⟨⟨⟨⟨htable, hfirst⟩, hoperator⟩, hsecond⟩, htype⟩ := hj
  simp only [joinText, isPlainText_append, htype, htable, hoperator, isPlain_qualify ht hfirst,
    isPlain_qualify htable hsecond]
  decide

theorem isPlain_grouping {table : String} {i : Intent} (h : PlainTexts table i) :
    isPlainText (grouping i) = true := by
  rw [grouping]
  split
  · decide
  · rw [isPlainText_append, isPlainText_intercalate ", " (by decide) _ h.groupBy]
    decide

theorem isPlain_ordering {table : String} {i : Intent} (h : PlainTexts table i) :
    isPlainText (ordering table i) = true := by
  rw [ordering]
  split
  · decide
  · rename_i o ho
    simp only [isPlainText_append, isPlain_qualify h.table (h.order o ho)]
    split <;> decide

/-! ### Assignments and records -/

theorem isPlain_assignment {column : String} (h : isPlainText column = true) (v : Value) :
    (assignment column v).isPlain = true := by
  cases v with
  | null => rw [assignment, isPlain_words, isPlainText_append, h]; decide
  | bool b => cases b <;> rw [assignment, isPlain_words, isPlainText_append, isPlainText_append, h] <;> decide
  | _ => simp only [assignment, isPlain, isPlainText_append, h]; decide

theorem render_assignment (r : Value → String) (column : String) (v : Value) :
    render r (assignment column v) = Written.assignment r column v := by
  cases v with
  | null => rw [assignment, render_words, Written.assignment]
  | bool b => rw [assignment, render_words, Written.assignment, String.append_assoc]
  | _ => simp [assignment, render, Written.assignment]

theorem isPlain_assignments {data : Row} (h : ∀ e ∈ data, isPlainText e.1 = true) :
    (assignments data).isPlain = true := by
  refine isPlain_separated ", " (by decide) _ fun p hp => ?_
  obtain ⟨e, he, rfl⟩ := List.mem_map.1 hp
  exact isPlain_assignment (h e he) e.2

theorem render_assignments (r : Value → String) (data : Row) :
    render r (assignments data) = Written.assignments r data := by
  rw [assignments, render_separated, List.map_map, Written.assignments]
  congr 1
  exact List.map_congr_left fun e _ => render_assignment r e.1 e.2

theorem isPlain_insertion {verb table : String} {data : Row} (hv : isPlainText verb = true)
    (ht : isPlainText table = true) (h : ∀ e ∈ data, isPlainText e.1 = true) :
    (insertion verb table data).isPlain = true := by
  have hcolumns : isPlainText (", ".intercalate data.columns) = true := by
    refine isPlainText_intercalate ", " (by decide) _ fun c hc => ?_
    obtain ⟨e, he, rfl⟩ := List.mem_map.1 hc
    exact h e he
  have hvalues : (separated ", " (data.map fun (_, v) => [Piece.slot v])).isPlain = true := by
    refine isPlain_separated ", " (by decide) _ fun p hp => ?_
    obtain ⟨e, -, rfl⟩ := List.mem_map.1 hp
    rfl
  simp only [insertion, isPlain_append, isPlain_words, isPlainText_append, hv, ht, hcolumns, hvalues]
  decide

theorem render_insertion (r : Value → String) (verb table : String) (data : Row) :
    render r (insertion verb table data) = Written.insertion r table verb data := by
  rw [insertion, render_append, render_append, render_words, render_words, render_separated, List.map_map,
    Written.insertion, Row.columns]
  congr 3
  exact List.map_congr_left fun e _ => String.append_empty

/-! ### Conditions -/

theorem isPlain_condition {table : String} (ht : isPlainText table = true) {c : Clause} (hc : c.isPlain = true)
    {l : Layout} (h : condition table c = .ok l) : l.isPlain = true := by
  cases c with
  | raw text junction =>
    rw [Clause.isPlain, Bool.and_eq_true] at hc
    rw [condition, Except.ok.injEq] at h
    rw [← h, isPlain_words, hc.1]
  | compare field operator v junction =>
    simp only [Clause.isPlain, Bool.and_eq_true] at hc
    obtain ⟨⟨⟨hfield, hoperator⟩, -⟩, hshown⟩ := hc
    have hcolumn := isPlain_qualify ht hfield
    rw [condition] at h
    split at h
    · split at h
      · cases h
      · rw [← Except.ok.inj h, isPlain_words]
        split <;> decide
      · rw [← Except.ok.inj h]
        simp only [isPlain, isPlainText_append, hcolumn, hoperator]
        decide
    · split at h
      · rename_i his
        have hv : isPlainText v.shown = true := by
          rcases his with rfl | rfl <;> simpa using hshown
        rw [← Except.ok.inj h]
        simp only [isPlain_words, isPlainText_append, hcolumn, hoperator, hv]
        decide
      · rw [← Except.ok.inj h]
        simp only [isPlain, isPlainText_append, hcolumn, hoperator]
        decide

theorem render_condition (r : Value → String) {table : String} {c : Clause} {l : Layout}
    (h : condition table c = .ok l) : render r l = Written.condition r table c := by
  cases c with
  | raw text junction =>
    rw [condition, Except.ok.injEq] at h
    rw [← h, render_words, Written.condition]
  | compare field operator v junction =>
    rw [Written.condition, Written.comparison]
    rw [condition] at h
    split at h
    · rename_i hlist
      rw [if_pos hlist]
      split at h
      · cases h
      · rename_i hv
        rw [← Except.ok.inj h, render_words, hv]
        rfl
      · rename_i items hne hv
        obtain ⟨x, rest, rfl⟩ := List.exists_cons_of_ne_nil hne
        rw [← Except.ok.inj h, hv]
        simp [render, String.append_assoc]
    · rename_i hlist
      rw [if_neg hlist]
      split at h
      · rename_i his
        rw [← Except.ok.inj h, render_words, if_pos his]
      · rename_i his
        rw [← Except.ok.inj h, if_neg his]
        simp [render]

theorem junction_isPlain {c : Clause} (hc : c.isPlain = true) : isPlainText c.junction = true := by
  cases c with
  | raw text junction => simp_all [Clause.isPlain, Clause.junction]
  | compare field operator v junction => simp_all [Clause.isPlain, Clause.junction]

theorem isPlain_furtherConditions {table : String} (ht : isPlainText table = true) :
    ∀ (cs : List Clause) (l : Layout), (∀ c ∈ cs, c.isPlain = true) → furtherConditions table cs = .ok l →
      l.isPlain = true
  | [], l, _, h => by rw [furtherConditions, Except.ok.injEq] at h; rw [← h]; rfl
  | c :: rest, l, hcs, h => by
    obtain ⟨this, further, hthis, hfurther, rfl⟩ := furtherConditions_cons_eq_ok.1 h
    have hc := hcs c (List.mem_cons_self ..)
    have hrest := isPlain_furtherConditions ht rest further (fun d hd => hcs d (List.mem_cons_of_mem _ hd)) hfurther
    simp only [isPlain_append, isPlain_words, isPlainText_append, junction_isPlain hc, isPlain_condition ht hc hthis,
      hrest]
    decide

theorem render_furtherConditions (r : Value → String) {table : String} : ∀ (cs : List Clause) (l : Layout),
    furtherConditions table cs = .ok l → render r l =
      String.join (cs.map fun c => " " ++ c.junction ++ " " ++ Written.condition r table c)
  | [], l, h => by rw [furtherConditions, Except.ok.injEq] at h; rw [← h, List.map_nil, String.join_nil]; rfl
  | c :: rest, l, h => by
    obtain ⟨this, further, hthis, hfurther, rfl⟩ := furtherConditions_cons_eq_ok.1 h
    rw [render_append, render_append, render_words, render_condition r hthis,
      render_furtherConditions r rest further hfurther, List.map_cons, String.join_cons]

theorem isPlain_conditions {table : String} (ht : isPlainText table = true) {cs : List Clause} {l : Layout}
    (hcs : ∀ c ∈ cs, c.isPlain = true) (h : conditions table cs = .ok l) : l.isPlain = true := by
  cases cs with
  | nil => rw [conditions, Except.ok.injEq] at h; rw [← h]; rfl
  | cons c rest =>
    obtain ⟨first, further, hfirst, hfurther, rfl⟩ := conditions_cons_eq_ok.1 h
    have hrest := isPlain_furtherConditions ht rest further (fun d hd => hcs d (List.mem_cons_of_mem _ hd)) hfurther
    rw [isPlain_append, isPlain_append, isPlain_words, isPlain_condition ht (hcs c (List.mem_cons_self ..)) hfirst,
      hrest]
    decide

theorem render_conditions (r : Value → String) {table : String} {cs : List Clause} {l : Layout}
    (h : conditions table cs = .ok l) : render r l = Written.conditions r table cs := by
  cases cs with
  | nil => rw [conditions, Except.ok.injEq] at h; rw [← h]; rfl
  | cons c rest =>
    obtain ⟨first, further, hfirst, hfurther, rfl⟩ := conditions_cons_eq_ok.1 h
    rw [render_append, render_append, render_words, render_condition r hfirst,
      render_furtherConditions r rest further hfurther, Written.conditions]

/-! ### Ranges and beginnings -/

theorem isPlain_range {i : Intent} {l : Layout} (h : range i = .ok l) : l.isPlain = true := by
  rw [range] at h
  split at h
  · rw [← Except.ok.inj h]; rfl
  · obtain ⟨n, -, h⟩ := bind_eq_ok.1 h
    split at h
    · rw [← Except.ok.inj h]
      simp only [isPlain]
      decide
    · obtain ⟨m, -, h⟩ := bind_eq_ok.1 h
      rw [← Except.ok.inj h]
      simp only [isPlain]
      decide

theorem render_range (r : Value → String) {i : Intent} {l : Layout} (h : range i = .ok l) :
    render r l = Written.range r i := by
  rw [range] at h
  rw [Written.range]
  split at h
  · rename_i hlimit
    rw [← Except.ok.inj h, if_neg (by simpa using hlimit)]
    rfl
  · rename_i hlimit
    obtain ⟨n, hn, h⟩ := bind_eq_ok.1 h
    rw [if_pos (by simpa using hlimit), Written.whole, hn]
    split at h
    · rename_i hoffset
      rw [← Except.ok.inj h, if_neg (by simpa using hoffset)]
      simp [render]
    · rename_i hoffset
      obtain ⟨m, hm, h⟩ := bind_eq_ok.1 h
      rw [← Except.ok.inj h, if_pos (by simpa using hoffset), Written.whole, hm]
      simp [render, String.append_assoc]

theorem isPlain_head {table : String} {a : Action} {i : Intent} (hplain : PlainTexts table i) {l : Layout}
    (h : head table a i = .ok l) : l.isPlain = true := by
  cases a with
  | select =>
    rw [← Except.ok.inj h, isPlain_words]
    simp only [isPlainText_append, isPlain_selectList hplain, hplain.table]
    decide
  | insert | insertIgnore =>
    obtain ⟨data, hdata, h⟩ := bind_eq_ok.1 h
    rw [← Except.ok.inj h]
    exact isPlain_insertion (by decide) hplain.table (hplain.data data (requireData_eq_ok.1 hdata).1)
  | insertUpdate =>
    obtain ⟨data, hdata, h⟩ := bind_eq_ok.1 h
    have hcolumns := hplain.data data (requireData_eq_ok.1 hdata).1
    rw [← Except.ok.inj h]
    simp only [isPlain_append, isPlain_words, isPlain_assignments hcolumns,
      isPlain_insertion (show isPlainText "INSERT INTO" = true by decide) hplain.table hcolumns]
    decide
  | update =>
    obtain ⟨data, hdata, h⟩ := bind_eq_ok.1 h
    rw [← Except.ok.inj h]
    simp only [isPlain_append, isPlain_words, isPlainText_append, hplain.table,
      isPlain_assignments (hplain.data data (requireData_eq_ok.1 hdata).1)]
    decide
  | delete =>
    rw [head] at h
    split at h
    · cases h
    · rw [← Except.ok.inj h, isPlain_words, isPlainText_append, hplain.table]
      decide

theorem render_head (r : Value → String) {table : String} {a : Action} {i : Intent} {l : Layout}
    (h : head table a i = .ok l) : render r l = Written.head r table a i := by
  cases a with
  | select => rw [← Except.ok.inj h, render_words, Written.head]
  | insert | insertIgnore =>
    obtain ⟨data, hdata, h⟩ := bind_eq_ok.1 h
    rw [← Except.ok.inj h, render_insertion, Written.head, (requireData_eq_ok.1 hdata).1, Option.getD_some]
  | insertUpdate =>
    obtain ⟨data, hdata, h⟩ := bind_eq_ok.1 h
    rw [← Except.ok.inj h, render_append, render_append, render_words, render_insertion, render_assignments,
      Written.head, (requireData_eq_ok.1 hdata).1, Option.getD_some]
  | update =>
    obtain ⟨data, hdata, h⟩ := bind_eq_ok.1 h
    rw [← Except.ok.inj h, render_append, render_words, render_assignments, Written.head,
      (requireData_eq_ok.1 hdata).1, Option.getD_some]
  | delete =>
    rw [head] at h
    split at h
    · cases h
    · rw [← Except.ok.inj h, render_words, Written.head]

/-! ### Statements -/

theorem isPlain_statement {table : String} {a : Action} {i : Intent} (hplain : PlainTexts table i) {l : Layout}
    (h : statement table a i = .ok l) : l.isPlain = true := by
  obtain ⟨start, filtered, tail, hstart, hfiltered, htail, rfl⟩ := statement_eq_ok.1 h
  have hjoins : isPlainText (String.join (i.joins.map (joinText table))) = true := by
    refine isPlainText_join _ fun s hs => ?_
    obtain ⟨j, hj, rfl⟩ := List.mem_map.1 hs
    exact isPlain_joinText hplain.table (hplain.joins j hj)
  simp only [isPlain_append, isPlain_words, isPlainText_append, isPlain_head hplain hstart, hjoins,
    isPlain_conditions hplain.table hplain.conditions hfiltered, isPlain_grouping hplain, isPlain_ordering hplain,
    isPlain_range htail]
  decide

theorem render_statement (r : Value → String) {table : String} {a : Action} {i : Intent}
    (ha : i.action = .known a) {l : Layout} (h : statement table a i = .ok l) :
    render r l = i.written r table := by
  obtain ⟨start, filtered, tail, hstart, hfiltered, htail, rfl⟩ := statement_eq_ok.1 h
  rw [Intent.written, ha]
  simp only [render_append, render_words, render_head r hstart, render_conditions r hfiltered, render_range r htail,
    String.append_assoc]

end Compile

/-- A statement that was compiled from plain texts has as many slots as bindings, and with its bindings written over
its slots in order it is the statement written clause by clause, whatever texts values are written as. -/
theorem compile_slots_aligned {table : String} {i : Intent} {l : Layout} (hraw : i.rawQuery.getD "" = "")
    (hplain : PlainTexts table i) (h : i.compile table = .ok l) :
    (splitPlaceholders l.sql).length = l.bindings.length + 1 ∧
      ∀ r : Value → String, fillSlots l.sql (l.bindings.map r) = i.written r table := by
  obtain ⟨a, ha, hstatement⟩ := (Intent.compile_eq_ok hraw).1 h
  have hl : l.isPlain = true := Compile.isPlain_statement hplain hstatement
  constructor
  · rw [length_splitPlaceholders, Layout.slots_sql l hl]
  · intro r
    rw [fillSlots, Layout.fillFrom_sql r l hl, String.ofList_toList, Compile.render_statement r ha hstatement]

/-- A record that is inserted or changed, with values that become bindings and values that do not, lists that are
empty and lists that are not, and a range. -/
def upsertSample : Intent where
  action := .known .insertUpdate
  data := some [("id", .int 7), ("note", .null), ("open", .bool true), ("name", .text "it's?")]
  conditions := [.compare "id" "=" (.int 7) "AND", .compare "id" "IN" (.list [.int 1, .int 2]) "OR",
    .compare "id" "NOT IN" (.list []) "AND", .compare "note" "IS" (.text "NULL") "AND", .raw "1 = 1" "OR"]
  joins := [⟨"posts", "id", "=", "posts.owner", "LEFT"⟩]
  order := some ⟨"name", "DESC"⟩
  limit := .text "10"
  offset := .int 20

theorem upsertSample_slots_aligned :
    ∃ l, upsertSample.compile "users" = .ok l ∧ (splitPlaceholders l.sql).length = l.bindings.length + 1 ∧
      ∀ r : Value → String, fillSlots l.sql (l.bindings.map r) = upsertSample.written r "users" := by
  have hplain : PlainTexts "users" upsertSample := by
    refine ⟨by decide, by decide, ?_, by decide, by decide, ?_, by decide⟩
    · rintro _ ⟨⟩
      decide
    · rintro _ ⟨⟩
      decide
  exact ⟨_, rfl, compile_slots_aligned rfl hplain rfl⟩

end RecordMapper
