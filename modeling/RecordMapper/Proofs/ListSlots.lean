import RecordMapper.Proofs.Expansion
import RecordMapper.Proofs.WrittenRecords

/-!
Lists that are bound. Each place of a statement that takes a value has one slot for it when the statement is compiled:
a column that is inserted or assigned, a comparison, a limit, an offset. An adapter spreads the lists among the values,
and knows nothing of the places. Main statement: what a driver receives is the statement with every list spread where it
stands, into a slot for each item, or into `NULL`; so a place that takes no list has one slot for its value exactly if
the value is no list.
-/
namespace RecordMapper

/-- What a value is bound for in a statement: a column that is inserted or assigned, a comparison, or the range. -/
inductive Place where
  | inserted (column : String)
  | assigned (column : String)
  | compared (field operator : String)
  | limit
  | offset
  deriving Repr, DecidableEq, Inhabited

/-- Whether a place takes a list: it is the comparison with one. -/
def Place.takesList : Place → Bool
  | compared _ operator => operator == "IN" || operator == "NOT IN"
  | _ => false

/-- The places of a record, each with its value. -/
def Row.places (a : Action) (row : Row) : List (Place × Value) :=
  let inserted := row.map fun (column, v) => (Place.inserted column, v)
  let assigned := (row.filter (!·.2.isLiteral)).map fun (column, v) => (Place.assigned column, v)
  match a with
  | .insert | .insertIgnore => inserted
  | .insertUpdate => inserted ++ assigned
  | .update => assigned
  | .select | .delete => []

/-- The place of a condition with its value, if a value is bound for it. -/
def Clause.places : Clause → List (Place × Value)
  | raw _ _ => []
  | compare field operator v _ =>
    if operator = "IN" ∨ operator = "NOT IN" then
      match v.elements?.getD [] with
      | [] => []
      | items => [(.compared field operator, .list items)]
    else if operator = "IS" ∨ operator = "IS NOT" then []
    else [(.compared field operator, v)]

namespace Intent

/-- The places of a range with their values. -/
def rangePlaces (i : Intent) : List (Place × Value) :=
  if i.limit.isTruthy then
    (.limit, Written.whole i.limit) :: if i.offset.isTruthy then [(.offset, Written.whole i.offset)] else []
  else []

/-- The places of the statement of a query, each with its own value, in the order in which they stand. -/
def places (i : Intent) : List (Place × Value) :=
  match i.action with
  | .known a => (i.data.getD []).places a ++ i.conditions.flatMap Clause.places ++ i.rangePlaces
  | .unknown _ => []

end Intent

/-- The state in which the reading of a text ends: inside a literal or outside. -/
def quoteAfter : Option Char → List Char → Option Char
  | state, [] => state
  | some quote, c :: rest => quoteAfter (if c == quote then none else some quote) rest
  | none, c :: rest => quoteAfter (if isQuote c then some c else none) rest

namespace Layout

/-- Whether a statement that is read from this state has its slots where its values are, and nowhere else. -/
def AlignedFrom : Option Char → Layout → Prop
  | _, [] => True
  | state, .text s :: rest => (segmentsFrom state s.toList).slots = 0 ∧ AlignedFrom (quoteAfter state s.toList) rest
  | state, .slot _ :: rest => state = none ∧ AlignedFrom none rest

/-- Whether the slots of a statement are read where its values are: no text has one, and no literal is open at a
value. -/
def IsAligned (l : Layout) : Prop := AlignedFrom none l

end Layout

open Layout in
/-- A piece in which a list is spread: a slot for each item, or `NULL` for none. -/
def Piece.spread : Piece → Layout
  | .text s => words s
  | .slot (.list []) => words "NULL"
  | .slot (.list items) => separated ", " (items.map fun v => [.slot v])
  | .slot v => [.slot v]

/-- A statement in which every list is spread where it stands. -/
def Layout.spread (l : Layout) : Layout := l.flatMap Piece.spread

/-- A statement in the spelling of a dialect; its beginning is all that may differ. -/
def Dialect.respell : Dialect → Layout → Layout
  | sqlite, .text s :: rest => .text (adaptSQLite s) :: rest
  | _, l => l

/-- A statement as the driver of an adapter is given it. -/
def AdapterKind.given : AdapterKind → Layout → Request
  | stub, l => (l.sql, some l.bindings)
  | mysql, l => if l.bindings.isEmpty then (l.sql, none) else (Dialect.adaptMySQL l.sql, some l.bindings)
  | sqlite, l => (l.sql, some (l.bindings.map Dialect.toSQLite))

/-- What the driver of an adapter receives of a statement: the statement in its spelling with every list spread; the
plain adapter, which has no driver, passes on what it gets. -/
def AdapterKind.received : AdapterKind → Layout → Layout
  | stub, l => l
  | kind, l => kind.dialect.respell l.spread

/-! ### Reading a text -/

/-- A text without slots is left alone, and what follows is read from where it ends. -/
theorem fillFrom_text (t : List Char) (fs : List (List Char)) : ∀ (p : List Char) (state : Option Char),
    (segmentsFrom state p).slots = 0 → fillFrom state (p ++ t) fs = p ++ fillFrom (quoteAfter state p) t fs
  | [], state, _ => by cases state <;> rfl
  | c :: p, some quote, h => by
    rw [segmentsFrom, slots_cons] at h
    rw [List.cons_append, fillFrom, quoteAfter, fillFrom_text t fs p _ h, List.cons_append]
  | c :: p, none, h => by
    rw [segmentsFrom] at h
    rw [List.cons_append, fillFrom, quoteAfter]
    split at h
    · rename_i hquote
      rw [slots_cons] at h
      rw [if_pos hquote, if_pos hquote, fillFrom_text t fs p _ h, List.cons_append]
    · rename_i hquote
      split at h
      · rw [slots_slot] at h
        cases h
      · rename_i hslot
        rw [slots_cons] at h
        rw [if_neg hquote, if_neg hslot, if_neg hquote, fillFrom_text t fs p _ h, List.cons_append]

theorem slots_append (t : List Char) : ∀ (p : List Char) (state : Option Char),
    (segmentsFrom state (p ++ t)).slots = (segmentsFrom state p).slots + (segmentsFrom (quoteAfter state p) t).slots
  | [], state => by cases state <;> exact (Nat.zero_add _).symm
  | c :: p, some quote => by
    rw [List.cons_append, segmentsFrom, segmentsFrom, quoteAfter, slots_cons, slots_cons, slots_append t p]
  | c :: p, none => by
    rw [List.cons_append, segmentsFrom, segmentsFrom, quoteAfter]
    split
    · rw [slots_cons, slots_cons, slots_append t p]
    · split
      · rw [slots_slot, slots_slot, slots_append t p]
        omega
      · rw [slots_cons, slots_cons, slots_append t p]

/-- Text without slots and literals ends outside literals. -/
theorem quoteAfter_plain (t : List Char) : ∀ p : List Char, p.all isPlainChar = true →
    quoteAfter none (p ++ t) = quoteAfter none t
  | [], _ => rfl
  | c :: p, h => by
    rw [List.all_cons, Bool.and_eq_true, isPlainChar_iff] at h
    rw [List.cons_append, quoteAfter, h.1.2]
    exact quoteAfter_plain t p h.2

/-! ### Lists that are spread -/

namespace Layout

theorem bindings_spread_slot (v : Value) : (Piece.spread (.slot v)).bindings = bound v := by
  cases v with
  | list items =>
    cases items with
    | nil => rfl
    | cons v rest =>
      rw [Piece.spread, bindings_separated, List.flatMap_map]
      · exact List.flatMap_singleton' _
      · exact List.cons_ne_nil v rest
  | _ => rfl

theorem render_spread_slot (r : Value → String) (v : Value) : render r (Piece.spread (.slot v)) = slotText r v := by
  have hslot (v : Value) : render r [.slot v] = r v := String.append_empty
  cases v with
  | list items =>
    cases items with
    | nil => rfl
    | cons v rest =>
      have hitems : (render r ∘ fun v => [Piece.slot v]) = r := funext hslot
      rw [Piece.spread, render_separated, List.map_map, hitems]
      · rfl
      · exact List.cons_ne_nil v rest
  | _ => exact hslot _

/-- The marks of a value are the text of its slots. -/
theorem toList_sql_spread_slot (v : Value) : (sql (Piece.spread (.slot v))).toList = slotMarks v := by
  have hmark : (String.toList ∘ fun _ : Value => "?") = fun _ => ['?'] :=
    funext fun _ => show "?".toList = ['?'] by decide
  have hmarks : ((bound v).map fun _ => "?").map String.toList = List.replicate (bound v).length ['?'] := by
    rw [List.map_map, hmark, List.map_const']
  have hfilled := fillFrom_slotMarks (fun _ => "?") v [] []
  rw [hmarks, List.append_nil, List.append_nil, fillFrom_replicate] at hfilled
  rw [sql, render_spread_slot, hfilled]
  exact (List.append_nil _).symm

theorem spread_cons (p : Piece) (l : Layout) : spread (p :: l) = p.spread ++ spread l := List.flatMap_cons

/-- A statement binds the items of its lists when they are spread. -/
theorem bindings_spread : ∀ l : Layout, l.spread.bindings = l.bindings.flatMap bound
  | [] => rfl
  | .text s :: rest => by
    rw [spread_cons, bindings_append, bindings_spread rest]
    rfl
  | .slot v :: rest => by
    rw [spread_cons, bindings_append, bindings_spread_slot, bindings_spread rest, bindings, List.flatMap_cons]

/-- A statement with its lists spread is written as the statement, each list with its items one behind the other. -/
theorem render_spread (r : Value → String) : ∀ l : Layout, l.spread.render r = l.render (slotText r)
  | [] => rfl
  | .text s :: rest => by
    rw [spread_cons, render_append, render_spread r rest]
    exact congrArg (· ++ _) (render_words r s)
  | .slot v :: rest => by
    rw [spread_cons, render_append, render_spread_slot, render_spread r rest, render]

/-! ### Statements that are aligned -/

theorem toList_sql_append (l m : Layout) : (sql (l ++ m)).toList = l.sql.toList ++ m.sql.toList := by
  rw [sql, render_append, String.toList_append, ← sql, ← sql]

theorem toList_sql_text (s : String) (l : Layout) : (sql (.text s :: l)).toList = s.toList ++ l.sql.toList := by
  rw [sql, render, String.toList_append, ← sql]

theorem toList_sql_slot (v : Value) (l : Layout) : (sql (.slot v :: l)).toList = '?' :: l.sql.toList := by
  rw [sql, render, String.toList_append, ← sql]
  rfl

/-- An aligned statement has as many slots as values. -/
theorem AlignedFrom.slots_sql : ∀ {l : Layout} {state : Option Char}, l.AlignedFrom state →
    (segmentsFrom state l.sql.toList).slots = l.bindings.length
  | [], state, _ => by cases state <;> rfl
  | .text s :: rest, state, h => by
    rw [toList_sql_text, slots_append, h.1, Nat.zero_add]
    exact AlignedFrom.slots_sql h.2
  | .slot v :: rest, _, ⟨rfl, h⟩ => by
    rw [toList_sql_slot, slots_segmentsFrom_slot, AlignedFrom.slots_sql h, bindings, List.length_cons]

/-- Widening the text of an aligned statement is spreading its lists. -/
theorem AlignedFrom.widened_sql : ∀ {l : Layout} {state : Option Char}, l.AlignedFrom state →
    widened state l.sql.toList l.bindings = l.spread.sql.toList
  | [], state, _ => by cases state <;> rfl
  | .text s :: rest, state, h => by
    have ih := AlignedFrom.widened_sql h.2
    rw [widened] at ih ⊢
    rw [toList_sql_text, bindings, fillFrom_text _ _ _ _ h.1, ih, spread_cons]
    exact (toList_sql_text s _).symm
  | .slot v :: rest, _, ⟨rfl, h⟩ => by
    have ih := AlignedFrom.widened_sql h
    rw [widened] at ih ⊢
    rw [toList_sql_slot, bindings, List.map_cons, fillFrom_slot, ih, spread_cons, toList_sql_append,
      toList_sql_spread_slot]

/-- A statement of plain text is aligned. -/
theorem isAligned_of_isPlain : ∀ {l : Layout}, l.isPlain = true → l.IsAligned
  | [], _ => trivial
  | .text s :: rest, h => by
    rw [isPlain, Bool.and_eq_true] at h
    have hslots := slots_segmentsFrom_plain [] s.toList h.1
    have hstate := quoteAfter_plain [] s.toList h.1
    rw [List.append_nil] at hslots hstate
    refine ⟨hslots, ?_⟩
    rw [hstate]
    exact isAligned_of_isPlain h.2
  | .slot v :: rest, h => ⟨rfl, isAligned_of_isPlain (l := rest) h⟩

/-- With as many slots as values where these are, a statement is widened by spreading its lists. -/
theorem IsAligned.expandBindings_eq {l : Layout} (h : l.IsAligned) :
    expandBindings l.sql l.bindings = .ok (l.spread.sql, l.spread.bindings) := by
  rw [RecordMapper.expandBindings_eq _ _ h.slots_sql, h.widened_sql, String.ofList_toList, bindings_spread]

end Layout

/-! ### Spellings -/

/-- How statements begin. -/
def Compile.verbs : List String := ["SELECT", "INSERT INTO", "INSERT IGNORE INTO", "UPDATE", "DELETE FROM"]

/-- The beginning of a statement as SQLite spells it. -/
def Dialect.verb (verb : String) : String := if verb = "INSERT IGNORE INTO" then "INSERT OR IGNORE INTO" else verb

namespace Dialect

theorem afterInsertIgnore?_verb (text : List Char) :
    afterInsertIgnore? ("SELECT ".toList ++ text) = none ∧
      afterInsertIgnore? ("INSERT INTO ".toList ++ text) = none ∧
      afterInsertIgnore? ("INSERT IGNORE INTO ".toList ++ text) = some (' ' :: text) ∧
      afterInsertIgnore? ("UPDATE ".toList ++ text) = none ∧
      afterInsertIgnore? ("DELETE FROM ".toList ++ text) = none :=
  ⟨rfl, rfl, rfl, rfl, rfl⟩

theorem adaptSQLite_of_none {sql : String} (h : afterInsertIgnore? sql.toList = none) : adaptSQLite sql = sql := by
  rw [adaptSQLite, h]

theorem adaptSQLite_of_some {sql : String} {rest : List Char} (h : afterInsertIgnore? sql.toList = some rest) :
    adaptSQLite sql = "INSERT OR IGNORE INTO" ++ String.ofList rest := by
  rw [adaptSQLite, h]

/-- Only the beginning of a statement is spelled otherwise. -/
theorem adaptSQLite_verb {verb : String} (hverb : verb ∈ Compile.verbs) (text : String) :
    adaptSQLite (verb ++ " " ++ text) = Dialect.verb verb ++ " " ++ text := by
  obtain ⟨hselect, hinsert, hignore, hupdate, hdelete⟩ := afterInsertIgnore?_verb text.toList
  rw [← String.toList_append] at hselect hinsert hignore hupdate hdelete
  simp only [Compile.verbs, List.mem_cons, List.not_mem_nil, or_false] at hverb
  rcases hverb with rfl | rfl | rfl | rfl | rfl
  · exact adaptSQLite_of_none hselect
  · exact adaptSQLite_of_none hinsert
  · have htext : String.ofList (' ' :: text.toList) = " " ++ text := by
      rw [← String.toList_inj, String.toList_ofList, String.toList_append]
      rfl
    calc
      adaptSQLite ("INSERT IGNORE INTO " ++ text)
      _ = "INSERT OR IGNORE INTO" ++ String.ofList (' ' :: text.toList) := adaptSQLite_of_some hignore
      _ = "INSERT OR IGNORE INTO" ++ " " ++ text := by rw [htext, String.append_assoc]
  · exact adaptSQLite_of_none hupdate
  · exact adaptSQLite_of_none hdelete

end Dialect

namespace Compile

open Layout

variable {table : String} {i : Intent} {a : Action} {l : Layout}

/-- A text that begins with one of the verbs. -/
def Begins (s : String) : Prop := ∃ verb ∈ verbs, ∃ text, s = verb ++ " " ++ text

theorem begins_insertion (table : String) {verb : String} (hverb : verb ∈ verbs) (data : Row) :
    ∃ s rest, insertion verb table data = .text s :: rest ∧ Begins s := by
  refine ⟨_, _, rfl, verb, hverb, table ++ " (" ++ ", ".intercalate data.columns ++ ") VALUES (", ?_⟩
  simp only [String.append_assoc]

/-- The beginning of a statement is one of the verbs. -/
theorem begins_head (h : head table a i = .ok l) : ∃ s rest, l = .text s :: rest ∧ Begins s := by
  cases a with
  | select =>
    cases h
    refine ⟨_, _, rfl, "SELECT", by decide, selectList table i ++ " FROM " ++ table, ?_⟩
    rw [show "SELECT" ++ " " = "SELECT " by decide]
    simp only [String.append_assoc]
  | insert =>
    obtain ⟨data, -, h⟩ := bind_eq_ok.1 h
    cases h
    exact begins_insertion table (by decide) data
  | insertIgnore =>
    obtain ⟨data, -, h⟩ := bind_eq_ok.1 h
    cases h
    exact begins_insertion table (by decide) data
  | insertUpdate =>
    obtain ⟨data, -, h⟩ := bind_eq_ok.1 h
    obtain ⟨s, rest, hinsertion, hs⟩ := begins_insertion table (show "INSERT INTO" ∈ verbs by decide) data
    cases h
    rw [hinsertion]
    exact ⟨s, _, rfl, hs⟩
  | update =>
    obtain ⟨data, -, h⟩ := bind_eq_ok.1 h
    cases h
    refine ⟨_, _, rfl, "UPDATE", by decide, table ++ " SET ", ?_⟩
    rw [show "UPDATE" ++ " " = "UPDATE " by decide, String.append_assoc]
  | delete =>
    rw [head] at h
    split at h
    · cases h
    · cases h
      refine ⟨_, _, rfl, "DELETE FROM", by decide, table, ?_⟩
      rw [show "DELETE FROM" ++ " " = "DELETE FROM " by decide]

/-- A statement begins with one of the verbs. -/
theorem begins_statement (h : statement table a i = .ok l) : ∃ s rest, l = .text s :: rest ∧ Begins s := by
  obtain ⟨start, filtered, tail, hstart, -, -, rfl⟩ := statement_eq_ok.1 h
  obtain ⟨s, rest, rfl, hs⟩ := begins_head hstart
  exact ⟨s, _, rfl, hs⟩

/-- A statement whose beginning is spelled otherwise is the text that is. -/
theorem sql_respell {s : String} {rest : Layout} (hs : Begins s) :
    Dialect.adaptSQLite (sql (.text s :: rest)) = sql (Dialect.sqlite.respell (.text s :: rest)) := by
  obtain ⟨verb, hverb, text, rfl⟩ := hs
  have hbehind (verb behind : String) : verb ++ " " ++ text ++ behind = verb ++ " " ++ (text ++ behind) :=
    String.append_assoc
  rw [Dialect.respell, sql, sql, render, render, hbehind, Dialect.adaptSQLite_verb hverb,
    Dialect.adaptSQLite_verb hverb, hbehind]

/-- The beginning of a statement decides nothing about its slots. -/
theorem isAligned_respell {s : String} {rest : Layout} (hs : Begins s) (h : IsAligned (.text s :: rest)) :
    IsAligned (Dialect.sqlite.respell (.text s :: rest)) := by
  obtain ⟨verb, hverb, text, rfl⟩ := hs
  have hplain : isPlainText (verb ++ " ") = true ∧ isPlainText (Dialect.verb verb ++ " ") = true := by
    simp only [verbs, List.mem_cons, List.not_mem_nil, or_false] at hverb
    rcases hverb with rfl | rfl | rfl | rfl | rfl <;> decide
  obtain ⟨hslots, hrest⟩ := h
  rw [String.toList_append, slots_segmentsFrom_plain _ _ hplain.1] at hslots
  rw [String.toList_append, quoteAfter_plain _ _ hplain.1] at hrest
  rw [Dialect.respell, Dialect.adaptSQLite_verb hverb]
  refine ⟨?_, ?_⟩
  · rw [String.toList_append, slots_segmentsFrom_plain _ _ hplain.2, hslots]
  · rw [String.toList_append, quoteAfter_plain _ _ hplain.2]
    exact hrest

end Compile

/-! ### Requests -/

/-- What an adapter makes of a statement whose slots are where its values are: what its driver receives of it. -/
theorem AdapterKind.request_of_isAligned (kind : AdapterKind) {table : String} {a : Action} {i : Intent} {l : Layout}
    (hl : Compile.statement table a i = .ok l) (haligned : l.IsAligned) :
    kind.request l.sql l.bindings = .ok (kind.given (kind.received l)) := by
  cases kind with
  | stub => rfl
  | mysql =>
    rw [request, haligned.expandBindings_eq]
    rfl
  | sqlite =>
    -- the spelling comes before the spreading, and moves no slot
    obtain ⟨s, rest, rfl, hs⟩ := Compile.begins_statement hl
    have hspread := (Compile.isAligned_respell hs haligned).expandBindings_eq
    have hbindings : (Dialect.sqlite.respell (.text s :: rest)).bindings = Layout.bindings (.text s :: rest) := rfl
    rw [hbindings] at hspread
    rw [request, Compile.sql_respell hs, hspread]
    rfl

/-! ### Places -/

namespace Compile

open Layout

variable {table : String} {i : Intent} {a : Action} {l : Layout}

theorem values_places (a : Action) (row : Row) : (row.places a).map Prod.snd = row.bound a := by
  have hinserted : (row.map fun (column, v) => (Place.inserted column, v)).map Prod.snd = row.map Prod.snd := by
    rw [List.map_map]
    rfl
  have hassigned : ((row.filter (!·.2.isLiteral)).map fun (column, v) => (Place.assigned column, v)).map Prod.snd =
      (row.map Prod.snd).filter (!·.isLiteral) := by
    rw [List.map_map, List.filter_map]
    rfl
  cases a with
  | select | delete => rfl
  | insert | insertIgnore => exact hinserted
  | insertUpdate =>
    rw [Row.places, List.map_append, hinserted, hassigned]
    rfl
  | update => exact hassigned

theorem places_of_head (h : head table a i = .ok l) : l.bindings = ((i.data.getD []).places a).map Prod.snd := by
  have hdata {row : Row} (hrow : i.data = some row) : l.bindings = ((i.data.getD []).places a).map Prod.snd := by
    rw [bindings_head hrow h, hrow, Option.getD_some, values_places]
  cases a with
  | select =>
    cases h
    rfl
  | insert | insertIgnore | insertUpdate | update =>
    obtain ⟨row, hrow, -⟩ := bind_eq_ok.1 h
    exact hdata (requireData_eq_ok.1 hrow).1
  | delete =>
    rw [head] at h
    split at h
    · cases h
    · cases h
      rfl

theorem places_of_condition {c : Clause} (h : condition table c = .ok l) : l.bindings = c.places.map Prod.snd := by
  cases c with
  | raw text junction =>
    cases h
    rfl
  | compare field operator v junction =>
    rw [Clause.places]
    rw [condition] at h
    split at h
    · rename_i hlist
      rw [if_pos hlist]
      split at h
      · cases h
      · rename_i hv
        cases h
        rw [hv]
        rfl
      · rename_i items hne hv
        obtain ⟨x, rest, rfl⟩ := List.exists_cons_of_ne_nil hne
        cases h
        rw [hv]
        rfl
    · rename_i hlist
      rw [if_neg hlist]
      split at h
      · rename_i his
        cases h
        rw [if_pos his]
        rfl
      · rename_i his
        cases h
        rw [if_neg his]
        rfl

theorem places_of_furtherConditions : ∀ {cs : List Clause} {l : Layout}, furtherConditions table cs = .ok l →
    l.bindings = (cs.flatMap Clause.places).map Prod.snd
  | [], _, h => by
    cases h
    rfl
  | c :: rest, _, h => by
    obtain ⟨this, further, hthis, hfurther, rfl⟩ := furtherConditions_cons_eq_ok.1 h
    rw [bindings_append, bindings_append, places_of_condition hthis, places_of_furtherConditions hfurther,
      List.flatMap_cons, List.map_append]
    rfl

theorem places_of_conditions {cs : List Clause} (h : conditions table cs = .ok l) :
    l.bindings = (cs.flatMap Clause.places).map Prod.snd := by
  cases cs with
  | nil =>
    cases h
    rfl
  | cons c rest =>
    obtain ⟨first, further, hfirst, hfurther, rfl⟩ := conditions_cons_eq_ok.1 h
    rw [bindings_append, bindings_append, places_of_condition hfirst, places_of_furtherConditions hfurther,
      List.flatMap_cons, List.map_append]
    rfl

theorem places_of_range (h : range i = .ok l) : l.bindings = i.rangePlaces.map Prod.snd := by
  rw [range] at h
  rw [Intent.rangePlaces]
  split at h
  · rename_i hlimit
    cases h
    rw [if_neg (by simpa using hlimit)]
    rfl
  · rename_i hlimit
    obtain ⟨n, hn, h⟩ := bind_eq_ok.1 h
    rw [if_pos (by simpa using hlimit), Written.whole, hn]
    split at h
    · rename_i hoffset
      cases h
      rw [if_neg (by simpa using hoffset)]
      rfl
    · rename_i hoffset
      obtain ⟨m, hm, h⟩ := bind_eq_ok.1 h
      cases h
      rw [if_pos (by simpa using hoffset), Written.whole, hm]
      rfl

/-- A statement binds the values of its places, in the order of these. -/
theorem places_of_statement (ha : i.action = .known a) (h : statement table a i = .ok l) :
    l.bindings = i.places.map Prod.snd := by
  obtain ⟨start, filtered, tail, hstart, hfiltered, htail, rfl⟩ := statement_eq_ok.1 h
  have hwords (text : String) : (words text).bindings = [] := rfl
  rw [Intent.places, ha]
  simp only [bindings_append, hwords, places_of_head hstart, places_of_conditions hfiltered, places_of_range htail,
    List.append_nil, List.map_append]

end Compile

/-- A value has one slot, for itself, when it is spread. -/
def Value.HasOneSlot (v : Value) : Prop := bound v = [v] ∧ ∀ r, slotText r v = r v

/-- A value has one slot exactly if it is no list. -/
theorem Value.hasOneSlot_iff (v : Value) : v.HasOneSlot ↔ v.isList = false := by
  cases v with
  | list items =>
    refine iff_of_false (fun h => ?_) (fun h => Bool.noConfusion h)
    -- a list of one item is not that item
    have hsize := congrArg sizeOf h.1
    simp only [bound, List.cons.sizeOf_spec, List.nil.sizeOf_spec, Value.list.sizeOf_spec] at hsize
    omega
  | _ => exact iff_of_true ⟨rfl, fun _ => rfl⟩ rfl

/-- Any table and any query that compiles to a statement whose slots are where its values are, and any adapter. The
statement binds the values of its places in their order, and is the one that is written clause by clause. The driver
receives it with every list spread where it stands: it is the statement written clause by clause with the items of
each list one behind the other, or `NULL` for an empty one, and binds for each place what its value consists of. So
the places that take no list have one slot each, for their own value, exactly if none of them is given a list. -/
theorem slots_of_places {table : String} {i : Intent} {l : Layout} (hraw : i.rawQuery.getD "" = "")
    (hl : i.compile table = .ok l) (haligned : l.IsAligned) (kind : AdapterKind) :
    kind.request l.sql l.bindings = .ok (kind.given (kind.received l)) ∧
      (l.bindings = i.places.map Prod.snd ∧ ∀ r, l.render r = i.written r table) ∧
      (l.spread.bindings = i.places.flatMap (bound ·.2) ∧ ∀ r, l.spread.render r = i.written (slotText r) table) ∧
      ((∀ p ∈ i.places, p.1.takesList = false → p.2.HasOneSlot) ↔
        ∀ p ∈ i.places, p.1.takesList = false → p.2.isList = false) := by
  obtain ⟨a, ha, hstatement⟩ := (Intent.compile_eq_ok hraw).1 hl
  have hplaces := Compile.places_of_statement ha hstatement
  have hwritten (r : Value → String) := Compile.render_statement r ha hstatement
  refine ⟨kind.request_of_isAligned hstatement haligned, ⟨hplaces, hwritten⟩, ⟨?_, fun r => ?_⟩, ?_⟩
  · rw [Layout.bindings_spread, hplaces, List.flatMap_map]
  · rw [Layout.render_spread, hwritten]
  · simp only [Value.hasOneSlot_iff]

/-- Users 1 and 2 get a tag in place of another one. -/
def retagging (tags instead : Value) : Intent where
  action := .known .update
  data := some [("tags", instead)]
  conditions := [.compare "id" "IN" (.list [.int 1, .int 2]) "AND", .compare "tags" "=" tags "AND"]

/-- Only the identifiers are spread where both tags are texts. -/
theorem slots_of_retagging :
    let i := retagging (.text "a?") (.text "b")
    ∃ l, (i.rawQuery.getD "" = "" ∧ i.compile "users" = .ok l ∧ l.IsAligned) ∧
      AdapterKind.sqlite.request l.sql l.bindings =
        .ok ("UPDATE users SET tags = ? WHERE users.id IN (?, ?) AND users.tags = ?",
          some [.text "b", .int 1, .int 2, .text "a?"]) ∧
      ∀ p ∈ i.places, p.1.takesList = false → p.2.HasOneSlot := by
  intro i
  refine ⟨_, ⟨rfl, rfl, Layout.isAligned_of_isPlain (by decide)⟩, ?_⟩
  obtain ⟨hrequest, -, -, hslots⟩ := @slots_of_places "users" i _ rfl rfl
    (Layout.isAligned_of_isPlain (by decide)) .sqlite
  exact ⟨hrequest.trans rfl, hslots.2 (by decide)⟩

/-- Tags that are lists are spread as the identifiers are: an assignment loses its slot for an empty one, and a
comparison and a column that is inserted get two. -/
theorem lists_are_spread_elsewhere :
    let i := retagging (.list [.int 3, .int 4]) (.list [])
    let j : Intent := { action := .known .insert, data := some [("tags", .list [.int 3, .int 4])] }
    (∃ l, i.compile "users" = .ok l ∧ AdapterKind.sqlite.request l.sql l.bindings =
      .ok ("UPDATE users SET tags = NULL WHERE users.id IN (?, ?) AND users.tags = ?, ?",
        some [.int 1, .int 2, .int 3, .int 4])) ∧
      ∃ l, j.compile "users" = .ok l ∧ AdapterKind.sqlite.request l.sql l.bindings =
        .ok ("INSERT INTO users (tags) VALUES (?, ?)", some [.int 3, .int 4]) ∧
          j.places.map Prod.fst = [.inserted "tags"] :=
  ⟨⟨_, rfl, rfl⟩, _, rfl, rfl, rfl⟩

end RecordMapper
