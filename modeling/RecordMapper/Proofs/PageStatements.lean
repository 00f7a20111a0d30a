import RecordMapper.Proofs.PagedRows
import RecordMapper.Proofs.Scripts

/-!
The statements of a page. A page sends one statement for its rows and, if these can be read, one that counts. Both are
made of one source, the table with its joins, conditions and grouping; the first has the columns, the order and the
range of the page, the second nothing of these. Main statement: number and length of a page are those asked for, or
else those that the range of the chain makes, and its statements are these two.
-/
namespace RecordMapper

open Hydration

/-- An argument or a field that is an integer or is not given. -/
def Value.ofInt? : Option Int → Value
  | none => .null
  | some n => .int n

theorem Value.isTruthy_int (n : Int) : (Value.int n).isTruthy = true ↔ n ≠ 0 := by simp [isTruthy]

/-- A query with a range: so many rows behind so many. -/
def Intent.ranged (i : Intent) (limit offset : Nat) : Intent := { i with limit := .int limit, offset := .int offset }

/-- The conditions of a chain, and behind them the one that leaves out deleted rows, if the class keeps these and the
chain does not ask for them. -/
def Schema.scoped (s : Schema) (i : Intent) : List Clause :=
  i.conditions ++ if s.softDelete && !i.withTrashed then [notDeleted] else []

/-- What a query reads from: its table with joins, conditions and grouping. -/
def Intent.source (table : String) (i : Intent) (filtered : Layout) : Layout :=
  Layout.words (" FROM " ++ table ++ String.join (i.joins.map (Compile.joinText table))) ++ filtered ++
    Layout.words (Compile.grouping i)

/-- The statement that reads columns from a source in an order: so many rows behind so many. -/
def rangedQuestion (columns : String) (source : Layout) (order : String) (limit offset : Nat) : Question where
  sql := "SELECT " ++ columns ++ source.sql ++ order ++ " LIMIT ?" ++ if offset = 0 then "" else " OFFSET ?"
  bindings := source.bindings ++ .int limit :: if offset = 0 then [] else [.int offset]

/-- Number and length of a page: those asked for, as far as they are at least one, or else a window of the chain's own
limit that has the chain's own offset in it. -/
structure PageRange (limit offset : Option Nat) (asked askedLength : Option Int) (page perPage : Nat) : Prop where
  page_pos : 1 ≤ page
  perPage_pos : 1 ≤ perPage
  page_eq : ∀ n, asked = some n → 1 ≤ n → n = page
  perPage_eq : ∀ n, askedLength = some n → 1 ≤ n → n = perPage
  derived : asked.getD 0 < 1 → askedLength.getD 0 < 1 → ∀ l, limit = some l → 1 ≤ l →
    perPage = l ∧ (page - 1) * perPage ≤ offset.getD 0 ∧ offset.getD 0 < page * perPage

/-! ### What passes between a script and a system -/

namespace Script

variable {α β : Type}

/-- What passes where one script comes after another one, which must have a result for that. -/
theorem log_andThen (f : α → Script β) : ∀ (p : Script α) (s : System),
    (p.andThen f).log s = p.log s ++
      match p.perform.perform s with
      | (.ok a, t) => (f a).log t
      | (.error _, _) => []
  | done (.ok a), s => rfl
  | done (.error e), s => rfl
  | ask q next, s => by
    rw [andThen, log_ask, log_ask, log_andThen f, perform_ask]
    rfl
  | issue next, s => by
    rw [andThen, log, log, log_andThen f, perform_issue]
    rfl

/-- Nothing passes behind a script if nothing passes in what follows it. -/
theorem log_andThen_silent {f : α → Script β} (hf : ∀ a s, (f a).log s = []) (p : Script α) (s : System) :
    (p.andThen f).log s = p.log s := by
  rw [log_andThen]
  split
  · rw [hf, List.append_nil]
  · exact List.append_nil _

/-- One question, and what follows it. -/
theorem log_askAll_singleton (q : Question) (f : List (Except Failure Answer) → Script β) (s : System) :
    ((askAll [q]).andThen f).log s = .statement q ((Client.execute q.sql q.bindings).perform s).1 ::
      (f [((Client.execute q.sql q.bindings).perform s).1]).log ((Client.execute q.sql q.bindings).perform s).2 := rfl

end Script

/-! ### Statements with a range -/

namespace Compile

open Layout

variable {table : String} {i : Intent}

theorem range_eq_ok {limit offset : Nat} (hlimit : i.limit = .int limit) (hpos : 1 ≤ limit)
    (hoffset : i.offset = .int offset ∨ i.offset = .null ∧ offset = 0) :
    ∃ tail, range i = .ok tail ∧ tail.sql = " LIMIT ?" ++ (if offset = 0 then "" else " OFFSET ?") ∧
      tail.bindings = .int limit :: if offset = 0 then [] else [.int offset] := by
  have hlimited : i.limit.isTruthy = true := by
    rw [hlimit, Value.isTruthy_int]
    omega
  have htoInt : i.limit.toInt = .ok (limit : Int) := by
    rw [hlimit]
    rfl
  by_cases hzero : offset = 0
  · have hnone : i.offset.isTruthy = false := by
      rcases hoffset with h | ⟨h, -⟩ <;> simp [h, hzero, Value.isTruthy]
    refine ⟨[.text " LIMIT ", .slot (.int limit)], ?_, ?_, ?_⟩
    · rw [range, hlimited, htoInt, ok_bind, hnone]
      rfl
    · rw [if_pos hzero]
      rfl
    · rw [if_pos hzero]
      rfl
  · have hsome : i.offset = .int offset := hoffset.resolve_right fun h => hzero h.2
    have htruthy : i.offset.isTruthy = true := by
      rw [hsome, Value.isTruthy_int]
      omega
    have htoInt' : i.offset.toInt = .ok (offset : Int) := by
      rw [hsome]
      rfl
    refine ⟨[.text " LIMIT ", .slot (.int limit), .text " OFFSET ", .slot (.int offset)], ?_, ?_, ?_⟩
    · rw [range, hlimited, htoInt, ok_bind, htruthy, htoInt', ok_bind]
      rfl
    · rw [if_neg hzero]
      rfl
    · rw [if_neg hzero]
      rfl

/-- The statement of a query with a range, in one text and its bindings. -/
theorem compile_ranged (hraw : i.rawQuery = none) {filtered : Layout}
    (hfiltered : conditions table i.conditions = .ok filtered) {limit offset : Nat} (hlimit : i.limit = .int limit)
    (hpos : 1 ≤ limit) (hoffset : i.offset = .int offset ∨ i.offset = .null ∧ offset = 0) :
    ∃ l, { i with action := .known .select }.compile table = .ok l ∧
      (⟨l.sql, l.bindings⟩ : Question) =
        rangedQuestion (selectList table i) (i.source table filtered) (ordering table i) limit offset := by
  obtain ⟨tail, htail, hsql, hbindings⟩ := range_eq_ok hlimit hpos hoffset
  have hstatement : statement table .select { i with action := .known .select } =
      .ok (words ("SELECT " ++ selectList table i ++ " FROM " ++ table) ++
        words (String.join (i.joins.map (joinText table))) ++ filtered ++ words (grouping i ++ ordering table i) ++
        tail) :=
    statement_eq_ok.2 ⟨_, filtered, tail, rfl, hfiltered, htail, rfl⟩
  refine ⟨_, (Intent.compile_eq_ok (by rw [hraw]; rfl)).2 ⟨.select, rfl, hstatement⟩, ?_⟩
  have hwords (text : String) : (words text).bindings = [] := rfl
  rw [rangedQuestion, Question.mk.injEq]
  constructor
  · rw [sql] at hsql
    simp only [Intent.source, sql, render_append, render_words, hsql, String.append_assoc]
  · simp only [Intent.source, bindings_append, hwords, hbindings, List.nil_append, List.append_nil]

/-- A query whose conditions have no statement has none. -/
theorem compile_error (hraw : i.rawQuery = none) {e : Failure} (h : conditions table i.conditions = .error e) :
    { i with action := .known .select }.compile table = .error e := by
  rw [Intent.compile, hraw]
  dsimp only
  rw [statement, head, ok_bind, h]
  rfl

end Compile

namespace Terminal

variable {env : Surroundings} {s : Schema} {i : Intent} {sys : System}

/-! ### Reads -/

theorem log_scriptedRead_eq : (scriptedRead env s i).script.log sys =
    (Script.ofRounds (read env.classes maxDepth s { i with action := .known .select })).log sys :=
  Script.log_andThen_silent (fun _ _ => rfl) _ _

/-- A read whose intent has no statement sends nothing. -/
theorem log_scriptedRead_error {e : Failure} (h : { i with action := .known .select }.compile s.tableName = .error e) :
    (scriptedRead env s i).script.log sys = [] ∧ ((runRead env s i).perform sys).1 = .error e := by
  have hread : read env.classes maxDepth s { i with action := .known .select } = .done ⟨0, .error e⟩ := by
    rw [show maxDepth = 999 + 1 from rfl, Hydration.read, h]
  constructor
  · rw [log_scriptedRead_eq, hread]
    rfl
  · rw [runRead, hread]
    rfl

/-- A read sends its statement, and behind it only what its relations ask. -/
theorem log_scriptedRead {l : Layout} (h : { i with action := .known .select }.compile s.tableName = .ok l) :
    ∃ answer related, (scriptedRead env s i).script.log sys = .statement ⟨l.sql, l.bindings⟩ answer :: related ∧
      (i.relations = [] → related = []) := by
  rw [log_scriptedRead_eq, show maxDepth = 999 + 1 from rfl, Hydration.read, h]
  dsimp only
  rw [Script.ofRounds, Script.log_askAll_singleton]
  refine ⟨_, _, rfl, fun hrelations => ?_⟩
  generalize ((Client.execute l.sql l.bindings).perform sys).1 = answer
  cases answer with
  | error e => rfl
  | ok answer =>
    dsimp only
    cases rows? answer with
    | none => rfl
    | some rows =>
      dsimp only
      rw [hrelations, finish, if_pos (by simp)]
      rfl

/-- The rows that are not deleted, in a range: one statement, and behind it only what relations ask. -/
theorem log_rows (hraw : i.rawQuery = none) {filtered : Layout}
    (hfiltered : Compile.conditions s.tableName (s.scoped i) = .ok filtered) {limit offset : Nat}
    (hlimit : i.limit = .int limit) (hpos : 1 ≤ limit)
    (hoffset : i.offset = .int offset ∨ i.offset = .null ∧ offset = 0) :
    ∃ answer related, (scriptedRead env s (withoutDeleted s i)).script.log sys =
        .statement (rangedQuestion (Compile.selectList s.tableName i) (i.source s.tableName filtered)
          (Compile.ordering s.tableName i) limit offset) answer :: related ∧
      (i.relations = [] → related = []) := by
  rw [Contents.withoutDeleted_eq, ← Schema.scoped]
  obtain ⟨l, hl, hquestion⟩ := Compile.compile_ranged (i := { i with conditions := s.scoped i }) hraw hfiltered hlimit
    hpos hoffset
  obtain ⟨answer, related, hlog, hrelated⟩ := @log_scriptedRead env s _ sys _ hl
  exact ⟨answer, related, hlog.trans (congrArg (Exchange.statement · answer :: related) hquestion), hrelated⟩

/-- Without a statement for the conditions nothing is sent. -/
theorem log_rows_error (hraw : i.rawQuery = none) {e : Failure}
    (h : Compile.conditions s.tableName (s.scoped i) = .error e) :
    (scriptedRead env s (withoutDeleted s i)).script.log sys = [] ∧ ((rows env s i).perform sys).1 = .error e := by
  rw [rows, Contents.withoutDeleted_eq, ← Schema.scoped]
  exact log_scriptedRead_error (Compile.compile_error (i := { i with conditions := s.scoped i }) hraw h)

/-- What a page sends: what the read of its rows does, and if that succeeds, what the read of its count does. -/
theorem log_scriptedPage {page perPage : Value} {number : Number} {length offset : Value}
    (hpage : pageOf s i page perPage = .ok (number, length)) (hoffset : offsetOf number length = .ok offset) :
    (scriptedPage env s i page perPage).script.log sys =
      (scriptedRead env s (withoutDeleted s { i with limit := length, offset := offset })).script.log sys ++
        match (rows env s { i with limit := length, offset := offset }).perform sys with
        | (.ok _, t) =>
          (scriptedRead env s (withoutDeleted s { counting { i with limit := .null, offset := .null } with
            limit := .int 1 })).script.log t
        | (.error _, _) => [] := by
  have hsilent {α β : Type} (r : Except Failure α) {f : α → Script β} (hf : ∀ a s, (f a).log s = []) (t : System) :
      ((Script.done r).andThen f).log t = [] := by
    rw [Script.log_andThen_silent hf]
    rfl
  have hcount (t : System) : (scriptedCount env s { i with limit := .null, offset := .null }).script.log t =
      (scriptedRead env s (withoutDeleted s { counting { i with limit := .null, offset := .null } with
        limit := .int 1 })).script.log t :=
    (Script.log_andThen_silent (fun _ _ => rfl) _ t).trans (Script.log_andThen_silent (fun _ _ => rfl) _ t)
  have hperform : (rows env s { i with limit := length, offset := offset }).perform sys = _ :=
    (scriptedRead env s (withoutDeleted s { i with limit := length, offset := offset })).performs sys
  rw [scriptedPage, hperform]
  simp only [Operation.Scripted.bind, Operation.Scripted.ofResult, hpage, hoffset, Script.andThen]
  rw [Script.log_andThen]
  generalize (scriptedRead env s (withoutDeleted s { i with limit := length, offset := offset })).script.perform.perform
    sys = first
  obtain ⟨outcome, t⟩ := first
  cases outcome with
  | error e => rfl
  | ok data =>
    dsimp only
    -- behind the count there is only arithmetic
    rw [Script.log_andThen_silent fun total t => hsilent (pagesOf total length)
      (fun pages t => hsilent _ (fun after t => hsilent _ (fun before t => rfl) t) t) t]
    exact congrArg _ (hcount t)

/-! ### Number and length -/

theorem argumentInt_ofInt? (n : Option Int) : argumentInt (Value.ofInt? n) = .ok (n.getD 0) := by
  cases n with
  | none => rfl
  | some n =>
    rw [argumentInt, Value.ofInt?]
    split <;> rename_i h
    · rfl
    · rw [Value.isTruthy_int, not_not] at h
      exact congrArg Except.ok h.symm

/-- A number that is there and not zero, or else another one. -/
theorem firstTrue_ofInt? (n : Option Nat) (m : Int) :
    firstTrue (Value.ofInt? (n.map Int.ofNat)) (.int m) = .int (if n.getD 0 = 0 then m else n.getD 0) := by
  cases n with
  | none => rfl
  | some n => cases n <;> rfl

/-- The rows before the page that an offset is on. -/
theorem floorDiv_natCast (offset : Nat) {length : Nat} (hlength : 1 ≤ length) :
    (Number.whole offset).floorDiv (.whole length) = .ok (.whole (offset / length : Nat)) := by
  have hnonzero : ((length : Int) == 0) = false := by simp; omega
  have hquotient : (offset : Int).fdiv length = (offset / length : Nat) := by
    rw [Int.fdiv_eq_ediv_of_nonneg _ (Int.natCast_nonneg length), Int.natCast_ediv]
  rw [Number.floorDiv, hnonzero, hquotient]
  rfl

/-- The page of a chain whose limit and offset are numbers that are not negative, or are not set. -/
theorem pageOf_range {q : Int} (hperPage : s.perPage = .int q) (hq : 1 ≤ q) {limit offset : Option Nat}
    (hlimit : i.limit = Value.ofInt? (limit.map Int.ofNat)) (hoffset : i.offset = Value.ofInt? (offset.map Int.ofNat))
    (asked askedLength : Option Int) :
    ∃ before perPage : Nat, PageRange limit offset asked askedLength (before + 1) perPage ∧
      pageOf s i (Value.ofInt? asked) (Value.ofInt? askedLength) = .ok (.whole (before + 1 : Nat), .int perPage) := by
  -- the length that the chain makes
  obtain ⟨length, hlength, hpos, hlimited⟩ : ∃ length : Nat, firstTrue i.limit s.perPage = .int length ∧ 1 ≤ length ∧
      ∀ l, limit = some l → 1 ≤ l → length = l := by
    rw [hlimit, hperPage, firstTrue_ofInt?]
    split <;> rename_i hzero
    · refine ⟨q.toNat, by rw [Int.toNat_of_nonneg (by omega)], by omega, ?_⟩
      rintro l rfl hl
      exact absurd hzero (Nat.ne_of_gt hl)
    · refine ⟨limit.getD 0, rfl, by omega, ?_⟩
      rintro l rfl -
      rfl
  -- the number that the chain makes with it
  have hoffset' : firstTrue i.offset (.int 0) = .int (offset.getD 0 : Nat) := by
    rw [hoffset, firstTrue_ofInt?]
    split <;> rename_i hzero
    · rw [hzero]
      rfl
    · rfl
  have hderived : calculate ((Number.whole (offset.getD 0 : Nat)).floorDiv (.whole length)) =
      .ok (.whole (offset.getD 0 / length : Nat)) := by
    rw [floorDiv_natCast _ hpos]
    rfl
  have hdivision : length * (offset.getD 0 / length) + offset.getD 0 % length = offset.getD 0 := Nat.div_add_mod _ _
  have hmod : offset.getD 0 % length < length := Nat.mod_lt _ hpos
  refine ⟨if asked.getD 0 < 1 then offset.getD 0 / length else (asked.getD 0 - 1).toNat,
    if askedLength.getD 0 < 1 then length else (askedLength.getD 0).toNat, ⟨?_, ?_, ?_, ?_, ?_⟩, ?_⟩
  · omega
  · split <;> omega
  · rintro n rfl hn
    rw [Option.getD_some, if_neg (by omega)]
    omega
  · rintro n rfl hn
    rw [Option.getD_some, if_neg (by omega)]
    omega
  · intro hnumber hshort l hl hl'
    rw [if_pos hnumber, if_pos hshort, Nat.add_sub_cancel, Nat.mul_comm, Nat.succ_mul, Nat.mul_comm _ length]
    exact ⟨hlimited l hl hl', by omega, by omega⟩
  · rw [pageOf, argumentInt_ofInt?, argumentInt_ofInt?, ok_bind, ok_bind, hlength, hoffset']
    dsimp only
    have hshown : (if askedLength.getD 0 < 1 then Value.int length else .int (askedLength.getD 0)) =
        .int (if askedLength.getD 0 < 1 then length else (askedLength.getD 0).toNat : Nat) := by
      split
      · rfl
      · rw [Int.toNat_of_nonneg (by omega)]
    rw [hshown]
    split <;> rename_i hnumber
    · have hnumberOf (n : Nat) : numberOf (.int n) = .ok (.whole n) := rfl
      rw [hnumberOf, hnumberOf, ok_bind, ok_bind, hderived]
      rfl
    · have hasked : asked.getD 0 = ((asked.getD 0 - 1).toNat + 1 : Nat) := by omega
      rw [← hasked]
      rfl

/-- A page whose rows cannot be read fails as they do. -/
theorem readPage_unread {page perPage : Value} {number : Number} {length offset : Value} {e : Failure}
    (hpage : pageOf s i page perPage = .ok (number, length)) (hoffset : offsetOf number length = .ok offset)
    (h : ((rows env s { i with limit := length, offset := offset }).perform sys).1 = .error e) :
    ((readPage env s i page perPage).perform sys).1 = .error e := by
  rw [readPage, Operation.perform_bind, Operation.perform_ofResult, hpage]
  dsimp only
  rw [Operation.perform_bind, Operation.perform_ofResult, hoffset]
  dsimp only
  rw [Operation.perform_bind]
  generalize (rows env s { i with limit := length, offset := offset }).perform sys = first at h ⊢
  obtain ⟨_, t⟩ := first
  dsimp only at h
  subst h
  rfl

/-- What a page reports about itself. -/
theorem reported_pageAround {data : Answer} {total : Int} {page : Number} {perPage : Value} {p : Page}
    (h : pageAround data total page perPage = .ok p) : p.page = page ∧ p.perPage = perPage := by
  obtain ⟨pages, -, h⟩ := bind_eq_ok.1 h
  obtain ⟨after, -, h⟩ := bind_eq_ok.1 h
  obtain ⟨before, -, h⟩ := bind_eq_ok.1 h
  cases h
  exact ⟨rfl, rfl⟩

/-! ### Pages -/

/-- A chain that ends with a page comes to what its page is. -/
theorem finish_paginate (classes : Catalogue) (s : Schema) (calls : List ChainCall) (env : Surroundings)
    (page perPage : Value) (sys : System) :
    let m := Model.called classes ⟨s, .empty⟩ calls
    (m.finish env (.paginate page perPage) sys).2.1 =
      ((readPage env s m.intent page perPage).perform sys).1.map .page := by
  refine (congrArg Prod.fst (Chain.finish_called ..)).trans ?_
  rw [(does_run env s _ _).perform_eq, Operation.perform_map]

theorem log_paginate (page perPage : Value) :
    ((Terminal.paginate page perPage).scripted env s i).script.log sys =
      (scriptedPage env s i page perPage).script.log sys :=
  Script.log_andThen_silent (fun _ _ => rfl) _ _

section
variable {page perPage : Value} {before length : Nat}

/-- A page without a statement for its conditions fails as these do, and sends nothing. -/
theorem log_page_unfiltered (hraw : i.rawQuery = none) {e : Failure}
    (hfiltered : Compile.conditions s.tableName (s.scoped i) = .error e)
    (hpage : pageOf s i page perPage = .ok (.whole (before + 1 : Nat), .int length)) :
    ((readPage env s i page perPage).perform sys).1 = .error e ∧
      ((Terminal.paginate page perPage).scripted env s i).script.log sys = [] := by
  have hoffset := Contents.offsetOf_int length before
  obtain ⟨hnothing, hrows⟩ := @log_rows_error env s (i.ranged length (before * length)) sys hraw e hfiltered
  refine ⟨readPage_unread hpage hoffset hrows, ?_⟩
  rw [log_paginate, log_scriptedPage hpage hoffset, ← Intent.ranged, hnothing, List.nil_append]
  generalize (rows env s (i.ranged length (before * length))).perform sys = first at hrows ⊢
  obtain ⟨_, after⟩ := first
  dsimp only at hrows
  rw [hrows]

/-- A page sends the statement of its rows, and behind it only what their relations ask, and then the one that counts
unless the rows fail. -/
theorem log_page (hraw : i.rawQuery = none) {filtered : Layout}
    (hfiltered : Compile.conditions s.tableName (s.scoped i) = .ok filtered) (hlength : 1 ≤ length)
    (hpage : pageOf s i page perPage = .ok (.whole (before + 1 : Nat), .int length)) :
    let log := ((Terminal.paginate page perPage).scripted env s i).script.log sys
    let source := i.source s.tableName filtered
    let data := rangedQuestion (Compile.selectList s.tableName i) source (Compile.ordering s.tableName i) length
      (before * length)
    ∃ answer related, (i.relations = [] → related = []) ∧
      (log = .statement data answer :: related ∧ (∃ e, ((readPage env s i page perPage).perform sys).1 = .error e) ∨
        ∃ counted, log = .statement data answer :: related ++
          [.statement (rangedQuestion "COUNT(*) as count" source "" 1 0) counted]) := by
  intro log source data
  have hoffset := Contents.offsetOf_int length before
  have hlog : log = _ := (log_paginate page perPage).trans (log_scriptedPage hpage hoffset)
  obtain ⟨answer, related, hread, hrelated⟩ := @log_rows env s (i.ranged length (before * length)) sys hraw filtered
    hfiltered length (before * length) rfl hlength (.inl rfl)
  refine ⟨answer, related, hrelated, ?_⟩
  rw [hlog, ← Intent.ranged, hread]
  cases hrows : (rows env s (i.ranged length (before * length))).perform sys with
  | mk outcome after =>
    cases outcome with
    | error e => exact .inl ⟨List.append_nil _, e, readPage_unread hpage hoffset (congrArg Prod.fst hrows)⟩
    | ok rows =>
      -- the count asks for one row, and for no relations
      obtain ⟨counted, none, hcount, hnone⟩ := @log_rows env s
        { counting { i with limit := .null, offset := .null } with limit := .int 1 } after hraw filtered hfiltered 1 0
        rfl le_rfl (.inr ⟨rfl, rfl⟩)
      rw [hnone rfl] at hcount
      exact .inr ⟨counted, congrArg (_ ++ ·) hcount⟩

end

end Terminal

open Terminal Compile

/-- Any chain on a class with a length of pages of at least one, of which limit and offset are numbers that are not
negative or are not set, and its end by a page of any number and any length, or of none. The statement of its rows has
its columns and its order, and the range of the page; the one that counts has the same source, and neither an order nor
an offset. Without a statement for the conditions nothing is sent. -/
theorem statements_of_page (s : Schema) {q : Int} (hperPage : s.perPage = .int q) (hq : 1 ≤ q) (classes : Catalogue)
    (calls : List ChainCall) {limit offset : Option Nat}
    (hlimit : (Model.called classes ⟨s, .empty⟩ calls).intent.limit = Value.ofInt? (limit.map Int.ofNat))
    (hoffset : (Model.called classes ⟨s, .empty⟩ calls).intent.offset = Value.ofInt? (offset.map Int.ofNat))
    (asked askedLength : Option Int) (env : Surroundings) (sys : System) :
    let m := Model.called classes ⟨s, .empty⟩ calls
    let t := Terminal.paginate (Value.ofInt? asked) (Value.ofInt? askedLength)
    let finished := (m.finish env t (Session.fresh sys)).2.1
    let log := (t.scripted env s m.intent).script.log (Session.fresh sys)
    ∃ page perPage : Nat, PageRange limit offset asked askedLength page perPage ∧
      (∀ p, finished = .ok (.page p) → p.page = .whole page ∧ p.perPage = .int perPage) ∧
      match conditions s.tableName (s.scoped m.intent) with
      | .error e => finished = .error e ∧ log = []
      | .ok filtered =>
        let source := m.intent.source s.tableName filtered
        let data := rangedQuestion (selectList s.tableName m.intent) source (ordering s.tableName m.intent) perPage
          ((page - 1) * perPage)
        let count := rangedQuestion "COUNT(*) as count" source "" 1 0
        ∃ answer related, (m.intent.relations = [] → related = []) ∧
          (log = .statement data answer :: related ∧ (∃ e, finished = .error e) ∨
            ∃ counted, log = .statement data answer :: related ++ [.statement count counted]) := by
  intro m t finished log
  have hraw : m.intent.rawQuery = none := (Chain.isChained_called classes s calls).rawQuery
  have hfinished : finished = _ := finish_paginate classes s calls env _ _ (Session.fresh sys)
  obtain ⟨before, perPage, hrange, hpage⟩ := pageOf_range hperPage hq hlimit hoffset asked askedLength
  refine ⟨before + 1, perPage, hrange, fun p hp => ?_, ?_⟩
  · rw [hfinished, map_eq_ok] at hp
    obtain ⟨_, hp, ⟨⟩⟩ := hp
    obtain ⟨number, length, offset, data, total, hnumber, -, -, -, hp⟩ := readPage_eq_ok hp
    cases hpage.symm.trans hnumber
    exact reported_pageAround hp
  · cases hfiltered : conditions s.tableName (s.scoped m.intent) with
    | error e =>
      obtain ⟨hfails, hnothing⟩ := @log_page_unfiltered env s m.intent (Session.fresh sys) _ _ _ _ hraw e hfiltered hpage
      exact ⟨hfinished.trans (congrArg (Except.map Result.page) hfails), hnothing⟩
    | ok filtered =>
      obtain ⟨answer, related, hrelated, hlog⟩ := @log_page env s m.intent (Session.fresh sys) _ _ _ _ hraw filtered
        hfiltered hrange.perPage_pos hpage
      refine ⟨answer, related, hrelated, hlog.imp_left (And.imp_right ?_)⟩
      rintro ⟨e, hfails⟩
      exact ⟨e, hfinished.trans (congrArg (Except.map Result.page) hfails)⟩

/-- Users above an age, kept when they are deleted, in pages of three of which one has the row behind the first
seven. -/
def pagedUsers : Model :=
  Model.called .start ⟨{ userSchema with softDelete := true }, .empty⟩
    [.whereArgs .and [.text "age", .int 40], .orderBy "id" (.text "DESC"), .limit (.int 3) (.int 7)]

/-- The third page of such users. -/
theorem statements_of_third_page :
    let source := " FROM users WHERE users.age = ? AND users.deleted_at IS NULL"
    let log := ((Terminal.paginate .null .null).scripted ⟨.start, default⟩ pagedUsers.schema
      pagedUsers.intent).script.log (Session.fresh (answering [[[("id", .int 1)]], [[("count", .int 7)]]]))
    (pagedUsers.schema.perPage = .int 10 ∧ pagedUsers.intent.limit = Value.ofInt? ((some 3).map Int.ofNat) ∧
        pagedUsers.intent.offset = Value.ofInt? ((some 7).map Int.ofNat)) ∧
      ∃ answer counted, log =
        [.statement ⟨"SELECT users.*" ++ source ++ " ORDER BY users.id DESC LIMIT ? OFFSET ?",
            [.int 40, .int 3, .int 6]⟩ answer,
          .statement ⟨"SELECT COUNT(*) as count" ++ source ++ " LIMIT ?", [.int 40, .int 1]⟩ counted] := by
  intro source log
  have hlimit : pagedUsers.intent.limit = Value.ofInt? ((some 3).map Int.ofNat) := rfl
  have hoffset : pagedUsers.intent.offset = Value.ofInt? ((some 7).map Int.ofNat) := rfl
  refine ⟨⟨rfl, hlimit, hoffset⟩, ?_⟩
  obtain ⟨page, perPage, hrange, -, hlog⟩ := statements_of_page { userSchema with softDelete := true } rfl
    (by decide : (1 : Int) ≤ 10) .start
    [.whereArgs .and [.text "age", .int 40], .orderBy "id" (.text "DESC"), .limit (.int 3) (.int 7)]
    hlimit hoffset none none ⟨.start, default⟩
    (answering [[[("id", .int 1)]], [[("count", .int 7)]]])
  obtain ⟨rfl, hlow, hhigh⟩ := hrange.derived (by decide) (by decide) 3 rfl (by decide)
  have hlow' : (page - 1) * 3 ≤ 7 := hlow
  have hhigh' : 7 < page * 3 := hhigh
  obtain rfl : page = 3 := by omega
  split at hlog
  · rename_i e herror
    cases herror
  · rename_i filtered hfiltered
    cases hfiltered
    obtain ⟨answer, related, hrelated, ⟨-, e, hfails⟩ | ⟨counted, hall⟩⟩ := hlog
    · cases hfails
    · rw [hrelated rfl, List.singleton_append] at hall
      exact ⟨answer, counted, hall⟩

end RecordMapper
