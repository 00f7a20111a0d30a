import RecordMapper.Proofs.IntegerTexts
import RecordMapper.Proofs.ShownRows

/-!
Counts. The row that the store gives for a count goes the way of all rows: a cast of a column `count` converts it, and
a class that hides such a column loses it. Main statement: the number that a count reports, and the total of a page, are
the store's exactly if the class does not hide the column and its cast, if there is one, leaves the number readable.
-/
namespace RecordMapper

/-! ### Rows with one column -/

namespace Casts

/-- Casts of columns that are not there change nothing. -/
theorem apply_of_absent {direction : Direction} {row : Row} : ∀ {casts : Casts},
    (∀ c ∈ casts.map Prod.fst, (Row.value row c).isNull = true) → apply direction casts row = .ok row
  | [], _ => rfl
  | (c, tag) :: rest, h => by
    obtain ⟨hc, hrest⟩ := List.forall_mem_cons.1 h
    rw [apply, applyOne, if_pos hc]
    exact apply_of_absent hrest

/-- What the cast of a column makes of a value; a column without cast keeps it. -/
def converted (direction : Direction) (casts : Casts) (column : String) (v : Value) : Except Failure Value :=
  match casts.lookup column with
  | none => .ok v
  | some tag => match Cast.ofName? tag with
    | none => .error (.ofFault (.usage "<casts>" (unknown tag column) []))
    | some cast => cast.convert direction column v

/-- A row with one column goes through the cast of that column. -/
theorem apply_singleton (direction : Direction) (column : String) {v : Value} (hv : v.isNull = false) :
    ∀ {casts : Casts}, (casts.map Prod.fst).Nodup →
      apply direction casts [(column, v)] = (converted direction casts column v).map fun w => [(column, w)]
  | [], _ => rfl
  | (c, tag) :: rest, hcasts => by
    obtain ⟨hc, hrest⟩ := List.nodup_cons.1 hcasts
    have hvalue (w : Value) (d : String) : Row.value [(column, w)] d = if column = d then w else .null := by
      rw [Row.value, Row.value?]
      split <;> rfl
    by_cases hcolumn : column = c
    · subst hcolumn
      rw [apply, applyOne, hvalue, if_pos rfl, if_neg (by simp [hv]), converted, List.lookup_cons_self]
      cases hcast : Cast.ofName? tag with
      | none => simp only [hcast]; rfl
      | some cast =>
        simp only [hcast]
        cases cast.convert direction column v with
        | error e => rfl
        | ok w =>
          -- the casts behind it are of other columns
          have habsent : ∀ d ∈ rest.map Prod.fst, (Row.value [(column, w)] d).isNull = true := by
            intro d hd
            rw [hvalue, if_neg (show column ≠ d from fun h => hc (h ▸ hd))]
            rfl
          have hset : Row.set column w [(column, v)] = [(column, w)] := if_pos rfl
          exact (congrArg (apply direction rest) hset).trans (apply_of_absent habsent)
    · have hlookup : List.lookup column ((c, tag) :: rest) = rest.lookup column := by
        rw [List.lookup_cons, beq_eq_false_iff_ne.2 hcolumn]
      have hsame : applyOne direction [(column, v)] c tag = .ok [(column, v)] := by
        rw [applyOne, hvalue, if_neg hcolumn]
        rfl
      rw [apply, hsame, converted, hlookup]
      exact apply_singleton direction column hv hrest

end Casts

/-! ### The row of a count -/

/-- The cast leaves a count readable as the same number. -/
def Cast.KeepsCount : Cast → Nat → Prop
  | json, _ | number, _ => True
  | boolean, n => n ≤ 1
  | date, _ => False
  | float, n => Binary64.truncate? (Binary64.ofInt n) = some (n : Int)
  | string, n => (toString n).length ≤ Numeral.maxDigits

/-- A class reports the store's count: a cast of the column `count` keeps it, and it is not hidden unless it is zero. -/
structure Schema.ReportsCount (s : Schema) (n : Nat) : Prop where
  cast : ∀ tag, s.castList.lookup "count" = some tag →
    ∃ c, Cast.ofName? tag = some c ∧ ("count" ∉ s.hidden → c.KeepsCount n)
  hidden : "count" ∈ s.hidden → n = 0

/-- The number that stands in a column; a null is zero. -/
def Value.counted (v : Value) : Except Failure Int := if v.isNull then .ok 0 else v.toInt

theorem Value.counted_text (s : String) :
    (text s).counted = (Numeral.readInt s.toList).mapError (integerFailure (Text.quoted s)) := rfl

namespace Cast

/-- A float that is a whole number is none of the special ones. -/
theorem truncate_real_eq_ok {x : Float} {k : Int} :
    Number.truncate (.real x) = .ok k ↔ Binary64.truncate? x = some k := by
  rw [Number.truncate, Binary64.truncate?]
  cases Binary64.parts x <;> simp

theorem isFinite_of_truncate? {x : Float} {k : Int} (h : Binary64.truncate? x = some k) :
    Binary64.isFinite x = true := by
  rw [Binary64.truncate?] at h
  rw [Binary64.isFinite]
  cases hx : Binary64.parts x <;> simp [hx] at h ⊢

/-- What a cast makes of a count is read as the same number exactly if the cast keeps it. -/
theorem keepsCount_iff (cast : Cast) (n : Nat) :
    (cast.convert .fromStorage "count" (.int n) >>= Value.counted) = .ok (n : Int) ↔ cast.KeepsCount n := by
  cases cast with
  | json | number => exact ⟨fun _ => trivial, fun _ => rfl⟩
  | boolean =>
    change Except.ok (if (n : Int) != 0 then (1 : Int) else 0) = .ok (n : Int) ↔ n ≤ 1
    rw [Except.ok.injEq]
    by_cases hzero : n = 0
    · simp [hzero]
    · simp only [bne_iff_ne, ne_eq, Int.natCast_eq_zero, hzero, not_false_eq_true, if_true]
      omega
  | date =>
    rw [convert, readDate, KeepsCount, iff_false]
    cases Moment.ofEpoch n 0 <;> nofun
  | float =>
    rw [convert, castFloat, toFloat, Number.floatOfInt, KeepsCount]
    cases hfinite : Binary64.isFinite (Binary64.ofInt n) with
    | false =>
      constructor
      · intro h
        cases h
      · intro h
        rw [isFinite_of_truncate? h] at hfinite
        cases hfinite
    | true =>
      rw [← truncate_real_eq_ok, if_pos rfl, ok_bind]
      change (Number.truncate (.real (Binary64.ofInt n))).mapError Value.numberFailure = _ ↔ _
      cases Number.truncate (.real (Binary64.ofInt n)) <;> simp [Except.mapError]
  | string =>
    have hshown : (Value.int n).shown = toString n := by
      rw [Value.shown, Value.quoted]
      · rfl
      all_goals nofun
    have hlong : Numeral.isTooLong n = decide (Numeral.maxDigits < (toString n).length) := by
      rw [Numeral.isTooLong, Int.natAbs_natCast, ← String.length_toList, Numeral.toList_toString_nat]
    have hcast : castString (.int n) = (shownText (.int n)).map .text := rfl
    rw [convert, hcast, shownText, checkText, Value.checkShown, hshown, hlong, KeepsCount]
    by_cases hlength : (toString n).length ≤ Numeral.maxDigits
    · rw [decide_eq_false (Nat.not_lt.2 hlength), if_neg Bool.false_ne_true]
      simp only [Except.mapError, Except.map, ok_bind]
      rw [Value.counted_text, Numeral.readInt_toString, if_pos hlength]
      exact iff_of_true rfl hlength
    · rw [decide_eq_true (Nat.not_le.1 hlength), if_pos rfl]
      exact iff_of_false (fun h => by cases h) hlength

/-- Zero can be converted by every cast. -/
theorem exists_convert_zero (cast : Cast) : ∃ w, cast.convert .fromStorage "count" (.int 0) = .ok w := by
  cases cast <;> exact ⟨_, rfl⟩

end Cast

namespace Terminal

open Hydration

/-- The number that is counted in a row as it is read. -/
theorem countIn_finishRow {s : Schema} (hcasts : (s.castList.map Prod.fst).Nodup) (n : Int) :
    (finishRow s [] [("count", .int n)] >>= fun row => countIn (some row)) =
      (s.castList.converted .fromStorage "count" (.int n) >>= fun w =>
        if "count" ∈ s.hidden then .ok 0 else w.counted) := by
  rw [finishRow_eq, Casts.apply_singleton .fromStorage "count" rfl hcasts]
  cases s.castList.converted .fromStorage "count" (.int n) with
  | error e => rfl
  | ok w =>
    have hvalue : Row.value (Row.hide s.hidden [("count", w)]) "count" = if "count" ∈ s.hidden then .null else w := by
      rw [Row.value_hide]
      rfl
    rw [ok_bind]
    change countIn (some (Row.hide s.hidden [("count", w)])) = _
    rw [countIn, hvalue]
    split <;> rfl

/-- What is read of a count that a class hides is zero. -/
theorem hidden_count_iff (cast : Cast) (n : Nat) :
    (cast.convert .fromStorage "count" (.int n) >>= fun _ => Except.ok (0 : Int)) = .ok (n : Int) ↔ n = 0 := by
  constructor
  · intro h
    obtain ⟨_, -, h⟩ := bind_eq_ok.1 h
    exact_mod_cast (Except.ok.inj h).symm
  · rintro rfl
    obtain ⟨w, hw⟩ := cast.exists_convert_zero
    exact bind_eq_ok.2 ⟨w, hw, rfl⟩

/-- The row of a count has the store's number exactly if the class reports it. -/
theorem reportsCount_iff {s : Schema} (hcasts : (s.castList.map Prod.fst).Nodup) (n : Nat) :
    (finishRow s [] [("count", .int n)] >>= fun row => countIn (some row)) = .ok (n : Int) ↔ s.ReportsCount n := by
  rw [countIn_finishRow hcasts, Casts.converted]
  cases htag : s.castList.lookup "count" with
  | none =>
    have hreports : s.ReportsCount n ↔ ("count" ∈ s.hidden → n = 0) :=
      ⟨fun h => h.hidden, fun h => ⟨fun tag htag' => (by cases htag.symm.trans htag'), h⟩⟩
    rw [hreports, ok_bind]
    split <;> rename_i hhidden
    · refine ⟨fun h _ => by exact_mod_cast (Except.ok.inj h).symm, fun h => ?_⟩
      rw [h hhidden]
      rfl
    · exact iff_of_true rfl (absurd · hhidden)
  | some tag =>
    dsimp only
    cases hcast : Cast.ofName? tag with
    | none =>
      refine iff_of_false (fun h => by cases h) fun h => ?_
      obtain ⟨c, hc, -⟩ := h.cast tag htag
      cases hcast.symm.trans hc
    | some cast =>
      have hreports : s.ReportsCount n ↔
          ("count" ∉ s.hidden → cast.KeepsCount n) ∧ ("count" ∈ s.hidden → n = 0) := by
        constructor
        · intro h
          obtain ⟨c, hc, hkeeps⟩ := h.cast tag htag
          cases hcast.symm.trans hc
          exact ⟨hkeeps, h.hidden⟩
        · rintro ⟨hkeeps, hzero⟩
          refine ⟨fun other hother => ?_, hzero⟩
          cases htag.symm.trans hother
          exact ⟨cast, hcast, hkeeps⟩
      rw [hreports]
      by_cases hhidden : "count" ∈ s.hidden
      · simp only [hhidden, if_true, not_true, false_implies, true_implies, true_and]
        exact hidden_count_iff cast n
      · simp only [hhidden, if_false, not_false_eq_true, false_implies, true_implies, and_true]
        exact cast.keepsCount_iff n

variable {env : Surroundings} {s : Schema} {i : Intent} {sys : System}

/-! ### Reading a count -/

/-- A read without relations finishes the rows of the store's answer one by one. -/
theorem rows_unrelated (hrelations : i.relations = []) {raw : List Row}
    (h : Answered sys s.tableName { withoutDeleted s i with action := .known .select } (.rows raw)) :
    ((rows env s i).perform sys).1 = (raw.mapM (finishRow s [])).map .rows := by
  obtain ⟨l, hl, hanswer⟩ := h
  have hread : (read env.classes maxDepth s { withoutDeleted s i with action := .known .select }).perform.perform sys =
      (.ok ⟨0, (raw.mapM (finishRow s [])).map .rows⟩, ((Client.execute l.sql l.bindings).perform sys).2) := by
    rw [show maxDepth = 999 + 1 from rfl, Hydration.read, hl]
    dsimp only
    rw [Rounds.perform_ask (Rounds.perform_askAll_singleton ⟨l.sql, l.bindings⟩ sys), hanswer]
    dsimp only [rows?]
    rw [finish, relations_withoutDeleted, hrelations, if_pos (by simp)]
    rfl
  rw [rows, perform_runRead hread]

/-- What is asked for a count: the rows of a chain are counted without its order and its relations. -/
def countAsked (s : Schema) (i : Intent) : Intent :=
  { withoutDeleted s { counting i with limit := .int 1 } with action := .known .select }

/-- The number that is read where the store answers with one number. -/
theorem countRows_answered {n : Int} (h : Answered sys s.tableName (countAsked s i) (.rows [[("count", .int n)]])) :
    ((countRows env s i).perform sys).1 =
      (finishRow s [] [("count", .int n)] >>= fun row => countIn (some row)) := by
  have hone : [[("count", Value.int n)]].mapM (finishRow s []) =
      (finishRow s [] [("count", .int n)]).map fun row => [row] := by
    rw [List.mapM_cons]
    cases finishRow s [] [("count", .int n)] <;> rfl
  have hrows : ((rows env s { counting i with limit := .int 1 }).perform sys).1 = _ := rows_unrelated rfl h
  rw [hone] at hrows
  rw [countRows, Operation.perform_bind, firstRow, Operation.perform_bind]
  generalize (rows env s { counting i with limit := .int 1 }).perform sys = read at hrows
  obtain ⟨outcome, after⟩ := read
  dsimp only at hrows
  subst hrows
  cases finishRow s [] [("count", .int n)] <;> rfl

/-- Where the store has no row for a count, nothing is counted. -/
theorem countRows_nothing (h : Answered sys s.tableName (countAsked s i) (.rows [])) :
    ((countRows env s i).perform sys).1 = .ok 0 := by
  have hrows : ((rows env s { counting i with limit := .int 1 }).perform sys).1 = .ok (.rows []) := rows_unrelated rfl h
  rw [countRows, Operation.perform_bind, firstRow, Operation.perform_bind]
  generalize (rows env s { counting i with limit := .int 1 }).perform sys = read at hrows
  obtain ⟨outcome, after⟩ := read
  dsimp only at hrows
  subst hrows
  rfl

/-- A count reports the store's number exactly if the class does. -/
theorem countRows_eq_ok_iff (hcasts : (s.castList.map Prod.fst).Nodup) {n : Nat}
    (h : Answered sys s.tableName (countAsked s i) (.rows [[("count", .int n)]])) :
    ((countRows env s i).perform sys).1 = .ok (n : Int) ↔ s.ReportsCount n := by
  rw [countRows_answered h, reportsCount_iff hcasts]

/-- A page of rows among a number of rows in all. -/
def pageAround (data : Answer) (total : Int) (page : Number) (perPage : Value) : Except Failure Page := do
  let pages ← pagesOf total perPage
  let after ← calculate (page.add (.whole 1))
  let before ← calculate (page.sub (.whole 1))
  return {
    data := data
    total := total
    pages := pages
    page := page
    perPage := perPage
    nextPage := if page.lt (.whole pages) then some after else none
    prevPage := if (Number.whole 1).lt page && !(Number.whole pages).lt page then some before else none }

theorem total_pageAround {data : Answer} {total : Int} {page : Number} {perPage : Value} {p : Page}
    (h : pageAround data total page perPage = .ok p) : p.data = data ∧ p.total = total := by
  obtain ⟨pages, -, h⟩ := bind_eq_ok.1 h
  obtain ⟨after, -, h⟩ := bind_eq_ok.1 h
  obtain ⟨before, -, h⟩ := bind_eq_ok.1 h
  cases h
  exact ⟨rfl, rfl⟩

/-- What a page is made of: its number and its length, its rows, and the number of rows in all. -/
theorem readPage_eq_ok {page perPage : Value} {p : Page} (h : ((readPage env s i page perPage).perform sys).1 = .ok p) :
    ∃ number length offset data total, pageOf s i page perPage = .ok (number, length) ∧
      offsetOf number length = .ok offset ∧
      ((rows env s { i with limit := length, offset := offset }).perform sys).1 = .ok data ∧
      ((countRows env s { i with limit := .null, offset := .null }).perform
        ((rows env s { i with limit := length, offset := offset }).perform sys).2).1 = .ok total ∧
      pageAround data total number length = .ok p := by
  obtain ⟨⟨number, length⟩, hpage, h⟩ := Operation.perform_bind_eq_ok.1 h
  obtain ⟨offset, hoffset, h⟩ := Operation.perform_bind_eq_ok.1 h
  obtain ⟨data, hdata, h⟩ := Operation.perform_bind_eq_ok.1 h
  obtain ⟨total, htotal, h⟩ := Operation.perform_bind_eq_ok.1 h
  obtain ⟨pages, hpages, h⟩ := Operation.perform_bind_eq_ok.1 h
  obtain ⟨next, hnext, h⟩ := Operation.perform_bind_eq_ok.1 h
  obtain ⟨previous, hprevious, h⟩ := Operation.perform_bind_eq_ok.1 h
  cases h
  exact ⟨number, length, offset, data, total, hpage, hoffset, hdata, htotal,
    bind_eq_ok.2 ⟨pages, hpages, bind_eq_ok.2 ⟨next, hnext, bind_eq_ok.2 ⟨previous, hprevious, rfl⟩⟩⟩⟩

/-- A page whose number and length can be told is its rows, and then the number of rows in all. -/
theorem readPage_counted {page perPage : Value} {number : Number} {length offset : Value} {data : Answer}
    (hpage : pageOf s i page perPage = .ok (number, length)) (hoffset : offsetOf number length = .ok offset)
    (hdata : ((rows env s { i with limit := length, offset := offset }).perform sys).1 = .ok data) :
    ((readPage env s i page perPage).perform sys).1 =
      (((countRows env s { i with limit := .null, offset := .null }).perform
          ((rows env s { i with limit := length, offset := offset }).perform sys).2).1 >>= fun total =>
        pageAround data total number length) := by
  rw [readPage, Operation.perform_bind, Operation.perform_ofResult, hpage]
  dsimp only
  rw [Operation.perform_bind, Operation.perform_ofResult, hoffset]
  dsimp only
  rw [Operation.perform_bind]
  generalize (rows env s { i with limit := length, offset := offset }).perform sys = first at hdata ⊢
  obtain ⟨_, between⟩ := first
  dsimp only at hdata ⊢
  subst hdata
  dsimp only
  rw [Operation.perform_bind]
  generalize (countRows env s { i with limit := .null, offset := .null }).perform between = second
  obtain ⟨counted, after⟩ := second
  cases counted with
  | error e => rfl
  | ok total =>
    -- nothing is read any more
    change ((Operation.ofResult (pagesOf total length) >>= _ : Operation Page).perform after).1 =
      pageAround data total number length
    rw [Operation.perform_bind, Operation.perform_ofResult, pageAround]
    cases pagesOf total length with
    | error e => rfl
    | ok pages =>
      dsimp only
      rw [Operation.perform_bind, Operation.perform_ofResult]
      cases calculate (number.add (.whole 1)) with
      | error e => rfl
      | ok next =>
        dsimp only
        rw [Operation.perform_bind, Operation.perform_ofResult]
        cases calculate (number.sub (.whole 1)) <;> rfl

end Terminal

open Terminal Hydration

/-- The end of any chain by a count whose statement the store answers with a number, and by a page for which the second
statement is answered so. The count is the store's exactly if the class reports it: it does not hide a column `count`,
unless the number is zero, and a cast of such a column leaves the number readable. A class that reports it gets the
page that its arithmetic makes with this total, if it makes one; and whichever page there is has the store's total
exactly if the class reports it. -/
theorem count_reported_iff (s : Schema) (hcasts : (s.castList.map Prod.fst).Nodup) (classes : Catalogue)
    (calls : List ChainCall) (env : Surroundings) (sys : System) (n : Nat) :
    let i := (Model.called classes ⟨s, .empty⟩ calls).intent
    let finished := fun t => ((Model.called classes ⟨s, .empty⟩ calls).finish env t (Session.fresh sys)).2.1
    (Answered (Session.fresh sys) s.tableName (countAsked s i) (.rows [[("count", .int n)]]) →
      (finished .count = .ok (.number n) ↔ s.ReportsCount n)) ∧
    ∀ page perPage number length offset data,
      pageOf s i page perPage = .ok (number, length) → offsetOf number length = .ok offset →
      let first := (rows env s { i with limit := length, offset := offset }).perform (Session.fresh sys)
      first.1 = .ok data → Answered first.2 s.tableName (countAsked s i) (.rows [[("count", .int n)]]) →
      (s.ReportsCount n → finished (.paginate page perPage) = (pageAround data n number length).map .page) ∧
        ∀ p, finished (.paginate page perPage) = .ok (.page p) → (p.total = n ↔ s.ReportsCount n) := by
  intro i finished
  have hfinished (t : Terminal) : finished t = ((t.perform env s i).perform (Session.fresh sys)).1 :=
    congrArg Prod.fst (Chain.finish_called ..)
  constructor
  · intro hanswered
    rw [hfinished, (does_run env s i _).perform_eq, Operation.perform_map, ← countRows_eq_ok_iff hcasts hanswered,
      map_eq_ok]
    constructor
    · rintro ⟨_, h, ⟨⟩⟩
      exact h
    · intro h
      exact ⟨_, h, rfl⟩
  · intro page perPage number length offset data hpage hoffset first hdata hanswered
    have hcount := @countRows_eq_ok_iff env s { i with limit := .null, offset := .null } first.2 hcasts n hanswered
    rw [hfinished, (does_run env s i _).perform_eq, Operation.perform_map, readPage_counted hpage hoffset hdata]
    constructor
    · intro hreports
      rw [hcount.2 hreports]
      rfl
    · intro p hp
      obtain ⟨_, hp, ⟨⟩⟩ := map_eq_ok.1 hp
      obtain ⟨total, htotal, hp⟩ := bind_eq_ok.1 hp
      rw [(total_pageAround hp).2, ← hcount]
      constructor
      · rintro rfl
        exact htotal
      · intro h
        exact Except.ok.inj (htotal.symm.trans h)

/-- Users with these casts that hide these columns. -/
def countedUsers (casts : Casts) (hidden : List String) : Schema :=
  { userSchema with casts := some casts, hidden := hidden }

/-- How a class comes to the end of a chain without calls, where the store gives these rows. -/
def endOf (s : Schema) (answers : List (List Row)) (t : Terminal) : Except Failure Result :=
  ((Model.called Catalogue.start ⟨s, .empty⟩ []).finish ⟨.start, default⟩ t (Session.fresh (answering answers))).2.1

/-- Users that read counts as texts. -/
def textualUsers : Schema := countedUsers [("count", "string")] ["password"]

/-- A count that is cast to a text is read as the number all the same, and so is the total of a page. -/
theorem textualUsers_reported :
    endOf textualUsers [[[("count", .int 12)]]] .count = .ok (.number 12) ∧
      ∃ p, endOf textualUsers [[[("id", .int 1)]], [[("count", .int 12)]]] (.paginate (.int 1) (.int 5)) =
        .ok (.page p) ∧ p.total = 12 ∧ p.pages = 3 := by
  have hcasts : (textualUsers.castList.map Prod.fst).Nodup := by decide
  have hreports : textualUsers.ReportsCount 12 := by
    refine ⟨fun tag htag => ?_, fun h => absurd h (by decide)⟩
    cases htag
    exact ⟨.string, rfl, fun _ => show (toString 12).length ≤ Numeral.maxDigits by decide⟩
  constructor
  · have hanswered : Answered (Session.fresh (answering [[[("count", .int 12)]]])) textualUsers.tableName
        (countAsked textualUsers .empty) (.rows [[("count", .int 12)]]) := ⟨_, rfl, rfl⟩
    have hcount := (count_reported_iff textualUsers hcasts .start [] ⟨.start, default⟩ _ 12).1 hanswered
    exact hcount.2 hreports
  · have hanswered : Answered ((rows ⟨.start, default⟩ textualUsers
          { Intent.empty with limit := .int 5, offset := .int 0 }).perform
        (Session.fresh (answering [[[("id", .int 1)]], [[("count", .int 12)]]]))).2 textualUsers.tableName
        (countAsked textualUsers .empty) (.rows [[("count", .int 12)]]) := ⟨_, rfl, rfl⟩
    have hpage := (count_reported_iff textualUsers hcasts .start [] ⟨.start, default⟩
      (answering [[[("id", .int 1)]], [[("count", .int 12)]]]) 12).2 (.int 1) (.int 5) (.whole 1) (.int 5) (.int 0)
      (.rows [[("id", .int 1)]]) rfl rfl rfl hanswered
    exact ⟨_, hpage.1 hreports, rfl, rfl⟩

/-- A class that hides a column `count` counts no rows where the store counts five. -/
theorem hidden_count_is_lost :
    let s := countedUsers [] ["count"]
    Answered (Session.fresh (answering [[[("count", .int 5)]]])) s.tableName (countAsked s .empty)
        (.rows [[("count", .int 5)]]) ∧
      endOf s [[[("count", .int 5)]]] .count = .ok (.number 0) ∧
      endOf s [[[("count", .int 5)]]] .count ≠ .ok (.number 5) := by
  intro s
  have hzero : endOf s [[[("count", .int 5)]]] .count = .ok (.number 0) := rfl
  refine ⟨⟨_, rfl, rfl⟩, hzero, ?_⟩
  rw [hzero]
  nofun

end RecordMapper
