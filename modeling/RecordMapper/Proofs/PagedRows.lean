import Mathlib.Algebra.BigOperators.Group.Finset.Basic
import Mathlib.Data.List.Dedup
import RecordMapper.Proofs.Alternatives
import RecordMapper.Proofs.Counts

/-!
Pages and the rows among which they stand. `Contents` is what tables hold, and `Contents.select` is how a statement
that reads is read against it: the rows of a table with what is joined to them, those for which the conditions are
true, one group for each row or for all rows of one key, and of these, in order, as many as the range has. Main
statement: the total of a page is the number of rows that the same query has without a range if it does not group, and
then the pages hold all of them; if it groups, it is the size of the first group.
-/
namespace RecordMapper

open Hydration Terminal

/-- What tables hold, for statements that read. `ρ` is a row of a table with a row of each table that is joined to it,
and `κ` is what rows of one group have in common. The order may be any where a statement asks for none. -/
structure Contents (ρ κ : Type) where
  joined : String → List Join → List ρ
  truth : ρ → Layout → Truth
  key : List String → ρ → κ
  shown : String → List ρ → Row
  ordered : Option Order → List (List ρ) → List (List ρ)
  perm : ∀ order groups, (ordered order groups).Perm groups

/-- What a query counts with: the number of rows in each group. -/
def Intent.IsCount (i : Intent) : Prop := i.select = ["COUNT(*) as count"]

instance (i : Intent) : Decidable i.IsCount := inferInstanceAs (Decidable (_ = _))

/-- The items that the range of a query takes of all. An offset counts only with a limit. -/
def Intent.window {α : Type} (i : Intent) (items : List α) : List α :=
  let number (v : Value) : Nat := if v.isTruthy then (v.toInt.toOption.getD 0).toNat else 0
  if i.limit.isTruthy then (items.drop (number i.offset)).take (number i.limit) else items

/-- The query of a chain without a range. -/
def unpaged (s : Schema) (i : Intent) : Intent :=
  { withoutDeleted s { i with limit := .null, offset := .null } with action := .known .select }

/-- How many rows a page has. -/
def Page.length (p : Page) : Nat := ((rows? p.data).getD []).length

namespace Contents

variable {ρ κ : Type} [DecidableEq κ] (d : Contents ρ κ) (table : String) (i : Intent)

/-- The rows for which the conditions are true, as a store reads them. -/
def source : List ρ :=
  (d.joined table i.joins).filter fun r => (Clause.reading table i.conditions).truth (d.truth r) = .yes

/-- The groups of a query: all rows of one key together, else all rows where they are counted, else each row. -/
def groups : List (List ρ) :=
  let rows := d.source table i
  if i.groupBy = [] then if i.IsCount then [rows] else rows.map ([·])
  else (rows.map (d.key i.groupBy)).dedup.map fun k => rows.filter fun r => d.key i.groupBy r = k

/-- The row of a group. -/
def row (group : List ρ) : Row :=
  if i.IsCount then [("count", .int group.length)] else d.shown (Compile.selectList table i) group

/-- The rows that a query reads. -/
def select : List Row := i.window ((d.ordered i.order (d.groups table i)).map (d.row table i))

/-- A store answers the statement of a query with the rows that the query reads. -/
def Answers (sys : System) : Prop := Answered sys table i (.rows (d.select table i))

/-- A store answers both statements of a page as they are read. -/
structure AnswersPage (env : Surroundings) (s : Schema) (sys : System) (page perPage : Value) : Prop where
  rows : ∀ j, (Terminal.paginate page perPage).asked s i = .ok j →
    d.Answers s.tableName { j with action := .known .select } sys
  total : ∀ j, (Terminal.paginate page perPage).asked s i = .ok j →
    d.Answers s.tableName (countAsked s i) ((runRead env s j).perform sys).2

/-- A page to which a model comes while the store answers as the tables are read. -/
structure IsPage (env : Surroundings) (m : Model) (sys : System) (page perPage : Value) (p : Page) : Prop where
  result : (m.finish env (.paginate page perPage) (Session.fresh sys)).2.1 = .ok (.page p)
  answers : d.AnswersPage m.intent env m.schema (Session.fresh sys) page perPage

/-- The number that the statement of a count reads: the size of its first group, or zero if it has none. -/
def counted (s : Schema) : Nat :=
  ((d.ordered none (d.groups s.tableName (countAsked s i))).head?.map List.length).getD 0

end Contents

/-! ### Ranges -/

namespace Intent

variable {α : Type} {i : Intent}

theorem window_unlimited (h : i.limit = .null) (items : List α) : i.window items = items := by
  rw [window, h]
  exact if_neg Bool.false_ne_true

theorem window_first (hlimit : i.limit = .int 1) (hoffset : i.offset = .null) (items : List α) :
    i.window items = items.take 1 := by
  rw [window, hlimit, hoffset]
  rfl

/-- A range of natural numbers; a limit of zero is none. -/
theorem window_range {n m : Nat} (hlimit : i.limit = .int n) (hoffset : i.offset = .int m) (items : List α) :
    i.window items = if n = 0 then items else (items.drop m).take n := by
  have hnumber (k : Nat) : (if (Value.int k).isTruthy then ((Value.int k).toInt.toOption.getD 0).toNat else 0) = k := by
    split <;> rename_i h
    · exact Int.toNat_natCast k
    · have hzero : (k : Int) = 0 := by simpa [Value.isTruthy] using h
      omega
  have htruthy : (Value.int n).isTruthy = true ↔ ¬ n = 0 := by simp [Value.isTruthy]
  rw [window, hlimit, hoffset]
  dsimp only
  rw [hnumber, hnumber]
  by_cases hn : n = 0
  · rw [if_neg (fun h => htruthy.1 h hn), if_pos hn]
  · rw [if_pos (htruthy.2 hn), if_neg hn]

/-- The range of a page of some length. -/
theorem window_page {q k : Nat} (hq : 1 ≤ q) (hlimit : i.limit = .int q) (hoffset : i.offset = .int (k * q : Nat))
    (items : List α) : i.window items = (items.drop (k * q)).take q := by
  rw [window_range hlimit hoffset, if_neg (by omega)]

end Intent

/-- The pages of items, one after another, have as many items as there are, as far as the pages go. -/
theorem sum_length_pages {α : Type} (items : List α) (q : Nat) : ∀ m : Nat,
    ∑ k ∈ Finset.range m, ((items.drop (k * q)).take q).length = min items.length (m * q)
  | 0 => by simp
  | m + 1 => by
    rw [Finset.sum_range_succ, sum_length_pages items q m, List.length_take, List.length_drop, Nat.succ_mul]
    omega

namespace Contents

variable {ρ κ : Type} [DecidableEq κ] {d : Contents ρ κ} {i : Intent} {s : Schema}

/-! ### Rows and groups -/

/-- Leaving out deleted rows is one more condition, and nothing else. -/
theorem withoutDeleted_eq (s : Schema) (i : Intent) : withoutDeleted s i =
    { i with conditions := i.conditions ++ if s.softDelete && !i.withTrashed then [notDeleted] else [] } := by
  rw [withoutDeleted]
  split
  · rfl
  · rw [List.append_nil]

/-- The rows of one key together, one group for each key. -/
def byKey (d : Contents ρ κ) (s : Schema) (i : Intent) : List (List ρ) :=
  let rows := d.source s.tableName (unpaged s i)
  (rows.map (d.key i.groupBy)).dedup.map fun k => rows.filter fun r => d.key i.groupBy r = k

/-- The groups that are counted are those of the query, or all its rows in one. -/
theorem groups_counted : d.groups s.tableName (countAsked s i) =
    if i.groupBy = [] then [d.source s.tableName (unpaged s i)] else d.byKey s i := by
  rw [byKey, countAsked, unpaged, withoutDeleted_eq, withoutDeleted_eq]
  rfl

theorem groups_unpaged (hselect : i.select = []) : d.groups s.tableName (unpaged s i) =
    if i.groupBy = [] then (d.source s.tableName (unpaged s i)).map ([·]) else d.byKey s i := by
  have hcount : ¬ (unpaged s i).IsCount := by
    rw [Intent.IsCount, unpaged, withoutDeleted_eq]
    intro h
    cases hselect.symm.trans h
  have hgroup : (unpaged s i).groupBy = i.groupBy := by rw [unpaged, withoutDeleted_eq]
  rw [groups, if_neg hcount, hgroup]
  rfl

/-- Without a range a query has one row for each of its groups. -/
theorem length_select_unpaged :
    (d.select s.tableName (unpaged s i)).length = (d.groups s.tableName (unpaged s i)).length := by
  have hlimit : (unpaged s i).limit = .null := by rw [unpaged, withoutDeleted_eq]
  rw [select, Intent.window_unlimited hlimit, List.length_map, (d.perm _ _).length_eq]

/-- Of a query that does not group all rows are counted; of one that does, those of its first group. -/
theorem counted_eq (hselect : i.select = []) :
    d.counted i s = if i.groupBy = [] then (d.select s.tableName (unpaged s i)).length
      else ((d.ordered none (d.byKey s i)).head?.map List.length).getD 0 := by
  rw [counted, groups_counted, length_select_unpaged, groups_unpaged hselect]
  split
  · rw [List.perm_singleton.1 (d.perm none _), List.length_map]
    rfl
  · rfl

/-- A count reads one row with the number of the first group, or none. -/
theorem select_counted : d.select s.tableName (countAsked s i) =
    ((d.ordered none (d.groups s.tableName (countAsked s i))).take 1).map fun g => [("count", .int g.length)] := by
  have hlimit : (countAsked s i).limit = .int 1 := by rw [countAsked, withoutDeleted_eq]
  have hoffset : (countAsked s i).offset = .null := by rw [countAsked, withoutDeleted_eq]; rfl
  have horder : (countAsked s i).order = none := by rw [countAsked, withoutDeleted_eq]; rfl
  have hcount : (countAsked s i).IsCount := by rw [countAsked, withoutDeleted_eq]; rfl
  rw [select, Intent.window_first hlimit hoffset, horder, List.map_take]
  congr 1
  exact List.map_congr_left fun g _ => if_pos hcount

/-- A page reads a part of the rows that its query has without a range. -/
theorem select_paged {q k : Nat} (hq : 1 ≤ q) :
    d.select s.tableName { withoutDeleted s { i with limit := .int q, offset := .int (k * q : Nat) } with
      action := .known .select } = ((d.select s.tableName (unpaged s i)).drop (k * q)).take q := by
  rw [unpaged, withoutDeleted_eq, withoutDeleted_eq, select, Intent.window_page hq rfl rfl, select,
    Intent.window_unlimited rfl]
  rfl

/-! ### Pages -/

variable {env : Surroundings} {sys : System} {page perPage : Value} {p : Page}

/-- The total of a page is the number that the statement of its count reads, if its class reports that. -/
theorem total_page (hcasts : (s.castList.map Prod.fst).Nodup)
    (hpage : ((readPage env s i page perPage).perform sys).1 = .ok p) (hstore : d.AnswersPage i env s sys page perPage)
    (hreports : s.ReportsCount (d.counted i s)) : p.total = d.counted i s := by
  obtain ⟨number, length, offset, data, total, hnumber, hoffset, -, htotal, hp⟩ := readPage_eq_ok hpage
  have hanswered := hstore.total _ (bind_eq_ok.2 ⟨(number, length), hnumber, bind_eq_ok.2 ⟨offset, hoffset, rfl⟩⟩)
  rw [(total_pageAround hp).2]
  rw [Answers, select_counted] at hanswered
  rw [counted] at hreports ⊢
  cases hgroups : d.ordered none (d.groups s.tableName (countAsked s i)) with
  | nil =>
    rw [hgroups] at hanswered
    exact Except.ok.inj (htotal.symm.trans (countRows_nothing hanswered))
  | cons g rest =>
    rw [hgroups] at hanswered hreports
    exact Except.ok.inj (htotal.symm.trans ((countRows_eq_ok_iff hcasts hanswered).2 hreports))

theorem pageOf_int {q k : Nat} (hq : 1 ≤ q) :
    pageOf s i (.int (k + 1 : Nat)) (.int q) = .ok (.whole (k + 1 : Nat), .int q) := by
  have hargument (n : Nat) : argumentInt (.int n) = .ok (n : Int) := by
    rw [argumentInt]
    split <;> rename_i h
    · rfl
    · have hzero : (n : Int) = 0 := by simpa [Value.isTruthy] using h
      rw [hzero]
  rw [pageOf, hargument, hargument, ok_bind, ok_bind, if_neg (by omega), if_neg (by omega)]
  rfl

theorem offsetOf_int (q k : Nat) : offsetOf (.whole (k + 1 : Nat)) (.int q) = .ok (.int (k * q : Nat)) := by
  have hbefore : ((k + 1 : Nat) - 1 : Int) * q = (k * q : Nat) := by
    rw [Int.natCast_succ, Int.add_sub_cancel, Int.natCast_mul]
  exact congrArg (fun n : Int => Except.ok (Value.int n)) hbefore

/-- A page has the rows that its number and its length take of all. -/
theorem length_page (hnames : (i.relations.map Relation.identifier).Nodup) {q k : Nat} (hq : 1 ≤ q)
    (hpage : ((readPage env s i (.int (k + 1 : Nat)) (.int q)).perform sys).1 = .ok p)
    (hstore : d.AnswersPage i env s sys (.int (k + 1 : Nat)) (.int q)) :
    p.length = (((d.select s.tableName (unpaged s i)).drop (k * q)).take q).length := by
  obtain ⟨number, length, offset, data, total, hnumber, hoffset, hdata, -, hp⟩ := readPage_eq_ok hpage
  cases (pageOf_int hq).symm.trans hnumber
  cases (offsetOf_int q k).symm.trans hoffset
  obtain ⟨l, hl, hanswer⟩ := hstore.rows _ (bind_eq_ok.2 ⟨_, hnumber, bind_eq_ok.2 ⟨_, hoffset, rfl⟩⟩)
  obtain ⟨answer, ⟨l', hl', hanswer'⟩, hshown⟩ := @rows_shown env s { i with limit := .int q, offset := _ } sys _
    hnames hdata
  cases hl.symm.trans hl'
  cases hanswer.symm.trans hanswer'
  obtain ⟨out, hout, hall⟩ := hshown.1 _ rfl
  rw [Page.length, (total_pageAround hp).1, hout, ← select_paged hq]
  exact hall.length_eq.symm

end Contents

open Contents in
/-- Any chain that selects no columns of its own, and pages to which it comes while the store answers as the tables
are read, for a class that reports the count. The total of a page is the number of rows that the query has without a
range if it does not group; if it groups, it is the size of the first group in the order of the store, and so it is
that number only if there are as many groups. The pages with the numbers from one on hold all rows of the query, as
soon as there is room for them. -/
theorem total_of_pages {ρ κ : Type} [DecidableEq κ] (d : Contents ρ κ) (s : Schema)
    (hcasts : (s.castList.map Prod.fst).Nodup) (classes : Catalogue) (calls : List ChainCall) (env : Surroundings)
    (hselect : (Model.called classes ⟨s, .empty⟩ calls).intent.select = [])
    (hreports : s.ReportsCount (d.counted (Model.called classes ⟨s, .empty⟩ calls).intent s)) :
    let m := Model.called classes ⟨s, .empty⟩ calls
    let all := d.select s.tableName (unpaged s m.intent)
    let first := ((d.ordered none (d.byKey s m.intent)).head?.map List.length).getD 0
    (∀ sys page perPage p, d.IsPage env m sys page perPage p →
      p.total = (if m.intent.groupBy = [] then all.length else first : Nat) ∧
        (p.total = all.length ↔ m.intent.groupBy = [] ∨ first = (d.byKey s m.intent).length)) ∧
    ∀ (q n : Nat) (sys : Nat → System) (p : Nat → Page), 1 ≤ q → all.length ≤ n * q →
      (∀ k < n, d.IsPage env m (sys k) (.int (k + 1 : Nat)) (.int q) (p k)) →
      ∑ k ∈ Finset.range n, (p k).length = all.length := by
  intro m all first
  have hread {sys : System} {page perPage : Value} {p : Page} (h : d.IsPage env m sys page perPage p) :
      ((readPage env s m.intent page perPage).perform (Session.fresh sys)).1 = .ok p ∧
        d.AnswersPage m.intent env s (Session.fresh sys) page perPage := by
    have hschema : m.schema = s := Chain.schema_called classes s calls
    obtain ⟨hresult, hstore⟩ := h
    rw [Model.finish_eq, hschema] at hresult
    rw [hschema] at hstore
    refine ⟨?_, hstore⟩
    rw [(does_run env s m.intent _).perform_eq, Operation.perform_map] at hresult
    obtain ⟨_, hp, ⟨⟩⟩ := map_eq_ok.1 hresult
    exact hp
  constructor
  · intro sys page perPage p hpage
    have htotal := total_page hcasts (hread hpage).1 (hread hpage).2 hreports
    rw [counted_eq hselect] at htotal
    refine ⟨htotal, ?_⟩
    by_cases hgroup : m.intent.groupBy = []
    · exact iff_of_true (htotal.trans (congrArg Nat.cast (if_pos hgroup))) (.inl hgroup)
    · have hall : all.length = (d.byKey s m.intent).length := by
        rw [length_select_unpaged, groups_unpaged hselect, if_neg hgroup]
      rw [htotal, if_neg hgroup, hall, or_iff_right hgroup]
      exact Int.ofNat_inj
  · intro q n sys p hq hroom hpages
    have hnames := (Chain.isChained_called classes s calls).names
    have hlength (k : Nat) (hk : k ∈ Finset.range n) := length_page hnames hq
      (hread (hpages k (Finset.mem_range.1 hk))).1 (hread (hpages k (Finset.mem_range.1 hk))).2
    rw [Finset.sum_congr rfl hlength, sum_length_pages, Nat.min_eq_left hroom]

/-- Users of whom only a status is known, in the order in which they are stored. -/
def statuses (users : List Nat) : Contents Nat Nat where
  joined _ _ := users
  truth _ _ := .yes
  key _ status := status
  shown _ group := [("status", .int (group.headD 0))]
  ordered _ groups := groups
  perm _ _ := .rfl

/-- A store that gives rows with these statuses, and then a count. -/
def givingStatuses (shown : List Int) (count : Int) : System :=
  answering [shown.map fun status => [("status", .int status)], [[("count", .int count)]]]

/-- Users for whom these calls have been made. -/
def usersAfter (calls : List ChainCall) : Model := Model.called Catalogue.start ⟨userSchema, .empty⟩ calls

/-- The first of two pages of three users, and the second. -/
theorem exists_pages_of_statuses :
    (∃ p, (statuses [1, 2, 1]).IsPage ⟨.start, default⟩ (usersAfter []) (givingStatuses [1, 2] 3) (.int 1) (.int 2) p) ∧
      ∃ q, (statuses [1, 2, 1]).IsPage ⟨.start, default⟩ (usersAfter []) (givingStatuses [1] 3)
        (.int 2) (.int 2) q := by
  constructor <;> refine ⟨_, rfl, fun j hj => ?_, fun j hj => ?_⟩ <;> cases hj <;> exact ⟨_, rfl, rfl⟩

/-- Three users on two pages of two. -/
theorem statuses_on_two_pages :
    let page (number : Int) (sys : System) :=
      ((usersAfter []).finish ⟨.start, default⟩ (.paginate (.int number) (.int 2)) (Session.fresh sys)).2.1
    ∃ p q, page 1 (givingStatuses [1, 2] 3) = .ok (.page p) ∧ page 2 (givingStatuses [1] 3) = .ok (.page q) ∧
      p.total = 3 ∧ q.total = 3 ∧ p.length + q.length = 3 := by
  obtain ⟨⟨p, hp⟩, q, hq⟩ := exists_pages_of_statuses
  have hreports : userSchema.ReportsCount ((statuses [1, 2, 1]).counted (usersAfter []).intent userSchema) :=
    ⟨fun tag h => (by cases h), fun h => absurd h List.not_mem_nil⟩
  obtain ⟨htotal, hsum⟩ := total_of_pages (statuses [1, 2, 1]) userSchema List.nodup_nil .start []
    ⟨.start, default⟩ rfl hreports
  refine ⟨p, q, hp.result, hq.result, (htotal _ _ _ p hp).1, (htotal _ _ _ q hq).1, ?_⟩
  have hpages : ∀ k < 2, (statuses [1, 2, 1]).IsPage ⟨.start, default⟩ (usersAfter [])
      (if k = 0 then givingStatuses [1, 2] 3 else givingStatuses [1] 3) (.int (k + 1 : Nat)) (.int (2 : Nat))
      (if k = 0 then p else q) := by
    intro k hk
    match k with
    | 0 => exact hp
    | 1 => exact hq
  exact hsum 2 2 _ (fun k => if k = 0 then p else q) (by decide) (by decide) hpages

/-- Four users of two statuses: the page of groups has both of them, and a total of three. -/
theorem total_of_first_group :
    let m := usersAfter [.groupBy [.text "status"]]
    ∃ p, (statuses [1, 1, 1, 2]).IsPage ⟨.start, default⟩ m (givingStatuses [1, 2] 3) (.int 1) (.int 10) p ∧
      p.length = 2 ∧ p.total = 3 ∧
      ((statuses [1, 1, 1, 2]).select "users" (unpaged userSchema m.intent)).length = 2 := by
  refine ⟨_, ⟨rfl, ⟨fun j hj => ?_, fun j hj => ?_⟩⟩, rfl, rfl, rfl⟩
  · cases hj
    exact ⟨_, rfl, rfl⟩
  · cases hj
    exact ⟨_, rfl, rfl⟩

end RecordMapper
