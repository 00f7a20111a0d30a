import RecordMapper.Proofs.NearestNumber
import RecordMapper.Proofs.PageStatements

/-!
Walks along pages. The number of pages is the least whole number that is not below the float nearest to the quotient of
total and length (`Terminal.pageCount`). A walk goes from page to page by the next page that each of them reports
(`PageWalk`). Main statement: a walk from the first page visits the pages in order up to this number, and the ranges of
their statements lie side by side; they hold all rows exactly if the number has not been rounded below the quotient,
which it never is for a total of up to 53 bits and a length that is not beyond all floats.
-/
namespace RecordMapper

open Hydration Binary64

namespace Terminal

/-! ### The number of pages -/

/-- The number of pages, as it is calculated. -/
def pageCount (total perPage : ℕ) : ℕ := ⌈rounded total perPage⌉₊

theorem rounded_nonneg (total perPage : ℕ) : 0 ≤ rounded total perPage := by
  rw [rounded]
  positivity

theorem pagesOf_natCast (total : ℕ) {perPage : ℕ} (h : 1 ≤ perPage) :
    pagesOf total (.int perPage) =
      if rounded total perPage < 2 ^ 1024 then .ok (pageCount total perPage : ℤ)
      else .error (Value.numberFailure .overflow) := by
  have hnumber : numberOf (.int perPage) = .ok (.whole perPage) := rfl
  rw [pagesOf, hnumber, ok_bind, Number.div_natCast total h]
  split <;> rename_i hfinite
  · have hceil : Number.ceil (nearest false total perPage) = .ok (pageCount total perPage : ℤ) := by
      refine Number.ceil_eq_ok_iff.2 ⟨rounded total perPage, ?_, ?_⟩
      · rw [value?_nearest false total h, if_pos hfinite]
        rfl
      · rw [pageCount, Int.natCast_ceil_eq_ceil (rounded_nonneg total perPage)]
    change calculate (Number.ceil (nearest false total perPage)) = _
    rw [hceil]
    rfl
  · rfl

/-- The least number of pages for a total. -/
theorem isLeast_pages_iff {total perPage n : ℕ} (h : 1 ≤ perPage) :
    IsLeast {k : ℕ | total ≤ k * perPage} n ↔ n = ⌈(total / perPage : ℚ)⌉₊ := by
  have hpos : (0 : ℚ) < perPage := by exact_mod_cast h
  have hset : {k : ℕ | total ≤ k * perPage} = Set.Ici ⌈(total / perPage : ℚ)⌉₊ := by
    ext k
    rw [Set.mem_ofPred_eq, Set.mem_Ici, Nat.ceil_le, div_le_iff₀ hpos]
    norm_cast
  rw [hset]
  exact ⟨fun hn => hn.unique isLeast_Ici, fun hn => hn ▸ isLeast_Ici⟩

theorem twoPow_neg_lt_iff (k total : ℕ) {perPage : ℕ} (h : 1 ≤ perPage) :
    (2 : ℚ) ^ (-(k : ℤ)) < total / perPage ↔ perPage < 2 ^ k * total := by
  have hpos : (0 : ℚ) < perPage := by exact_mod_cast h
  rw [zpow_neg, zpow_natCast, lt_div_iff₀ hpos, inv_mul_lt_iff₀ (by positivity)]
  norm_cast

/-- The number of pages is right for every total of up to 53 bits, unless the length is beyond all floats. -/
theorem isLeast_pageCount_iff {total perPage : ℕ} (h : 1 ≤ perPage) (htotal : total ≤ 2 ^ 53) :
    IsLeast {k : ℕ | total ≤ k * perPage} (pageCount total perPage) ↔ total = 0 ∨ perPage < 2 ^ 1075 * total := by
  have hpos : (0 : ℚ) < perPage := by exact_mod_cast h
  rw [isLeast_pages_iff h, pageCount]
  rcases total.eq_zero_or_pos with rfl | hsome
  · exact iff_of_true (by simp [rounded, unitsOf_zero]) (.inl rfl)
  · rw [or_iff_right hsome.ne']
    obtain ⟨before, hbefore⟩ : ∃ before, ⌈(total / perPage : ℚ)⌉₊ = before + 1 :=
      Nat.exists_eq_succ_of_ne_zero (Nat.ceil_pos.2 (by positivity)).ne'
    have hlast : before * perPage < total := by
      have hlt : (before : ℚ) < total / perPage := Nat.lt_ceil.1 (by omega)
      rw [lt_div_iff₀ hpos] at hlt
      exact_mod_cast hlt
    -- the right number is a float, so that rounding does not go above it
    have hle : ⌈rounded total perPage⌉₊ ≤ before + 1 := by
      rw [Nat.ceil_le]
      refine rounded_le (representable_natCast ?_) h (hbefore ▸ Nat.le_ceil _)
      have : before * 1 ≤ before * perPage := Nat.mul_le_mul_left before h
      omega
    have hreached : ⌈rounded total perPage⌉₊ = before + 1 ↔ (before : ℚ) < rounded total perPage := by
      rw [← Nat.lt_ceil]
      omega
    rw [hbefore, hreached]
    rcases before.eq_zero_or_pos with rfl | hmore
    · rw [Nat.cast_zero, rounded_pos_iff total h]
      exact twoPow_neg_lt_iff 1075 total h
    · have hone : (1 : ℚ) < total / perPage := by
        rw [lt_div_iff₀ hpos, one_mul]
        exact_mod_cast (Nat.le_mul_of_pos_left _ hmore).trans_lt hlast
      exact iff_of_true (natCast_lt_rounded hmore h htotal hlast)
        ((twoPow_neg_lt_iff 1075 total h).1 ((zpow_le_one_of_nonpos₀ one_le_two (by decide)).trans_lt hone))

/-! ### The page of a walk -/

/-- A page of a total, of some number and some length. -/
def pageAt (data : Answer) (total perPage k : ℕ) : Page where
  data := data
  total := total
  pages := pageCount total perPage
  page := .whole k
  perPage := .int perPage
  nextPage := if k < pageCount total perPage then some (.whole (k + 1 : ℕ)) else none
  prevPage := if 1 < k ∧ k ≤ pageCount total perPage then some (.whole (k - 1 : ℕ)) else none

theorem nextPage_pageAt_eq_some {data : Answer} {total perPage k l : ℕ} :
    (pageAt data total perPage k).nextPage = some (.whole l) ↔ k < pageCount total perPage ∧ l = k + 1 := by
  by_cases h : k < pageCount total perPage
  · simp only [pageAt, h, if_true, true_and, Option.some.injEq, Number.whole.injEq, Int.ofNat_inj, @eq_comm ℕ l]
  · simp [pageAt, h]

/-- The page before the next one is the page itself. -/
theorem prevPage_nextPage {total perPage k l : ℕ} (hk : 1 ≤ k) {data : Answer}
    (h : (pageAt data total perPage k).nextPage = some (.whole l)) (data' : Answer) :
    (pageAt data' total perPage l).prevPage = some (.whole k) := by
  obtain ⟨hmore, rfl⟩ := nextPage_pageAt_eq_some.1 h
  exact if_pos ⟨by omega, hmore⟩

theorem pageAround_natCast (data : Answer) (total : ℕ) {perPage k : ℕ} (h : 1 ≤ perPage) (hk : 1 ≤ k) :
    pageAround data total (.whole k) (.int perPage) =
      if rounded total perPage < 2 ^ 1024 then .ok (pageAt data total perPage k)
      else .error (Value.numberFailure .overflow) := by
  have hafter : calculate ((Number.whole k).add (.whole 1)) = .ok (.whole (k + 1 : ℕ)) := rfl
  have hbefore : calculate ((Number.whole k).sub (.whole 1)) = .ok (.whole (k - 1 : ℕ)) := by
    rw [Nat.cast_sub hk]
    rfl
  rw [pageAround, pagesOf_natCast total h]
  split
  · rw [ok_bind, hafter, ok_bind, hbefore, ok_bind, pageAt]
    simp only [Number.lt, decide_eq_true_eq, Bool.and_eq_true, Bool.not_eq_true', decide_eq_false_iff_not,
      Nat.one_lt_cast, Nat.cast_lt, not_lt]
    rfl
  · rfl

/-! ### Windows -/

/-- The rows of a page, by their places among all rows. -/
def window (perPage k : ℕ) : Set ℕ := Set.Ico ((k - 1) * perPage) (k * perPage)

theorem mem_window_iff {perPage k j : ℕ} (hperPage : 1 ≤ perPage) (hk : 1 ≤ k) :
    j ∈ window perPage k ↔ k = j / perPage + 1 := by
  obtain ⟨before, rfl⟩ : ∃ before, k = before + 1 := ⟨k - 1, by omega⟩
  rw [window, Set.mem_Ico, Nat.add_sub_cancel, Nat.add_right_cancel_iff, eq_comm, Nat.div_eq_iff hperPage]
  have hpos : 1 ≤ (before + 1) * perPage := Nat.mul_pos before.succ_pos hperPage
  rw [Nat.succ_mul] at hpos ⊢
  omega

/-- A row is on one page only. -/
theorem pairwiseDisjoint_window {perPage : ℕ} (hperPage : 1 ≤ perPage) :
    (Set.Ici 1).PairwiseDisjoint (window perPage) := by
  intro k hk l hl hne
  refine Set.disjoint_left.2 fun j hjk hjl => hne ?_
  rw [(mem_window_iff hperPage hk).1 hjk, (mem_window_iff hperPage hl).1 hjl]

/-- All rows are on some page if there is room for them, and only then. -/
theorem covered_iff {total perPage pages : ℕ} (hperPage : 1 ≤ perPage) :
    (∀ j < total, ∃ k, 1 ≤ k ∧ k ≤ pages ∧ j ∈ window perPage k) ↔ total ≤ pages * perPage := by
  constructor
  · intro h
    by_contra hless
    obtain ⟨k, -, hk, -, hj⟩ := h (pages * perPage) (not_le.1 hless)
    exact absurd (Nat.mul_le_mul_right perPage hk) (not_le.2 hj)
  · intro h j hj
    refine ⟨j / perPage + 1, Nat.succ_pos _, ?_, (mem_window_iff hperPage (Nat.succ_pos _)).2 rfl⟩
    exact (Nat.div_lt_iff_lt_mul hperPage).2 (hj.trans_le h)

/-! ### Pages that the store gives -/

variable {env : Surroundings} {s : Schema} {i : Intent} {sys : System}

/-- The store gives the rows of a page, and then counts a total. -/
structure GivesPage (env : Surroundings) (s : Schema) (i : Intent) (total perPage k : ℕ) (sys : System)
    (data : Answer) : Prop where
  rows : ((rows env s (i.ranged perPage ((k - 1) * perPage))).perform sys).1 = .ok data
  count : Answered ((Terminal.rows env s (i.ranged perPage ((k - 1) * perPage))).perform sys).2 s.tableName
    (countAsked s i) (.rows [[("count", .int total)]])

/-- What there is where the store gives a page. -/
theorem readPage_given (hcasts : (s.castList.map Prod.fst).Nodup) {total perPage k : ℕ} (hperPage : 1 ≤ perPage)
    (hk : 1 ≤ k) (hreports : s.ReportsCount total) {data : Answer} (h : GivesPage env s i total perPage k sys data) :
    ((readPage env s i (.int k) (.int perPage)).perform sys).1 =
      if rounded total perPage < 2 ^ 1024 then .ok (pageAt data total perPage k)
      else .error (Value.numberFailure .overflow) := by
  obtain ⟨before, rfl⟩ : ∃ before, k = before + 1 := ⟨k - 1, by omega⟩
  obtain ⟨hrows, hcount⟩ := h
  rw [Nat.add_sub_cancel] at hrows hcount
  have htotal := (@countRows_eq_ok_iff env s { i with limit := .null, offset := .null } _ hcasts total hcount).2
    hreports
  calc ((readPage env s i (.int (before + 1 : ℕ)) (.int perPage)).perform sys).1
      = _ := readPage_counted (Contents.pageOf_int hperPage) (Contents.offsetOf_int perPage before) hrows
    _ = pageAround data total (.whole (before + 1 : ℕ)) (.int perPage) := congrArg (· >>= _) htotal
    _ = _ := pageAround_natCast data total hperPage hk

/-- The first statement of a page has its range. -/
theorem exists_log_given (hraw : i.rawQuery = none) {total perPage k : ℕ} (hperPage : 1 ≤ perPage) (hk : 1 ≤ k)
    {data : Answer} (h : GivesPage env s i total perPage k sys data) :
    ∃ filtered answer rest, Compile.conditions s.tableName (s.scoped i) = .ok filtered ∧
      ((Terminal.paginate (.int k) (.int perPage)).scripted env s i).script.log sys =
        .statement (rangedQuestion (Compile.selectList s.tableName i) (i.source s.tableName filtered)
          (Compile.ordering s.tableName i) perPage ((k - 1) * perPage)) answer :: rest := by
  obtain ⟨before, rfl⟩ : ∃ before, k = before + 1 := ⟨k - 1, by omega⟩
  cases hfiltered : Compile.conditions s.tableName (s.scoped i) with
  | error e =>
    obtain ⟨-, hfails⟩ := @log_rows_error env s (i.ranged perPage ((before + 1 - 1) * perPage)) sys hraw e hfiltered
    cases h.rows.symm.trans hfails
  | ok filtered =>
    obtain ⟨answer, related, -, ⟨hlog, -⟩ | ⟨counted, hlog⟩⟩ := @log_page env s i sys _ _ before perPage hraw filtered
      hfiltered hperPage (Contents.pageOf_int hperPage)
    · exact ⟨filtered, answer, related, rfl, hlog⟩
    · exact ⟨filtered, answer, _, rfl, hlog⟩

end Terminal

/-! ### Walks -/

/-- A walk from page to page, by the next page that each reports: the numbers of the pages that are visited. -/
inductive PageWalk (visits : ℕ → Page → Prop) : ℕ → List ℕ → Prop
  | last {k : ℕ} {p : Page} (visit : visits k p) (stops : p.nextPage = none) : PageWalk visits k [k]
  | next {k l : ℕ} {p : Page} {rest : List ℕ} (visit : visits k p) (leads : p.nextPage = some (.whole l))
      (walk : PageWalk visits l rest) : PageWalk visits k (k :: rest)

namespace PageWalk

open Terminal

variable {visits : ℕ → Page → Prop} {total perPage : ℕ}

/-- A walk goes up one by one, and stops at the last page, or at once if it begins beyond. -/
theorem visited_eq (hvisits : ∀ k p, 1 ≤ k → visits k p → ∃ data, p = pageAt data total perPage k) {k : ℕ}
    {visited : List ℕ} (hk : 1 ≤ k) (walk : PageWalk visits k visited) :
    visited = List.range' k (max (pageCount total perPage) k + 1 - k) := by
  induction walk with
  | last visit stops =>
    obtain ⟨data, rfl⟩ := hvisits _ _ hk visit
    rename_i k
    have hend : ¬ k < pageCount total perPage := fun h => by simp [pageAt, h] at stops
    rw [max_eq_right (not_lt.1 hend), Nat.add_sub_cancel_left]
    rfl
  | next visit leads walk ih =>
    rename_i k l p rest
    obtain ⟨data, rfl⟩ := hvisits _ _ hk visit
    obtain ⟨hmore, rfl⟩ := nextPage_pageAt_eq_some.1 leads
    rw [ih (by omega), max_eq_left hmore, max_eq_left hmore.le, Nat.succ_sub hmore.le, List.range'_succ,
      Nat.add_sub_add_right]

/-- If the pages up to the last one can be visited, there is a walk. -/
theorem exists_walk {k : ℕ}
    (hvisits : ∀ l, k ≤ l → l ≤ max (pageCount total perPage) k → ∃ data, visits l (pageAt data total perPage l)) :
    PageWalk visits k (List.range' k (max (pageCount total perPage) k + 1 - k)) := by
  obtain ⟨data, hvisit⟩ := hvisits k le_rfl (le_max_right _ _)
  by_cases hmore : k < pageCount total perPage
  · rw [max_eq_left hmore.le] at hvisits
    have hrest := exists_walk (k := k + 1) fun l hl hlast => hvisits l (by omega) (by omega)
    rw [max_eq_left hmore, Nat.add_sub_add_right] at hrest
    rw [max_eq_left hmore.le, Nat.succ_sub hmore.le, List.range'_succ]
    exact .next hvisit (if_pos hmore) hrest
  · rw [max_eq_right (not_lt.1 hmore), Nat.add_sub_cancel_left]
    exact .last hvisit (if_neg hmore)
termination_by pageCount total perPage - k

end PageWalk

/-! ### The pages of a chain -/

open Terminal

/-- A page to which a chain comes by its number, while the store gives its rows and counts a total. -/
def Model.Visits (m : Model) (env : Surroundings) (total perPage k : ℕ) (p : Page) : Prop :=
  ∃ sys data, GivesPage env m.schema m.intent total perPage k (Session.fresh sys) data ∧
    (m.finish env (.paginate (.int k) (.int perPage)) (Session.fresh sys)).2.1 = .ok (.page p)

section
variable {s : Schema} {classes : Catalogue} {calls : List ChainCall} {env : Surroundings} {total perPage k : ℕ}
  {sys : System} {data : Answer}

/-- What a chain comes to where the store gives a page. -/
theorem finish_given (hcasts : (s.castList.map Prod.fst).Nodup) (hperPage : 1 ≤ perPage)
    (hreports : s.ReportsCount total) (hk : 1 ≤ k)
    (h : GivesPage env s (Model.called classes ⟨s, .empty⟩ calls).intent total perPage k (Session.fresh sys) data) :
    ((Model.called classes ⟨s, .empty⟩ calls).finish env (.paginate (.int k) (.int perPage)) (Session.fresh sys)).2.1 =
      if rounded total perPage < 2 ^ 1024 then .ok (.page (pageAt data total perPage k))
      else .error (Value.numberFailure .overflow) := by
  rw [finish_paginate, readPage_given hcasts hperPage hk hreports h]
  split <;> rfl

/-- A visited page is that of its number. -/
theorem Model.Visits.eq_pageAt (hcasts : (s.castList.map Prod.fst).Nodup) (hperPage : 1 ≤ perPage)
    (hreports : s.ReportsCount total) (hk : 1 ≤ k) {p : Page}
    (h : (Model.called classes ⟨s, .empty⟩ calls).Visits env total perPage k p) :
    ∃ data, p = pageAt data total perPage k := by
  obtain ⟨sys, data, hgiven, hp⟩ := h
  rw [Chain.schema_called] at hgiven
  rw [finish_given hcasts hperPage hreports hk hgiven] at hp
  split at hp
  · cases hp
    exact ⟨data, rfl⟩
  · cases hp

/-- A page that the store gives is visited, unless the quotient is beyond all floats. -/
theorem exists_visits (hcasts : (s.castList.map Prod.fst).Nodup) (hperPage : 1 ≤ perPage)
    (hreports : s.ReportsCount total) (hk : 1 ≤ k) (hfinite : rounded total perPage < 2 ^ 1024)
    (h : GivesPage env s (Model.called classes ⟨s, .empty⟩ calls).intent total perPage k (Session.fresh sys) data) :
    (Model.called classes ⟨s, .empty⟩ calls).Visits env total perPage k (pageAt data total perPage k) := by
  refine ⟨sys, data, (Chain.schema_called classes s calls).symm ▸ h, ?_⟩
  rw [finish_given hcasts hperPage hreports hk h, if_pos hfinite]

end

/-- Any chain on a class that reports the total, and its pages of a length while their stores give their rows and count
this total. A page has the number of pages that is calculated, unless the quotient is beyond all floats, and its first
statement asks for the rows of its window. For a total of up to 53 bits the number of pages is the least that has room
for all rows, unless the length is beyond all floats. A walk by the next pages from the first page visits each page up
to the last one, in order, and then stops; and there is this walk. The previous page of a next page is where it came
from. No row is in the windows of two pages, and all rows are in windows exactly if the number of pages has room for
them. -/
theorem walk_along_pages (s : Schema) (hcasts : (s.castList.map Prod.fst).Nodup) (classes : Catalogue)
    (calls : List ChainCall) (env : Surroundings) {total perPage : ℕ} (hperPage : 1 ≤ perPage)
    (hreports : s.ReportsCount total) :
    let m := Model.called classes ⟨s, .empty⟩ calls
    let pages := pageCount total perPage
    (∀ k sys data, 1 ≤ k → GivesPage env s m.intent total perPage k (Session.fresh sys) data →
        let t := Terminal.paginate (.int k) (.int perPage)
        ((m.finish env t (Session.fresh sys)).2.1 =
          if rounded total perPage < 2 ^ 1024 then .ok (.page (pageAt data total perPage k))
          else .error (Value.numberFailure .overflow)) ∧
        ∃ filtered answer rest, Compile.conditions s.tableName (s.scoped m.intent) = .ok filtered ∧
          (t.scripted env s m.intent).script.log (Session.fresh sys) =
            .statement (rangedQuestion (Compile.selectList s.tableName m.intent) (m.intent.source s.tableName filtered)
              (Compile.ordering s.tableName m.intent) perPage ((k - 1) * perPage)) answer :: rest) ∧
      (total ≤ 2 ^ 53 → (IsLeast {k : ℕ | total ≤ k * perPage} pages ↔ total = 0 ∨ perPage < 2 ^ 1075 * total)) ∧
      (∀ visited, PageWalk (m.Visits env total perPage) 1 visited → visited = List.range' 1 (max pages 1)) ∧
      (rounded total perPage < 2 ^ 1024 →
        (∀ k, 1 ≤ k → k ≤ max pages 1 → ∃ sys data, GivesPage env s m.intent total perPage k (Session.fresh sys) data) →
        PageWalk (m.Visits env total perPage) 1 (List.range' 1 (max pages 1))) ∧
      (∀ k l p q, 1 ≤ k → m.Visits env total perPage k p → p.nextPage = some (.whole (l : ℕ)) →
        m.Visits env total perPage l q → q.prevPage = some (.whole k)) ∧
      (Set.Ici 1).PairwiseDisjoint (window perPage) ∧
      ((∀ j < total, ∃ k, 1 ≤ k ∧ k ≤ pages ∧ j ∈ window perPage k) ↔ total ≤ pages * perPage) := by
  intro m pages
  have hvisits (k : ℕ) (p : Page) (hk : 1 ≤ k) (h : m.Visits env total perPage k p) :=
    h.eq_pageAt hcasts hperPage hreports hk
  refine ⟨fun k sys data hk hgiven => ⟨finish_given hcasts hperPage hreports hk hgiven,
      exists_log_given (Chain.isChained_called classes s calls).rawQuery hperPage hk hgiven⟩,
    isLeast_pageCount_iff hperPage, fun visited walk => PageWalk.visited_eq hvisits le_rfl walk,
    fun hfinite hgives => PageWalk.exists_walk fun k hk hlast => ?_, fun k l p q hk hp hnext hq => ?_,
    pairwiseDisjoint_window hperPage, covered_iff hperPage⟩
  · obtain ⟨sys, data, hgiven⟩ := hgives k hk hlast
    exact ⟨data, exists_visits hcasts hperPage hreports hk hfinite hgiven⟩
  · obtain ⟨data, rfl⟩ := hvisits k p hk hp
    obtain ⟨data', rfl⟩ := hvisits l q (by have := nextPage_pageAt_eq_some.1 hnext; omega) hq
    exact prevPage_nextPage hk hnext data'

/-- A walk along three users on two pages. -/
theorem walk_along_three_users :
    let visits := (usersAfter []).Visits ⟨.start, default⟩ 3 2
    (∃ visited, PageWalk visits 1 visited) ∧ ∀ visited, PageWalk visits 1 visited → visited = [1, 2] := by
  intro visits
  obtain ⟨-, hleast, hwalk, hwalked, -⟩ := walk_along_pages userSchema List.nodup_nil .start [] ⟨.start, default⟩
    (by decide : 1 ≤ 2) (⟨fun tag h => (by cases h), fun h => absurd h List.not_mem_nil⟩ : userSchema.ReportsCount 3)
  obtain ⟨hroom, hfewest⟩ := (hleast (by decide)).2
    (.inr ((by decide : 2 < 3).trans_le (Nat.le_mul_of_pos_left 3 (pow_pos two_pos _))))
  have hpages : pageCount 3 2 = 2 := by
    have hfew : pageCount 3 2 ≤ 2 := hfewest (show 3 ≤ 2 * 2 by decide)
    have hmany : 3 ≤ pageCount 3 2 * 2 := hroom
    omega
  rw [hpages] at hwalk hwalked
  refine ⟨⟨_, hwalked ?_ fun k hk hlast => ?_⟩, hwalk⟩
  · have htwo : rounded 3 2 ≤ (2 : ℕ) := rounded_le (representable_natCast (by decide)) (by decide) (by norm_num)
    exact htwo.trans_lt (by exact_mod_cast pow_lt_pow_right₀ (one_lt_two (α := ℚ)) (show 1 < 1024 by decide))
  · obtain rfl | rfl : k = 1 ∨ k = 2 := by
      have : k ≤ 2 := hlast
      omega
    · exact ⟨givingStatuses [1, 2] 3, _, rfl, _, rfl, rfl⟩
    · exact ⟨givingStatuses [1] 3, _, rfl, _, rfl, rfl⟩

/-- The last of 2⁵³ + 1 rows is on no page of one row. -/
theorem last_row_on_no_page :
    let total := 9007199254740993
    ∃ p, endOf userSchema [[], [[("count", .int total)]]] (.paginate (.int 1) (.int 1)) = .ok (.page p) ∧
      p.total = total ∧ p.pages = 9007199254740992 ∧
      ¬ IsLeast {k : ℕ | total ≤ k * 1} p.pages.toNat := by
  refine ⟨_, rfl, rfl, rfl, fun h => ?_⟩
  exact absurd h.1 (by decide)

end RecordMapper
