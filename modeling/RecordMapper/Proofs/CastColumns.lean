import RecordMapper.Proofs.RefusedValues

/-!
Casts column by column. A cast reads and writes its own column only, so two casts of different columns may change places
(`Casts.applyOne_comm`), and with them all casts of a row (`Casts.apply_perm`). Main statement: casting a row is casting
each of its columns by itself, and fails as the first column that fails by itself.
-/
namespace RecordMapper

namespace Casts

variable {direction : Direction} {casts : Casts} {row : Row}

/-- The column has a value in the row, and the cast named for it makes the outcome of this value. -/
def Makes (direction : Direction) (row : Row) (p : String × String) (outcome : Except Failure Value) : Prop :=
  (row.value p.1).isNull = false ∧
    ∃ cast, Cast.ofName? p.2 = some cast ∧ cast.convert direction p.1 (row.value p.1) = outcome

/-- The result is the row with each of its columns cast by itself, and with nothing else changed. -/
structure IsCast (direction : Direction) (casts : Casts) (row result : Row) : Prop where
  /-- The columns stay where they are. -/
  columns : result.columns = row.columns
  /-- A value under a cast is what this cast makes of it. -/
  cast : ∀ p ∈ casts, (row.value p.1).isNull = false → Makes direction row p (.ok (result.value p.1))
  /-- A column without a cast or without a value is as before. -/
  kept : ∀ column, column ∉ casts.map Prod.fst ∨ (row.value column).isNull = true →
    Row.value? column result = Row.value? column row

/-! ### Columns by themselves -/

theorem makes_iff {p : String × String} {outcome : Except Failure Value} (hp : ∃ cast, Cast.ofName? p.2 = some cast)
    (hthere : (row.value p.1).isNull = false) :
    Makes direction row p outcome ↔ convertNamed direction p.1 p.2 (row.value p.1) = outcome := by
  obtain ⟨cast, hcast⟩ := hp
  rw [convertNamed_of_cast hcast hthere]
  constructor
  · rintro ⟨-, other, hother, rfl⟩
    cases hother.symm.trans hcast
    rfl
  · intro h
    exact ⟨hthere, cast, hcast, h⟩

/-- A null is not changed by any cast. -/
theorem value?_apply_of_isNull {column : String} : ∀ {casts : Casts} {row result : Row},
    apply direction casts row = .ok result → (row.value column).isNull = true →
    Row.value? column result = Row.value? column row
  | [], _, _, h, _ => by
    cases h
    rfl
  | (c, tag) :: rest, row, result, h, hnull => by
    obtain ⟨next, hnext, h⟩ := bind_eq_ok.1 h
    have hsame : Row.value? column next = Row.value? column row := by
      by_cases hc : c = column
      · rw [applyOne, hc, if_pos hnull] at hnext
        cases hnext
        rfl
      · exact value?_applyOne hnext hc
    rw [value?_apply_of_isNull h (by rwa [Row.value, hsame]), hsame]

/-- What a cast row has. -/
theorem isCast_apply (hcasts : (casts.map Prod.fst).Nodup) (hnames : ∀ p ∈ casts, ∃ cast, Cast.ofName? p.2 = some cast)
    {result : Row} (h : apply direction casts row = .ok result) : IsCast direction casts row result where
  columns := columns_apply h
  cast p hp hthere := (makes_iff (hnames p hp) hthere).2 (convertNamed_apply hcasts h p hp)
  kept column := by
    rintro (hother | hnull)
    · exact value?_apply h hother
    · exact value?_apply_of_isNull h hnull

/-- A column by itself succeeds if there is nothing to cast in it, or what is there is cast. -/
theorem exists_convertNamed_iff {p : String × String} (hp : ∃ cast, Cast.ofName? p.2 = some cast) :
    (∃ v, convertNamed direction p.1 p.2 (row.value p.1) = .ok v) ↔
      ((row.value p.1).isNull = false → ∃ v, Makes direction row p (.ok v)) := by
  by_cases hnull : (row.value p.1).isNull = true
  · refine iff_of_true ⟨row.value p.1, if_pos hnull⟩ fun hthere => ?_
    cases hnull.symm.trans hthere
  · have hthere : (row.value p.1).isNull = false := by simpa using hnull
    simp only [hthere, true_implies, makes_iff hp hthere]

/-- The cast that fails first, told column by column. -/
theorem failsFirst_iff (hnames : ∀ p ∈ casts, ∃ cast, Cast.ofName? p.2 = some cast) {p : String × String}
    {e : Failure} :
    FailsFirst direction casts row p e ↔
      ∃ before after, casts = before ++ p :: after ∧
        (∀ q ∈ before, (row.value q.1).isNull = false → ∃ v, Makes direction row q (.ok v)) ∧
        Makes direction row p (.error e) := by
  refine exists_congr fun before => exists_congr fun after => and_congr_right fun hshape => ?_
  have hbefore (q) (hq : q ∈ before) := hnames q (hshape ▸ List.mem_append_left _ hq)
  have hp := hnames p (hshape ▸ List.mem_append_right _ List.mem_cons_self)
  refine and_congr (forall₂_congr fun q hq => exists_convertNamed_iff (hbefore q hq)) ?_
  by_cases hnull : (row.value p.1).isNull = true
  · refine iff_of_false (fun h => ?_) fun h => ?_
    · rw [convertNamed, if_pos hnull] at h
      cases h
    · cases h.1.symm.trans hnull
  · rw [makes_iff hp (by simpa using hnull)]

/-! ### Order -/

/-- Two casts of different columns may change places. -/
theorem applyOne_comm {column tag other tag' : String} {next result : Row} (hne : column ≠ other)
    (hnext : applyOne direction row column tag = .ok next) (hresult : applyOne direction next other tag' = .ok result) :
    ∃ first, applyOne direction row other tag' = .ok first ∧ applyOne direction first column tag = .ok result := by
  have hother : next.value other = row.value other := value_applyOne hnext hne
  rw [applyOne_eq] at hnext
  obtain ⟨v, hv, rfl⟩ := map_eq_ok.1 hnext
  rw [applyOne_eq, hother] at hresult
  obtain ⟨w, hw, rfl⟩ := map_eq_ok.1 hresult
  have hfirst : applyOne direction row other tag' =
      .ok (if (row.value other).isNull then row else Row.set other w row) := by
    rw [applyOne_eq, hw]
    rfl
  refine ⟨_, hfirst, ?_⟩
  have hcolumn := value_applyOne hfirst hne.symm
  rw [applyOne_eq, hcolumn, hv]
  by_cases hnull : (row.value column).isNull = true
  · simp only [hnull, if_true, Except.map]
  · by_cases hnull' : (row.value other).isNull = true
    · simp only [hnull', if_true, Except.map]
    · have hhas : row.has other = true := Row.has_of_value (by simpa using hnull')
      simp only [hnull, hnull', Except.map, Bool.false_eq_true, if_false, Row.set_comm hne hhas]

/-- Casts of different columns may be made in any order. -/
theorem apply_perm {permuted : Casts} (hperm : casts.Perm permuted) (hcasts : (casts.map Prod.fst).Nodup) {result : Row}
    (h : apply direction casts row = .ok result) : apply direction permuted row = .ok result := by
  induction hperm generalizing row with
  | nil => exact h
  | cons p _ ih =>
    obtain ⟨next, hnext, h⟩ := bind_eq_ok.1 h
    rw [apply, hnext, ok_bind]
    exact ih (List.nodup_cons.1 hcasts).2 h
  | swap p q rest =>
    obtain ⟨next, hnext, h⟩ := bind_eq_ok.1 h
    obtain ⟨last, hlast, h⟩ := bind_eq_ok.1 h
    have hne : q.1 ≠ p.1 := fun he => (List.nodup_cons.1 hcasts).1 (he ▸ List.mem_cons_self)
    obtain ⟨first, hfirst, hsecond⟩ := applyOne_comm hne hnext hlast
    rw [apply, hfirst, ok_bind, apply, hsecond, ok_bind]
    exact h
  | trans hfirst _ ih ih' => exact ih' ((hfirst.map Prod.fst).nodup_iff.1 hcasts) (ih hcasts h)

/-- Casting a row is casting each of its columns by itself, in whatever order: it succeeds exactly if each column that
has a cast and a value does, and it fails as the first one that does not. -/
theorem apply_by_columns (direction : Direction) {casts : Casts} (hcasts : (casts.map Prod.fst).Nodup)
    (hnames : ∀ p ∈ casts, ∃ cast, Cast.ofName? p.2 = some cast) (row : Row) :
    (∀ result, apply direction casts row = .ok result →
      IsCast direction casts row result ∧
        ∀ permuted : Casts, permuted.Perm casts → apply direction permuted row = .ok result) ∧
    ((∃ result, apply direction casts row = .ok result) ↔
      ∀ p ∈ casts, (row.value p.1).isNull = false → ∃ v, Makes direction row p (.ok v)) ∧
    ∀ e, apply direction casts row = .error e ↔
      ∃ before p after, casts = before ++ p :: after ∧
        (∀ q ∈ before, (row.value q.1).isNull = false → ∃ v, Makes direction row q (.ok v)) ∧
        Makes direction row p (.error e) := by
  have hfails (e) : apply direction casts row = .error e ↔
      ∃ before p after, casts = before ++ p :: after ∧
        (∀ q ∈ before, (row.value q.1).isNull = false → ∃ v, Makes direction row q (.ok v)) ∧
        Makes direction row p (.error e) := by
    simp only [apply_eq_error_iff hcasts, failsFirst_iff hnames]
    exact exists_comm
  refine ⟨fun result h => ⟨isCast_apply hcasts hnames h, fun permuted hperm => apply_perm hperm.symm hcasts h⟩, ?_,
    hfails⟩
  constructor
  · rintro ⟨result, h⟩ p hp hthere
    exact ⟨_, (isCast_apply hcasts hnames h).cast p hp hthere⟩
  · intro h
    cases happly : apply direction casts row with
    | ok result => exact ⟨result, rfl⟩
    | error e =>
      obtain ⟨before, p, after, rfl, -, hp⟩ := (hfails e).1 happly
      obtain ⟨v, hv⟩ := h p (List.mem_append_right _ List.mem_cons_self) hp.1
      obtain ⟨-, cast, hcast, hok⟩ := hv
      obtain ⟨-, other, hother, herror⟩ := hp
      cases hcast.symm.trans hother
      cases hok.symm.trans herror

/-- Two columns of a stored visitor are cast, a null and a column without a cast are kept, and so in either order. -/
theorem visitor_by_columns :
    let casts := [("age", "number"), ("member", "boolean"), ("name", "string")]
    let row : Row := [("id", .int 1), ("member", .text "yes"), ("name", .null), ("age", .text "40")]
    let result : Row := [("id", .int 1), ("member", .bool true), ("name", .null), ("age", .int 40)]
    ((casts.map Prod.fst).Nodup ∧ ∀ p ∈ casts, ∃ cast, Cast.ofName? p.2 = some cast) ∧
      IsCast .fromStorage casts row result ∧ apply .fromStorage casts.reverse row = .ok result := by
  intro casts row result
  have hcasts : (casts.map Prod.fst).Nodup := by decide
  have hnames : ∀ p ∈ casts, ∃ cast, Cast.ofName? p.2 = some cast := by
    simp only [casts, List.forall_mem_cons]
    exact ⟨⟨.number, rfl⟩, ⟨.boolean, rfl⟩, ⟨.string, rfl⟩, nofun⟩
  obtain ⟨hcast, hordered⟩ := (apply_by_columns .fromStorage hcasts hnames row).1 result rfl
  exact ⟨⟨hcasts, hnames⟩, hcast, hordered _ (List.reverse_perm casts)⟩

end Casts

end RecordMapper
