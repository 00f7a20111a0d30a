import RecordMapper.Proofs.WrittenRecords

/-!
Casts of whole rows. Casts of different columns never see what the others have made: each converts what its column had
to begin with. So a row is cast exactly if each of its values is, the first value that is not tells how the casts fail,
and a row of which each value is read back from its stored form is read back as it was.
-/
namespace RecordMapper

/-- The stored form of a value is there, and the value is read from it. -/
def Cast.ReadsBack (cast : Cast) (column : String) (v : Value) : Prop :=
  ∃ stored, cast.convert .toStorage column v = .ok stored ∧ stored.isNull = false ∧
    cast.convert .fromStorage column stored = .ok v

namespace Row

variable {column other : String} {v w : Value} {row : Row}

theorem value_set : value (set column v row) other = if column = other then v else value row other := by
  rw [value, value?_set, value]
  split <;> rfl

theorem set_set : ∀ row : Row, set column w (set column v row) = set column w row
  | [] => if_pos rfl
  | (c, u) :: rest => by
    by_cases hc : c = column
    · simp only [set, if_pos hc]
    · simp only [set, if_neg hc, set_set rest]

/-- Setting a column to what it has changes nothing. -/
theorem set_value : ∀ {row : Row}, (value row column).isNull = false → set column (value row column) row = row
  | [], h => by cases h
  | (c, u) :: rest, h => by
    by_cases hc : c = column
    · simp only [set, value, value?, if_pos hc, Option.getD_some]
    · simp only [value, value?, if_neg hc] at h ⊢
      rw [set, if_neg hc]
      exact congrArg _ (set_value h)

/-- Two columns may be set in either order, if the row has the one that comes first in the end. -/
theorem set_comm (hne : column ≠ other) : ∀ {row : Row}, row.has other = true →
    set other w (set column v row) = set column v (set other w row)
  | [], h => by cases h
  | (c, u) :: rest, h => by
    by_cases hc : c = column
    · have hother : c ≠ other := fun he => hne (hc.symm.trans he)
      simp only [set, if_pos hc, if_neg hother]
    · by_cases hother : c = other
      · simp only [set, if_neg hc, if_pos hother]
      · have hrest : Row.has rest other = true := by simpa only [has, value?, if_neg hother] using h
        simp only [set, if_neg hc, if_neg hother, set_comm hne hrest]

end Row

namespace Casts

variable {direction : Direction} {casts : Casts} {row : Row} {column tag : String}

/-- What the cast with a name makes of a value: nothing happens to nulls. -/
def convertNamed (direction : Direction) (column tag : String) (v : Value) : Except Failure Value :=
  if v.isNull then .ok v
  else match Cast.ofName? tag with
    | none => .error (.ofFault (.usage "<casts>" (unknown tag column) []))
    | some cast => cast.convert direction column v

theorem convertNamed_of_cast {cast : Cast} {v : Value} (hcast : Cast.ofName? tag = some cast) (hv : v.isNull = false) :
    convertNamed direction column tag v = cast.convert direction column v := by
  simp only [convertNamed, hv, hcast, Bool.false_eq_true, if_false]

/-- A cast puts into its column what it makes of the value in it. -/
theorem applyOne_eq : applyOne direction row column tag =
    (convertNamed direction column tag (row.value column)).map fun v =>
      if (row.value column).isNull then row else Row.set column v row := by
  rw [applyOne, convertNamed]
  split
  · rfl
  · cases Cast.ofName? tag with
    | none => rfl
    | some cast => rfl

theorem value_applyOne {result : Row} {other : String} (h : applyOne direction row column tag = .ok result)
    (hother : column ≠ other) : result.value other = row.value other := by
  rw [Row.value, Row.value, value?_applyOne h hother]

/-- The casts of other columns do not see what is set. -/
theorem apply_set {v : Value} : ∀ {casts : Casts} {row : Row}, column ∉ casts.map Prod.fst →
    apply direction casts (Row.set column v row) = (apply direction casts row).map (Row.set column v)
  | [], _, _ => rfl
  | (c, tag) :: rest, row, hcolumn => by
    obtain ⟨hc, hrest⟩ := not_or.1 (List.mem_cons.not.1 hcolumn)
    have hvalue : (Row.set column v row).value c = row.value c := by rw [Row.value_set, if_neg hc]
    rw [apply, apply, applyOne_eq, applyOne_eq, hvalue]
    cases convertNamed direction c tag (row.value c) with
    | error e => rfl
    | ok w =>
      by_cases hnull : (row.value c).isNull = true
      · simp only [hnull, if_true, Except.map, ok_bind]
        exact apply_set hrest
      · have hhas : row.has c = true := Row.has_of_value (by simpa using hnull)
        simp only [hnull, Except.map, ok_bind, Row.set_comm hc hhas]
        exact apply_set hrest

/-- A cast row has in each column what its cast has made of the row's own value. -/
theorem convertNamed_apply : ∀ {casts : Casts} {row result : Row}, (casts.map Prod.fst).Nodup →
    apply direction casts row = .ok result →
    ∀ p ∈ casts, convertNamed direction p.1 p.2 (row.value p.1) = .ok (result.value p.1)
  | [], _, _, _, _, _, hp => by cases hp
  | (c, tag) :: rest, row, result, hcasts, h, p, hp => by
    obtain ⟨hc, hrest⟩ := List.nodup_cons.1 hcasts
    obtain ⟨next, hnext, h⟩ := bind_eq_ok.1 h
    obtain rfl | hp := List.mem_cons.1 hp
    · have hsame : result.value c = next.value c := by rw [Row.value, Row.value, value?_apply h hc]
      rw [applyOne_eq] at hnext
      obtain ⟨v, hv, rfl⟩ := map_eq_ok.1 hnext
      rw [hsame, hv]
      by_cases hnull : (row.value c).isNull = true
      · rw [convertNamed, if_pos hnull] at hv
        rw [if_pos hnull, hv]
      · rw [if_neg hnull, Row.value_set, if_pos rfl]
    · have hne : c ≠ p.1 := fun he => hc (List.mem_map.2 ⟨p, hp, he.symm⟩)
      rw [← value_applyOne hnext hne]
      exact convertNamed_apply hrest h p hp

/-- The cast is the first that does not convert what its column has. -/
def FailsFirst (direction : Direction) (casts : Casts) (row : Row) (p : String × String) (e : Failure) : Prop :=
  ∃ before after, casts = before ++ p :: after ∧
    (∀ q ∈ before, ∃ v, convertNamed direction q.1 q.2 (row.value q.1) = .ok v) ∧
    convertNamed direction p.1 p.2 (row.value p.1) = .error e

theorem failsFirst_cons {p : String × String} {rest : Casts} {q : String × String} {e : Failure} :
    FailsFirst direction (p :: rest) row q e ↔
      (q = p ∧ convertNamed direction p.1 p.2 (row.value p.1) = .error e) ∨
        (∃ v, convertNamed direction p.1 p.2 (row.value p.1) = .ok v) ∧ FailsFirst direction rest row q e := by
  constructor
  · rintro ⟨before, after, hcasts, hbefore, hfails⟩
    cases before with
    | nil =>
      cases hcasts
      exact .inl ⟨rfl, hfails⟩
    | cons r before =>
      cases hcasts
      obtain ⟨hr, hbefore⟩ := List.forall_mem_cons.1 hbefore
      exact .inr ⟨hr, before, after, rfl, hbefore, hfails⟩
  · rintro (⟨rfl, hfails⟩ | ⟨hp, before, after, rfl, hbefore, hfails⟩)
    · exact ⟨[], rest, rfl, nofun, hfails⟩
    · exact ⟨p :: before, after, rfl, List.forall_mem_cons.2 ⟨hp, hbefore⟩, hfails⟩

theorem FailsFirst.congr {other : Row} {p : String × String} {e : Failure}
    (h : ∀ q ∈ casts, other.value q.1 = row.value q.1) (hfails : FailsFirst direction casts other p e) :
    FailsFirst direction casts row p e := by
  obtain ⟨before, after, rfl, hbefore, hp⟩ := hfails
  refine ⟨before, after, rfl, fun q hq => ?_, ?_⟩
  · rw [← h q (List.mem_append_left _ hq)]
    exact hbefore q hq
  · rw [← h p (List.mem_append_right _ List.mem_cons_self)]
    exact hp

/-- Casts fail as the first of them that does not convert what its column has. -/
theorem apply_eq_error_iff : ∀ {casts : Casts} {row : Row} {e : Failure}, (casts.map Prod.fst).Nodup →
    (apply direction casts row = .error e ↔ ∃ p, FailsFirst direction casts row p e)
  | [], _, _, _ => ⟨nofun, fun ⟨_, before, after, h, _⟩ => by simp at h⟩
  | (c, tag) :: rest, row, e, hcasts => by
    obtain ⟨hc, hrest⟩ := List.nodup_cons.1 hcasts
    simp only [failsFirst_cons]
    cases hv : convertNamed direction c tag (row.value c) with
    | error f =>
      rw [apply, applyOne_eq, hv]
      refine ⟨fun h => ?_, ?_⟩
      · cases h
        exact ⟨(c, tag), .inl ⟨rfl, rfl⟩⟩
      · rintro ⟨p, ⟨-, h⟩ | ⟨⟨v, h⟩, -⟩⟩
        · cases h
          rfl
        · cases h
    | ok v =>
      have hnext : applyOne direction row c tag = .ok (if (row.value c).isNull then row else Row.set c v row) := by
        rw [applyOne_eq, hv]
        rfl
      have hsame : ∀ q ∈ rest, (if (row.value c).isNull then row else Row.set c v row).value q.1 = row.value q.1 :=
        fun q hq => value_applyOne hnext fun he => hc (List.mem_map.2 ⟨q, hq, he.symm⟩)
      rw [apply, hnext, ok_bind, apply_eq_error_iff hrest]
      constructor
      · rintro ⟨p, hp⟩
        exact ⟨p, .inr ⟨⟨v, rfl⟩, hp.congr hsame⟩⟩
      · rintro ⟨p, ⟨-, h⟩ | ⟨-, hp⟩⟩
        · cases h
        · exact ⟨p, hp.congr fun q hq => (hsame q hq).symm⟩

/-- A row is read back if each value that the casts are about is. -/
theorem apply_reads_back : ∀ {casts : Casts} (row : Row), (casts.map Prod.fst).Nodup →
    (∀ p ∈ casts, (row.value p.1).isNull = false →
      ∃ cast, Cast.ofName? p.2 = some cast ∧ cast.ReadsBack p.1 (row.value p.1)) →
    ∃ stored, apply .toStorage casts row = .ok stored ∧ apply .fromStorage casts stored = .ok row
  | [], row, _, _ => ⟨row, rfl, rfl⟩
  | (c, tag) :: rest, row, hcasts, h => by
    obtain ⟨hc, hrest⟩ := List.nodup_cons.1 hcasts
    obtain ⟨hhead, htail⟩ := List.forall_mem_cons.1 h
    by_cases hnull : (row.value c).isNull = true
    · -- the casts behind it leave the column alone, so that it is null on the way back as well
      obtain ⟨stored, hto, hfrom⟩ := apply_reads_back row hrest htail
      have hsame : stored.value c = row.value c := by rw [Row.value, Row.value, value?_apply hto hc]
      refine ⟨stored, ?_, ?_⟩
      · rw [apply, applyOne, if_pos hnull]
        exact hto
      · rw [apply, applyOne, hsame, if_pos hnull]
        exact hfrom
    · have hthere : (row.value c).isNull = false := by simpa using hnull
      obtain ⟨cast, hcast, w, hw, hwthere, hback⟩ := hhead hthere
      obtain ⟨stored, hto, hfrom⟩ := apply_reads_back row hrest htail
      have hset : (Row.set c w stored).value c = w := by rw [Row.value_set, if_pos rfl]
      refine ⟨Row.set c w stored, ?_, ?_⟩
      · rw [apply, applyOne_eq, convertNamed_of_cast hcast hthere, hw]
        simp only [hthere, Except.map, ok_bind, Bool.false_eq_true, if_false]
        rw [apply_set hc, hto]
        rfl
      · rw [apply, applyOne_eq, hset, convertNamed_of_cast hcast hwthere, hback]
        simp only [hwthere, Except.map, ok_bind, Bool.false_eq_true, if_false]
        rw [Row.set_set, apply_set hc, hfrom]
        exact congrArg _ (Row.set_value hthere)

end Casts

end RecordMapper
