import RecordMapper.Row

/-!
Which columns of a record a caller may set. An empty list of allowed columns allows all of them, and an empty list
of guarded columns guards none.
-/
namespace RecordMapper

/-- The columns that may be set from outside, and those that may not. -/
structure Guard where
  fillable : List String
  guarded : List String
  deriving Repr, Inhabited

namespace Guard

/-- Whether a column may be set. -/
def admits (g : Guard) (column : String) : Bool :=
  (g.fillable.isEmpty || g.fillable.contains column) && (g.guarded.isEmpty || !g.guarded.contains column)

/-- The columns of a record that may be set, in the record's order. -/
def restrict (g : Guard) (record : Row) : Row := record.filter fun (column, _) => g.admits column

theorem columns_restrict (g : Guard) (record : Row) :
    (g.restrict record).columns = record.columns.filter g.admits := by
  induction record with
  | nil => rfl
  | cons entry rest ih =>
    obtain ⟨c, v⟩ := entry
    have ih' : List.map Prod.fst (List.filter (fun x : String × Value => g.admits x.1) rest) =
        List.filter g.admits (List.map Prod.fst rest) := ih
    by_cases h : g.admits c <;> simp [restrict, Row.columns, h, ih']

end Guard

end RecordMapper
