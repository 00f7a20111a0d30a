import RecordMapper.Value

/-!
Rows: values by column, in the order in which the columns first came. `Row.set` never moves a column that is
already there, and what it does to the values is told by `value?_set`.
-/
namespace RecordMapper

/-- Values by column, in order. -/
abbrev Row := List (String × Value)

namespace Row

/-- The value of a column, if the row has the column. -/
def value? (column : String) : Row → Option Value
  | [] => none
  | (c, v) :: rest => if c = column then some v else value? column rest

/-- The value of a column, null if the row does not have it. -/
def value (row : Row) (column : String) : Value := (value? column row).getD .null

/-- Whether the row has a column. -/
def has (row : Row) (column : String) : Bool := (value? column row).isSome

/-- The columns in order. -/
def columns (row : Row) : List String := row.map Prod.fst

/-- Sets a column: at its place if the row has it, else at the end. -/
def set (column : String) (v : Value) : Row → Row
  | [] => [(column, v)]
  | (c, w) :: rest => if c = column then (c, v) :: rest else (c, w) :: set column v rest

/-- The row without a column. -/
def erase (column : String) (row : Row) : Row := row.filter fun (c, _) => c != column

/-- The row of columns given one after another. -/
def ofPairs (pairs : List (String × Value)) : Row :=
  pairs.foldl (fun row (c, v) => set c v row) []

/-- The columns of `later` set one after another on top of `row`. -/
def override (row later : Row) : Row := later.foldl (fun row (c, v) => set c v row) row

/-- The row as a dictionary. -/
def toValue (row : Row) : Value := .dict (row.map fun (c, v) => (.text c, v))

/-- A dictionary as a row, if its keys are texts. -/
def ofEntries? (entries : List (Value × Value)) : Option Row :=
  entries.mapM fun (k, v) =>
    match k with
    | .text c => some (c, v)
    | _ => none

/-- A list of dictionaries as rows. -/
def ofItems? (items : List Value) : Option (List Row) :=
  items.mapM fun item =>
    match item with
    | .dict entries => ofEntries? entries
    | _ => none

@[simp] theorem value?_nil (column : String) : value? column [] = none := rfl

@[simp] theorem value?_set (column other : String) (v : Value) (row : Row) :
    value? other (set column v row) = if column = other then some v else value? other row := by
  induction row with
  | nil => by_cases h : column = other <;> simp [set, value?, h]
  | cons entry rest ih =>
    obtain ⟨c, w⟩ := entry
    by_cases hc : c = column
    · subst hc
      by_cases h : c = other <;> simp [set, value?, h]
    · by_cases h : c = other
      · subst h
        simp [set, value?, hc, Ne.symm hc]
      · simp [set, value?, hc, h, ih]

theorem columns_set_of_has (column : String) (v : Value) (row : Row) (h : row.has column) :
    columns (set column v row) = columns row := by
  induction row with
  | nil => simp [has] at h
  | cons entry rest ih =>
    obtain ⟨c, w⟩ := entry
    by_cases hc : c = column
    · simp [set, columns, hc]
    · have : has rest column := by simpa [has, value?, hc] using h
      simpa [set, columns, hc] using ih this

end Row

end RecordMapper
