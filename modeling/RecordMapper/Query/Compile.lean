import RecordMapper.Query.Intent
import RecordMapper.Query.Statement
import RecordMapper.Value.Whole

/-!
From intents to statements. Every value of the caller becomes a binding, apart from nulls and truth values that are
assigned, what stands behind `IS`, and empty lists, whose conditions are decided in the text.
-/
namespace RecordMapper.Compile

open Layout

/-- A column with its table, unless it names a table itself. -/
def qualify (table field : String) : String := if field.toList.contains '.' then field else table ++ "." ++ field

/-- The columns to be read: those selected, or all of the table and of the joined ones. -/
def selectList (table : String) (i : Intent) : String :=
  if i.select.isEmpty then ", ".intercalate ((table ++ ".*") :: i.joins.map fun j => j.table ++ ".*")
  else ", ".intercalate i.select

/-- One assignment. -/
def assignment (column : String) (v : Value) : Layout :=
  match v with
  | .null => words (column ++ " = NULL")
  | .bool b => words (column ++ " = " ++ if b then "1" else "0")
  | v => [.text (column ++ " = "), .slot v]

/-- The assignments of a record. -/
def assignments (data : Row) : Layout := separated ", " (data.map fun (column, v) => assignment column v)

/-- Columns and values of a record to be inserted. -/
def insertion (verb table : String) (data : Row) : Layout :=
  words (verb ++ " " ++ table ++ " (" ++ ", ".intercalate data.columns ++ ") VALUES (") ++
    separated ", " (data.map fun (_, v) => [.slot v]) ++ words ")"

/-- A join. -/
def joinText (table : String) (j : Join) : String :=
  " " ++ j.type ++ " JOIN " ++ j.table ++ " ON " ++ qualify table j.first ++ " " ++ j.operator ++ " " ++
    qualify j.table j.second

/-- The failure of a list operator on a value that has no items. -/
def notAList : Failure := .ofPlain .wrongKind "the value has no items"

/-- One condition. -/
def condition (table : String) : Clause → Except Failure Layout
  | .raw text _ => .ok (words text)
  | .compare field operator v _ =>
    let column := qualify table field
    if operator = "IN" ∨ operator = "NOT IN" then
      match v.elements? with
      | none => .error notAList
      | some [] => .ok (words (if operator = "IN" then "1 = 0" else "1 = 1"))
      | some items => .ok [.text (column ++ " " ++ operator ++ " ("), .slot (.list items), .text ")"]
    else if operator = "IS" ∨ operator = "IS NOT" then .ok (words (column ++ " " ++ operator ++ " " ++ v.shown))
    else .ok [.text (column ++ " " ++ operator ++ " "), .slot v]

/-- The conditions behind the first, each with the word that joins it. -/
def furtherConditions (table : String) : List Clause → Except Failure Layout
  | [] => .ok []
  | c :: rest => do
    let this ← condition table c
    return words (" " ++ c.junction ++ " ") ++ this ++ (← furtherConditions table rest)

/-- All conditions. -/
def conditions (table : String) : List Clause → Except Failure Layout
  | [] => .ok []
  | c :: rest => do
    let first ← condition table c
    return words " WHERE " ++ first ++ (← furtherConditions table rest)

/-- The fault of an intent without a statement. -/
def refuse (table action reason : String) : Failure := .ofFault (.compile table action reason [])

/-- The record to be written, which must not be empty. -/
def requireData (table : String) (action : Action) (i : Intent) : Except Failure Row :=
  match i.data with
  | some (entry :: rest) => .ok (entry :: rest)
  | _ => .error (refuse table action.name "no data to write")

/-- The beginning of a statement, which its action decides. -/
def head (table : String) (action : Action) (i : Intent) : Except Failure Layout :=
  match action with
  | .select => .ok (words ("SELECT " ++ selectList table i ++ " FROM " ++ table))
  | .insert => do return insertion "INSERT INTO" table (← requireData table action i)
  | .insertIgnore => do return insertion "INSERT IGNORE INTO" table (← requireData table action i)
  | .insertUpdate => do
    let data ← requireData table action i
    return insertion "INSERT INTO" table data ++ words " ON DUPLICATE KEY UPDATE " ++ assignments data
  | .update => do return words ("UPDATE " ++ table ++ " SET ") ++ assignments (← requireData table action i)
  | .delete =>
    if i.conditions.isEmpty then .error (refuse table action.name "DELETE requires a WHERE clause")
    else .ok (words ("DELETE FROM " ++ table))

/-- The grouping. -/
def grouping (i : Intent) : String :=
  if i.groupBy.isEmpty then "" else " GROUP BY " ++ ", ".intercalate i.groupBy

/-- The order. -/
def ordering (table : String) (i : Intent) : String :=
  match i.order with
  | none => ""
  | some o => " ORDER BY " ++ qualify table o.field ++ " " ++ if o.direction = "DESC" then "DESC" else "ASC"

/-- How many rows, and from which on; an offset counts only with a limit. -/
def range (i : Intent) : Except Failure Layout :=
  if !i.limit.isTruthy then .ok []
  else do
    let limit ← i.limit.toInt
    if !i.offset.isTruthy then return [.text " LIMIT ", .slot (.int limit)]
    else return [.text " LIMIT ", .slot (.int limit), .text " OFFSET ", .slot (.int (← i.offset.toInt))]

/-- The statement of an intent with an action. -/
def statement (table : String) (action : Action) (i : Intent) : Except Failure Layout := do
  let start ← head table action i
  let joined := words (String.join (i.joins.map (joinText table)))
  let filtered ← conditions table i.conditions
  return start ++ joined ++ filtered ++ words (grouping i ++ ordering table i) ++ (← range i)

end Compile

open Compile in
/-- The statement of an intent; a raw query is a statement by itself. -/
def Intent.compile (table : String) (i : Intent) : Except Failure Layout :=
  match i.rawQuery, i.action with
  | some sql, action =>
    if sql.isEmpty then
      match action with
      | .known a => statement table a i
      | .unknown v => .error (refuse table v.shown "unrecognized action")
    else .ok (Layout.words sql)
  | none, .known a => statement table a i
  | none, .unknown v => .error (refuse table v.shown "unrecognized action")

end RecordMapper
