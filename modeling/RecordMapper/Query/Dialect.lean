import RecordMapper.Query.Placeholder
import RecordMapper.Text.Blank
import RecordMapper.Text.Split
import RecordMapper.Text.WordTable

/-!
What the stores do not agree on: the mark of a slot, the spelling of an insert that skips duplicates, and the kinds
of values that a driver takes.
-/
namespace RecordMapper

/-- The dialects of statements. `plain` is the library's own. -/
inductive Dialect where
  | plain
  | mysql
  | sqlite
  deriving Repr, DecidableEq, Inhabited

namespace Dialect

/-- A segment in which a percent sign is written twice. -/
def doublePercent (s : List Char) : List Char := s.flatMap fun c => if c == '%' then ['%', '%'] else [c]

/-- Slots as `%s`, and each other percent sign twice. -/
def adaptMySQL (sql : String) : String :=
  let parts := segments sql
  let doubled : Segments := ⟨doublePercent parts.first, parts.rest.map doublePercent⟩
  String.ofList (doubled.join ['%', 's'])

/-- A letter in the form in which keywords are compared. -/
def keywordLetter (c : Char) : Char :=
  if c == '\u0130' || c == '\u0131' then 'i' else if c == '\u017F' then 's' else c.toLower

/-- What follows a keyword, given in small letters, at the front. -/
def afterKeyword? : (word s : List Char) → Option (List Char)
  | [], s => some s
  | _ :: _, [] => none
  | w :: word, c :: s => if keywordLetter c == w then afterKeyword? word s else none

/-- What follows at least one white space at the front. -/
def afterBlanks? (s : List Char) : Option (List Char) :=
  if (s.head?.map Text.isBlank).getD false then some (s.dropWhile Text.isBlank) else none

/-- What follows `INSERT IGNORE INTO` at the beginning of a statement. -/
def afterInsertIgnore? (s : List Char) : Option (List Char) := do
  let s ← afterKeyword? "insert".toList (s.dropWhile Text.isBlank)
  let s ← afterBlanks? s
  let s ← afterKeyword? "ignore".toList s
  let s ← afterBlanks? s
  let s ← afterKeyword? "into".toList s
  if (s.head?.map Text.isWordChar).getD false then none else some s

/-- An insert that skips duplicates as SQLite spells it; other statements stay as they are. -/
def adaptSQLite (sql : String) : String :=
  match afterInsertIgnore? sql.toList with
  | some rest => "INSERT OR IGNORE INTO" ++ String.ofList rest
  | none => sql

/-- A statement as the driver of a dialect takes it. -/
def adapt : Dialect → String → String
  | plain, sql => sql
  | mysql, sql => adaptMySQL sql
  | sqlite, sql => adaptSQLite sql

/-- A value as SQLite takes it: dates and moments as text. -/
def toSQLite : Value → Value
  | .moment t => .text (t.text ' ')
  | .date d => .text d.text
  | v => v

end Dialect

end RecordMapper
