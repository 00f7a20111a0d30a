import RecordMapper.Text.Blank
import RecordMapper.Text.Split

/-!
Files of settings, one `NAME=value` in a line. A name may follow `export` or stand between apostrophes; a value may
stand between quotes, and then over several lines; a number sign behind white space begins a comment. A line that is
nothing of this is skipped, and so is a byte order mark in front of everything. In a value, `${NAME}` and
`${NAME:-text}` stand for the value of another name.

Settings may come from any reader of files (`Environment.configOver`); this is the one with which they run.
-/
namespace RecordMapper.SettingsFile

open RecordMapper.Text

/-- Line ends of all systems as line feeds. -/
def normalLines : List Char → List Char
  | '\r' :: '\n' :: rest => '\n' :: normalLines rest
  | '\r' :: rest => '\n' :: normalLines rest
  | c :: rest => c :: normalLines rest
  | [] => []

/-- White space within a line. -/
def isGap (c : Char) : Bool := isBlank c && c != '\n' && c != '\r'

/-- Whether a character ends a line. -/
def isLineEnd (c : Char) : Bool := c == '\n' || c == '\r'

/-- Drops a leading `export` and the white space behind it. -/
def dropExport (s : List Char) : List Char :=
  match after? "export".toList s with
  | some (c :: rest) => if isGap c then rest.dropWhile isGap else s
  | _ => s

/-- Where a reader stands when it cannot go on. -/
abbrev Step (α : Type) := Except (List Char) (α × List Char)

/-- A name: nothing in front of a comment, between apostrophes, or up to an equals sign, a number sign or white
space. -/
def readName (s : List Char) : Step (Option String) :=
  match s with
  | '#' :: _ => .ok (none, s)
  | '\'' :: rest =>
    match cut? '\'' rest with
    | some (c :: name, after) => .ok (some (String.ofList (c :: name)), after)
    | _ => .error s
  | _ =>
    let stops (c : Char) : Bool := c == '=' || c == '#' || isBlank c
    match s.takeWhile (!stops ·) with
    | [] => .error s
    | name => .ok (some (String.ofList name), s.dropWhile (!stops ·))

/-- What stands before and behind the closing quote: the first one that is not half of a pair, a pair being a
backslash with whatever follows it. -/
def cutQuote? (quote : Char) : List Char → Option (List Char × List Char)
  | [] => none
  | '\\' :: c :: rest => (cutQuote? quote rest).map fun (before, after) => ('\\' :: c :: before, after)
  | c :: rest =>
    if c == quote then some ([], rest) else (cutQuote? quote rest).map fun (before, after) => (c :: before, after)

/-- What a backslash and a character stand for between quotes. -/
def escaped? (quote c : Char) : Option Char :=
  if c == '\\' || c == '\'' then some c
  else if quote == '\'' then none
  else match c with
    | '"' => some '"'
    | 'a' => some '\x07'
    | 'b' => some '\x08'
    | 'f' => some '\x0c'
    | 'n' => some '\n'
    | 'r' => some '\r'
    | 't' => some '\t'
    | 'v' => some '\x0b'
    | _ => none

/-- A value between quotes as it is meant. -/
def unescape (quote : Char) : List Char → List Char
  | '\\' :: c :: rest =>
    match escaped? quote c with
    | some d => d :: unescape quote rest
    | none => '\\' :: unescape quote (c :: rest)
  | c :: rest => c :: unescape quote rest
  | [] => []

/-- A line up to white space with a number sign behind it. -/
def dropComment : List Char → List Char
  | [] => []
  | c :: rest =>
    if isBlank c && (rest.dropWhile isBlank).head? == some '#' then [] else c :: dropComment rest

/-- A value behind its equals sign: between quotes, or the rest of the line. -/
def readValue (s : List Char) : Step String :=
  let start := s.dropWhile isGap
  match start with
  | '\'' :: rest | '"' :: rest =>
    let quote := start.headD '"'
    match cutQuote? quote rest with
    | some (inside, after) => .ok (String.ofList (unescape quote inside), after)
    | none => .error start
  | _ =>
    let line := s.takeWhile (!isLineEnd ·)
    .ok (String.ofList (trimWhile isBlank (dropComment line)), s.dropWhile (!isLineEnd ·))

/-- The end of a line, a comment before it included. -/
def readLineEnd (s : List Char) : Step Unit :=
  let comment := s.dropWhile isGap
  let rest := if comment.head? == some '#' then comment.dropWhile (!isLineEnd ·) else comment
  match rest with
  | [] => .ok ((), [])
  | c :: after => if isLineEnd c then .ok ((), after) else .error rest

/-- One line behind white space: a name and its value, if it has them. -/
def readLine (s : List Char) : Except (List Char) ((Option String × Option String) × List Char) := do
  let (name, rest) ← readName (dropExport s)
  match rest.dropWhile isGap with
  | '=' :: rest =>
    let (value, rest) ← readValue rest
    let (_, rest) ← readLineEnd rest
    return ((name, some value), rest)
  | rest =>
    let (_, rest) ← readLineEnd rest
    return ((name, none), rest)

/-- The names of a text with their values, in order; `fuel` is more than the characters of the text. -/
def readLines : (fuel : Nat) → List Char → List (String × Option String)
  | 0, _ => []
  | fuel + 1, s =>
    match s.dropWhile isBlank with
    | [] => []
    | start =>
      match readLine start with
      | .ok ((some name, value), rest) => (name, value) :: readLines fuel rest
      | .ok ((none, _), rest) => readLines fuel rest
      | .error rest => readLines fuel ((rest.dropWhile (!isLineEnd ·)).drop 1)

/-- A piece of a value: text, or another name with the text that stands in for it. -/
inductive Atom where
  | text (s : List Char)
  | name (s : String) (fallback : List Char)
  deriving Repr, DecidableEq

/-- A reference behind its opening bracket, with what follows it. -/
def reference? (s : List Char) : Option (Atom × List Char) :=
  let ends (c : Char) : Bool := c == '\x7d' || c == ':'
  let name := String.ofList (s.takeWhile (!ends ·))
  match s.dropWhile (!ends ·) with
  | '\x7d' :: rest => some (.name name [], rest)
  | ':' :: '-' :: rest => (cut? '\x7d' rest).map fun (fallback, rest) => (.name name fallback, rest)
  | _ => none

/-- A value in pieces; `fuel` is more than its characters. -/
def atoms : (fuel : Nat) → List Char → List Atom
  | 0, s => [.text s]
  | _ + 1, [] => []
  | fuel + 1, '$' :: '\x7b' :: rest =>
    match reference? rest with
    | some (atom, rest) => atom :: atoms fuel rest
    | none => .text ['$'] :: atoms fuel ('\x7b' :: rest)
  | fuel + 1, c :: rest => .text [c] :: atoms fuel rest

/-- Names with their values; the first of a name counts. -/
abbrev Names := List (String × Option String)

/-- A value with its references resolved. -/
def resolve (names : Names) (value : String) : String :=
  let one : Atom → List Char
    | .text s => s
    | .name s fallback =>
      match names.lookup s with
      | some found => (found.getD "").toList
      | none => fallback
  String.ofList ((atoms (value.length + 1) value.toList).flatMap one)

/-- Names with their values resolved one after another, the latest first. A reference sees the names before it and,
behind them, those of `outer`. -/
def resolveAll (outer : Names) : Names → Names → Names
  | done, [] => done
  | done, (name, value) :: rest =>
    resolveAll outer ((name, value.map (resolve (done ++ outer))) :: done) rest

/-- A text without a byte order mark in front of it. -/
def dropMark : List Char → List Char
  | '\uFEFF' :: rest => rest
  | s => s

/-- The names of a file, each with the last value that it is given, if it is given one. -/
def read (outer : List (String × String)) (text : String) : Names :=
  let chars := normalLines (dropMark text.toList)
  let outer : Names := outer.reverse.map fun (name, value) => (name, some value)
  let done := resolveAll outer [] (readLines (chars.length + 1) chars)
  done.reverse.map fun (name, _) => (name, (done.lookup name).bind id)

end RecordMapper.SettingsFile
