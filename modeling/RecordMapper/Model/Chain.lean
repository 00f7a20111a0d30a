import RecordMapper.Model.Class
import RecordMapper.Query.Compile
import RecordMapper.Text.Letter

/-!
Chains: what each call does to the intent of a model. A call that fails leaves in the intent what the calls before it
did, also those that it made itself.
-/
namespace RecordMapper

/-- A model: its class, and what its chain has come to. -/
structure Model where
  schema : Schema
  intent : Intent
  deriving Inhabited

namespace Model

/-- A model of a class, which must have a table. -/
def new (s : Schema) : Except Failure Model :=
  match s.tableName? with
  | some _ => .ok ⟨s, .empty⟩
  | none => .error (.ofFault (.usage s.name "table name is not set" []))

/-- The text of a model. -/
def quoted (m : Model) : String := "<" ++ m.schema.name ++ " table=" ++ m.schema.tableName ++ ">"

end Model

namespace Chain

/-- The failure of what has no such method. -/
def noSuchMethod (method : String) : Failure := .ofPlain .missingAttribute method

/-- The text of a name, if anything is left of it without the white space around it. What counts as true and is no text
has none; octets and fragments are no texts here, as no name is made of them. -/
def name? : Value → Except Failure (Option String)
  | .text s => .ok ((some (Text.trim s)).filter (!·.isEmpty))
  | v => if v.isTruthy then .error (noSuchMethod "strip") else .ok none

/-- What stands for names: values one by one, those in one list, or the parts of one text between commas. -/
def nameParts : List Value → List Value
  | [.text s] => (Text.splitOn ',' s).map Value.text
  | [.list items] => items
  | fields => fields

/-- The names that are given to a call. -/
def names (fields : List Value) : Except Failure (List String) := do
  return (← (nameParts fields).mapM name?).filterMap id

/-- An operator as statements write it. -/
def operatorOf (v : Value) : String := Text.toCapitals (Text.trim v.shown)

/-- The fault of a call that a class does not understand. -/
def misuse (s : Schema) (reason : String) : Failure := .ofFault (.usage s.name reason [])

/-- The conditions of a call: one per entry of a dictionary, or one of a field, an operator and a value. -/
def conditionsOf (s : Schema) (j : Junction) (args : List Value) : Except Failure (List Clause) :=
  match args with
  | [.dict entries] => .ok (entries.map fun (k, v) => .compare k.shown "=" v j.word)
  | [field, v] => .ok [.compare field.shown "=" v j.word]
  | [field, operator, v] => .ok [.compare field.shown (operatorOf operator) v j.word]
  | args => .error (misuse s
      ("where takes a mapping, (field, value) or (field, operator, value); got " ++ toString args.length ++
        " arguments"))

/-- The items of a list condition. -/
def itemsOf (v : Value) : Except Failure (List Value) :=
  match v.elements? with
  | some items => .ok items
  | none => .error (.ofPlain .wrongKind "the value has no items")

/-- The number of the class that has a name now, and the name under which its rows are put: the one given, else the
table of the class. -/
def targetOf (classes : Catalogue) (model : String) (name : Option String) : Except Failure (Nat × String) := do
  let c ← classes.get model
  match name.filter (!·.isEmpty) with
  | some name => return (c.number, name)
  | none => return (c.number, (← Model.new c.schema).schema.tableName)

/-- The intent after a call, and whether the call failed. -/
abbrev Step := Intent × Except Failure Unit

/-- The intent after a call that did not fail. -/
def ok (i : Intent) : Step := (i, .ok ())

/-- The intent as it was, if something is wrong, and with a change otherwise. -/
def orElse {α : Type} (i : Intent) (r : Except Failure α) (f : α → Intent) : Step :=
  match r with
  | .ok a => ok (f a)
  | .error e => (i, .error e)

/-- What declaring relations by name does to an intent, up to the first that fails; `run` makes the calls of one. -/
def declare (s : Schema) (run : Intent → List ChainCall → Step) (i : Intent) : List String → Step
  | [] => ok i
  | name :: rest =>
    match s.relations.lookup name with
    | none => (i, .error (misuse s ("relation '" ++ name ++ "' does not exist")))
    | some calls =>
      match run i calls with
      | (i, .ok _) => declare s run i rest
      | failed => failed

/-- What a call does to an intent; `run` makes the calls of a relation. -/
def call (classes : Catalogue) (s : Schema) (run : Intent → List ChainCall → Step) (i : Intent) : ChainCall → Step
  | .select fields =>
    orElse i (names fields) fun columns => if columns.isEmpty then i else { i with select := columns }
  | .selectMore fields excepts =>
    let columns := i.select ++ fields
    ok { i with select := if excepts.isEmpty then columns else columns.filter (!excepts.contains ·) }
  | .join table first operator second type => ok (i.addJoin ⟨table, first, operator, second, Text.toCapitals type⟩)
  | .whereArgs j args => orElse i (conditionsOf s j args) i.addConditions
  | .whereRaw j text => ok (i.addConditions [.raw text j.word])
  | .whereIn negated field values =>
    orElse i (itemsOf values) fun items =>
      i.addConditions [.compare field (if negated then "NOT IN" else "IN") (.list items) Junction.and.word]
  | .whereNull negated field =>
    ok (i.addConditions [.compare field (if negated then "IS NOT" else "IS") (.text "NULL") Junction.and.word])
  | .withTrashed => ok { i with withTrashed := true }
  | .orderBy field direction => ok { i with order := some ⟨field, Text.toCapitals direction.shown⟩ }
  | .groupBy fields =>
    orElse i (names fields) fun columns => if columns.isEmpty then i else { i with groupBy := columns }
  | .limit limit offset => ok { i with limit := limit, offset := offset }
  | .relate kind model foreignKey localKey name callback =>
    orElse i (targetOf classes model name) fun (number, identifier) =>
      i.addRelation ⟨number, foreignKey, localKey, identifier, kind, callback⟩
  | .withRelations fields =>
    match names fields with
    | .ok given => declare s run i given
    | .error e => (i, .error e)
  | .relation method => (s.methods.lookup method).elim (i, .error (noSuchMethod method)) (run i)

/-- What calls do to an intent one after another, up to the first that fails. -/
def callAll (classes : Catalogue) (s : Schema) (run : Intent → List ChainCall → Step) (i : Intent) :
    List ChainCall → Step
  | [] => ok i
  | c :: rest =>
    match call classes s run i c with
    | (i, .ok _) => callAll classes s run i rest
    | failed => failed

/-- What calls do to an intent, those of relations that they declare included; `fuel` bounds how deep relations are
declared within relations. -/
def runCalls (classes : Catalogue) (s : Schema) : (fuel : Nat) → Intent → List ChainCall → Step
  | 0, i, _ => (i, .error (.ofPlain .recursion "maximum recursion depth exceeded"))
  | fuel + 1, i, calls => callAll classes s (runCalls classes s fuel) i calls

/-- How deep relations are declared within relations. -/
def maxDepth : Nat := 400

end Chain

/-- A model after calls, up to the first that fails. -/
def Model.chain (classes : Catalogue) (m : Model) (calls : List ChainCall) : Model × Except Failure Unit :=
  let (i, r) := Chain.runCalls classes m.schema Chain.maxDepth m.intent calls
  ({ m with intent := i }, r)

/-- The statement that the intent of a model stands for now. -/
def Model.statement (m : Model) : Except Failure Layout := m.intent.compile m.schema.tableName

end RecordMapper
