import RecordMapper.Row

/-!
Intents: what a query is to do, not yet as a statement. An intent is a value; every call of a chain makes a new one.
The calls themselves are data too, because a relation may carry calls for the query that it will make.
-/
namespace RecordMapper

/-- What a statement does. -/
inductive Action where
  | select
  | insert
  | insertIgnore
  | insertUpdate
  | update
  | delete
  deriving Repr, DecidableEq, Inhabited

namespace Action

def name : Action → String
  | select => "select"
  | insert => "insert"
  | insertIgnore => "insert_ignore"
  | insertUpdate => "insert_update"
  | update => "update"
  | delete => "delete"

def all : List Action := [select, insert, insertIgnore, insertUpdate, update, delete]

/-- The action with a name. -/
def ofName? (s : String) : Option Action := all.find? fun a => a.name == s

end Action

/-- The action of an intent as it was given: an action, or a value that names none. -/
inductive ActionTag where
  | known (a : Action)
  | unknown (v : Value)
  deriving Inhabited

namespace ActionTag

/-- The action that a value names. -/
def ofValue (v : Value) : ActionTag :=
  match v with
  | .text s => match Action.ofName? s with
    | some a => known a
    | none => unknown v
  | v => unknown v

def toValue : ActionTag → Value
  | known a => .text a.name
  | unknown v => v

end ActionTag

/-- How a condition is joined to the ones before it. -/
inductive Junction where
  | and
  | or
  deriving Repr, DecidableEq, Inhabited

/-- The word between two conditions. -/
def Junction.word : Junction → String
  | and => "AND"
  | or => "OR"

/-- A condition, with the word that joins it to the ones before it. -/
inductive Clause where
  | compare (field operator : String) (value : Value) (junction : String)
  | raw (text junction : String)
  deriving Inhabited

/-- The word that joins a condition to the ones before it. -/
def Clause.junction : Clause → String
  | compare _ _ _ j => j
  | raw _ j => j

/-- A join of a table. -/
structure Join where
  table : String
  first : String
  operator : String
  second : String
  type : String
  deriving Repr, DecidableEq, Inhabited

/-- The column that rows are ordered by. -/
structure Order where
  field : String
  direction : String
  deriving Repr, DecidableEq, Inhabited

/-- How the rows of two tables belong together. -/
inductive RelationKind where
  | hasMany
  | hasOne
  | belongsTo
  deriving Repr, DecidableEq, Inhabited

def RelationKind.name : RelationKind → String
  | hasMany => "has_many"
  | hasOne => "has_one"
  | belongsTo => "belongs_to"

/-- A call of a chain. -/
inductive ChainCall where
  | select (fields : List Value)
  | selectMore (fields excepts : List String)
  | join (table first operator second type : String)
  | whereArgs (junction : Junction) (args : List Value)
  | whereRaw (junction : Junction) (text : String)
  | whereIn (negated : Bool) (field : String) (values : Value)
  | whereNull (negated : Bool) (field : String)
  | withTrashed
  | orderBy (field : String) (direction : Value)
  | groupBy (fields : List Value)
  | limit (limit offset : Value)
  | relate (kind : RelationKind) (model : String) (foreignKey localKey : String) (name : Option String)
      (callback : Option (List ChainCall))
  | withRelations (names : List Value)
  | relation (method : String)
  deriving Inhabited

/-- A relation to be loaded with the rows of a query; `model` is the number of the related class, which stays the same
whatever is declared later. `foreignKey` is a column of the side that points, `localKey` of the side that is pointed
at. -/
structure Relation where
  model : Nat
  foreignKey : String
  localKey : String
  identifier : String
  kind : RelationKind
  callback : Option (List ChainCall)
  deriving Inhabited

namespace Relation

/-- The column of the parent's rows that the relation goes by. -/
def parentKey (r : Relation) : String := if r.kind = .belongsTo then r.foreignKey else r.localKey

/-- The column of the related rows that the relation goes by. -/
def relatedKey (r : Relation) : String := if r.kind = .belongsTo then r.localKey else r.foreignKey

/-- Whether a parent may have several related rows. -/
def isMany (r : Relation) : Bool := r.kind == .hasMany

end Relation

/-- A query that has not been made yet. `limit` and `offset` are null where there is none. -/
structure Intent where
  action : ActionTag := .known .select
  select : List String := []
  data : Option Row := none
  conditions : List Clause := []
  joins : List Join := []
  order : Option Order := none
  groupBy : List String := []
  limit : Value := .null
  offset : Value := .null
  relations : List Relation := []
  rawQuery : Option String := none
  withTrashed : Bool := false
  deriving Inhabited

namespace Intent

/-- The intent without any call. -/
def empty : Intent := {}

/-- Whether no call has left a trace. -/
def isEmpty (i : Intent) : Bool :=
  (match i.action with
    | .known .select => true
    | _ => false) &&
  i.select.isEmpty && i.data.isNone && i.conditions.isEmpty && i.joins.isEmpty && i.order.isNone &&
  i.groupBy.isEmpty && i.limit.isNull && i.offset.isNull && i.relations.isEmpty && i.rawQuery.isNone &&
  !i.withTrashed

/-- Conditions behind those that are there. -/
def addConditions (i : Intent) (clauses : List Clause) : Intent := { i with conditions := i.conditions ++ clauses }

/-- A join behind those that are there. -/
def addJoin (i : Intent) (j : Join) : Intent := { i with joins := i.joins ++ [j] }

/-- A relation behind those that are there; one of the same identifier goes away. -/
def addRelation (i : Intent) (r : Relation) : Intent :=
  { i with relations := (i.relations.filter fun s => s.identifier != r.identifier) ++ [r] }

end Intent

end RecordMapper
