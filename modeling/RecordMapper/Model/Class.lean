import RecordMapper.Fault.Failure
import RecordMapper.Query.Intent
import RecordMapper.Record.Cast
import RecordMapper.Record.Guard

/-!
Classes of models. A class declares some attributes and some relations of its own and takes the others from the
classes that it extends, in the order of its lineage: each class before those it extends, and the classes that one
class extends in the order in which it names them. A class whose order has no such lineage is refused.
-/
namespace RecordMapper

/-- A relation that a class declares: the name of its method, the name it is registered under if that is another, and
the calls that it makes. -/
structure RelationDeclaration where
  method : String
  register : Option String
  calls : List ChainCall
  deriving Inhabited

/-- What a class declares by itself; what is not declared is `none`. -/
structure Declaration where
  name : String
  bases : List String := []
  table : Option (Option String) := none
  primaryKey : Option String := none
  uuidColumn : Option (Option String) := none
  fillable : Option (List String) := none
  guarded : Option (List String) := none
  hidden : Option (List String) := none
  timestamps : Option Bool := none
  softDelete : Option Bool := none
  perPage : Option Value := none
  casts : Option (Option Casts) := none
  relations : List RelationDeclaration := []
  deriving Inhabited

/-- Relations by the names under which they are registered. -/
abbrev Registry := List (String × List ChainCall)

namespace Registry

/-- Registers a relation, at the place of its name if there is one. -/
def set (name : String) (calls : List ChainCall) : Registry → Registry
  | [] => [(name, calls)]
  | (n, c) :: rest => if n = name then (n, calls) :: rest else (n, c) :: set name calls rest

/-- The relations of `later` registered on top. -/
def override (registry later : Registry) : Registry := later.foldl (fun done (n, c) => set n c done) registry

/-- The names in order of their letters. -/
def names (registry : Registry) : List String := (registry.map Prod.fst).mergeSort

end Registry

namespace Declaration

/-- The relations that a class declares, by name: a blank name is no name, and of two methods of one name the later
takes the place of the earlier. -/
def ownRelations (d : Declaration) : Registry :=
  let methods := d.relations.foldl
    (fun done r => if done.any fun (s : RelationDeclaration) => s.method == r.method
      then done.map fun s => if s.method == r.method then r else s else done ++ [r]) []
  methods.foldl (fun done r => Registry.set ((r.register.filter (!·.isEmpty)).getD r.method) r.calls done) []

/-- The relations that a class declares, by the names of their methods. -/
def ownMethods (d : Declaration) : Registry := d.relations.map fun r => (r.method, r.calls)

end Declaration

/-- A class as other classes and models see it, with every attribute settled: its relations by the names under which
they are registered, and by those of their methods. -/
structure Schema where
  name : String
  table : Option String
  primaryKey : String
  uuidColumn : Option String
  fillable : List String
  guarded : List String
  hidden : List String
  timestamps : Bool
  softDelete : Bool
  perPage : Value
  casts : Option Casts
  relations : Registry
  methods : Registry
  deriving Inhabited

namespace Schema

/-- Which columns of a record may be set. -/
def guard (s : Schema) : Guard := ⟨s.fillable, s.guarded⟩

/-- The casts of a class. -/
def castList (s : Schema) : Casts := s.casts.getD []

/-- The table of a class, if one is set. -/
def tableName? (s : Schema) : Option String := s.table.filter (!·.isEmpty)

/-- The table of a class. -/
def tableName (s : Schema) : String := s.table.getD ""

/-- The name of the class that all others extend. -/
def rootName : String := "Model"

/-- The attributes of the class that all others extend. -/
def root : Schema :=
  { name := rootName, table := some "", primaryKey := "id", uuidColumn := none, fillable := [], guarded := [],
    hidden := [], timestamps := true, softDelete := false, perPage := .int 10, casts := some [], relations := [],
    methods := [] }

end Schema

/-- A class that has been declared: its number, its lineage as numbers, itself first, and what it is. -/
structure ModelClass where
  number : Nat
  declaration : Declaration
  lineage : List Nat
  schema : Schema
  deriving Inhabited

/-- The classes declared so far, the latest first; of two of one name the latest counts. -/
abbrev Catalogue := List ModelClass

namespace Catalogue

/-- The class that all others extend. -/
def rootClass : ModelClass := ⟨0, { name := Schema.rootName }, [0], .root⟩

/-- Before anything is declared there is only the class that all others extend. -/
def start : Catalogue := [rootClass]

/-- The class with a name. -/
def find? (name : String) (classes : Catalogue) : Option ModelClass := List.find? (·.declaration.name == name) classes

/-- The class with a number. -/
def byNumber? (number : Nat) (classes : Catalogue) : Option ModelClass := List.find? (·.number == number) classes

/-- Takes the first head that no list holds further back, from all lists, until all are empty; `fuel` is more than
the length of all lists together. -/
def merge? : (fuel : Nat) → List (List Nat) → Option (List Nat)
  | 0, _ => none
  | fuel + 1, lists =>
    let lists := lists.filter (!·.isEmpty)
    if lists.isEmpty then some []
    else do
      let next ← (lists.filterMap List.head?).find? fun h => lists.all fun l => !(l.drop 1).contains h
      let rest ← merge? fuel (lists.map fun l => if l.head? == some next then l.drop 1 else l)
      return next :: rest

/-- The lineage of a class that extends others, without itself. -/
def ancestors? (parents : List ModelClass) : Option (List Nat) :=
  let lists := parents.map ModelClass.lineage ++ [parents.map ModelClass.number]
  merge? (lists.flatten.length + 1) lists

/-- An attribute as the first class of a lineage declares it. -/
def attributeOf {α : Type} (lineage : List Declaration) (get : Declaration → Option α) (default : α) : α :=
  (lineage.findSome? get).getD default

/-- What a class is whose lineage declares this, and whose ancestors have these registries, the nearest first. -/
def settle (name : String) (lineage : List Declaration) (own : Registry) (inherited : List Registry) : Schema :=
  let root := Schema.root
  { name := name
    table := attributeOf lineage Declaration.table root.table
    primaryKey := attributeOf lineage Declaration.primaryKey root.primaryKey
    uuidColumn := attributeOf lineage Declaration.uuidColumn root.uuidColumn
    fillable := attributeOf lineage Declaration.fillable root.fillable
    guarded := attributeOf lineage Declaration.guarded root.guarded
    hidden := attributeOf lineage Declaration.hidden root.hidden
    timestamps := attributeOf lineage Declaration.timestamps root.timestamps
    softDelete := attributeOf lineage Declaration.softDelete root.softDelete
    perPage := attributeOf lineage Declaration.perPage root.perPage
    casts := attributeOf lineage Declaration.casts root.casts
    relations := Registry.override (inherited.reverse.foldl Registry.override []) own
    methods := (lineage.reverse.map Declaration.ownMethods).foldl Registry.override [] }

/-- The failure of a name that no class has. -/
def noSuchClass : Failure := .ofPlain .wrongKind "there is no such class"

/-- The class that has a name now. -/
def get (name : String) (classes : Catalogue) : Except Failure ModelClass :=
  (classes.find? name).elim (.error noSuchClass) .ok

/-- The failure of a class without lineage. -/
def noLineage : Failure := .ofPlain .wrongKind "the classes that the class extends have no common order"

/-- The classes that a class extends: the latest of each name, and the class that all others extend if it names
none, whatever else has been declared under that class's name. -/
def parentsOf (d : Declaration) (classes : Catalogue) : Except Failure (List ModelClass) :=
  if d.bases.isEmpty then .ok [rootClass]
  else d.bases.mapM fun n => classes.get n

/-- Declares a class; its casts must be casts. -/
def declare (d : Declaration) (classes : Catalogue) : Except Failure ModelClass := do
  let parents ← parentsOf d classes
  let ancestors ← (ancestors? parents).elim (.error noLineage) .ok
  let above := ancestors.filterMap classes.byNumber?
  let number := classes.length
  let lineage := d :: above.map ModelClass.declaration
  let schema := settle d.name lineage d.ownRelations (above.map fun c => c.schema.relations)
  (schema.castList.validate d.name).mapError .ofFault
  return ⟨number, d, number :: ancestors, schema⟩

end Catalogue

end RecordMapper
