import RecordMapper.Query.Dialect
import RecordMapper.Store.Basic

/-!
Adapters: what a client talks to instead of a store. An adapter knows whether it is connected; that of a server keeps
a pool, that of a file keeps one connection, and the plain one keeps nothing.
-/
namespace RecordMapper

/-- The kinds of adapters. -/
inductive AdapterKind where
  | stub
  | mysql
  | sqlite
  deriving Repr, DecidableEq, Inhabited

namespace AdapterKind

/-- The name of the dialect. -/
def dialectName : AdapterKind → String
  | stub => "stub"
  | mysql => "mysql"
  | sqlite => "sqlite"

/-- The dialect that statements are adapted to. -/
def dialect : AdapterKind → Dialect
  | stub => .plain
  | mysql => .mysql
  | sqlite => .sqlite

def name : AdapterKind → String
  | stub => "StubAdapter"
  | mysql => "MySQLAdapter"
  | sqlite => "SQLiteAdapter"

/-- The adapter for a driver. -/
def ofDriver (driver : String) : Except Fault AdapterKind :=
  if driver == "sqlite" then .ok sqlite
  else if driver == "mysql" then .ok mysql
  else .error (.connection ("<" ++ driver ++ ">") ("No adapter registered for driver: " ++ driver) [])

end AdapterKind

/-- A pool with its connections, all and those not in use, and its bounds. -/
structure Pool where
  size : Value
  free : Value
  least : Value
  most : Value
  deriving Inhabited

/-- An adapter. `pool` is what it holds open: a pool of a server, or the one connection to a file. -/
structure Adapter where
  kind : AdapterKind
  connected : Bool
  pool : Option Pool
  deriving Inhabited

namespace Adapter

/-- An adapter that is not connected. -/
def fresh (kind : AdapterKind) : Adapter := ⟨kind, false, none⟩

/-- The text of an adapter. -/
def quoted (a : Adapter) : String :=
  "<" ++ a.kind.name ++ " dialect=" ++ a.kind.dialectName ++ " connected=" ++ Value.boolShown a.connected ++ ">"

/-- The one slot of an adapter without a pool. -/
def singleSlot (a : Adapter) : Pool := ⟨.int (if a.connected then 1 else 0), .null, .int 1, .int 1⟩

/-- What a server's adapter reports when it has no pool. -/
def noPool : Pool := ⟨.int 0, .int 0, .null, .null⟩

end Adapter

end RecordMapper
