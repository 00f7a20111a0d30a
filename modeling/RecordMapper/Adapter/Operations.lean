import RecordMapper.Adapter.File
import RecordMapper.Query.Dialect

/-!
What adapters do: connect, disconnect, run a statement, probe, and report on their pool. Connecting and disconnecting
let others go on once; a statement never does. An adapter with a driver refuses statements while it is not connected.
-/
namespace RecordMapper.Adapter

open Operation

/-! ### Plain adapter -/

/-- Connects again even when connected. -/
def connectStub (url : String) (options : Row) : Operation Unit := do
  emit (.connect url options)
  yield
  nextConnect
  changeAdapter fun a => { a with connected := true }

/-- Stays connected if disconnecting fails. -/
def disconnectStub : Operation Unit := do
  emit .disconnect
  yield
  failWith? (← system).store.disconnectError
  changeAdapter fun a => { a with connected := false }

/-- The answer to a statement, as it is. -/
def executeStub (sql : String) (params : Option (List Value)) : Operation Answer := do
  emit (.execute sql params)
  match ← reply with
  | .rows rows => return .rows (rows.map Row.ofPairs)
  | .count n id => return .summary ⟨n, id, .null⟩
  | .fail e => throw (.ofError e)
  | .value v => return .value v

def pingStub : Operation Unit := do
  emit .ping
  change fun s => { s with store := s.store.wait s.store.pingLatency }
  failWith? (← system).store.pingError

/-! ### Servers -/

/-- The arguments of a pool: the address that the URL gives, then the options, then the automatic commit. -/
def poolArguments (address : ServerAddress) (options : Row) : Row :=
  let optional (name : String) (s : Option String) : Row := (s.map fun s => [(name, .text s)]).getD []
  let arguments := Row.override
    ([("host", .text address.host), ("port", .int address.port)] ++ optional "user" address.user ++
      optional "password" address.password ++ optional "db" address.database) options
  if Row.has arguments "autocommit" then arguments else arguments ++ [("autocommit", .bool true)]

/-- The pool that arguments make: as many connections as it has at least, none of them in use. -/
def poolOf (arguments : Row) : Pool :=
  let least := (Row.value? "minsize" arguments).getD (.int 1)
  ⟨least, least, least, (Row.value? "maxsize" arguments).getD (.int 10)⟩

def connectServer (url : String) (options : Row) : Operation Unit := do
  if (← system).adapter.connected then return
  let address ← ofResult ((ServerAddress.ofUrl url).mapError UrlError.failure)
  let arguments := poolArguments address options
  emit (.createPool arguments)
  yield
  nextConnect
  changeAdapter fun a => { a with connected := true, pool := some (poolOf arguments) }

/-- Closes the pool and waits until its connections are closed; if that fails, nothing is changed. -/
def disconnectServer : Operation Unit := do
  let a := (← system).adapter
  if !a.connected then return
  if a.pool.isSome then
    emit .poolClose
    emit .poolWaitClosed
    yield
    failWith? (← system).store.disconnectError
    changeAdapter fun a => { a with pool := none }
  changeAdapter fun a => { a with connected := false }

/-- The failure of a statement without connection. -/
def notConnected (store : String) : Failure := .ofPlain .connection ("Not connected to " ++ store)

/-- The failure of an adapter that counts as connected and holds nothing open. -/
def nothingOpen (member : String) : Failure :=
  .ofPlain .missingAttribute ("'NoneType' object has no attribute '" ++ member ++ "'")

/-- The summary of a change as a server reports it: never less than no rows, and the identifier zero is none. -/
def serverSummary (count : Int) (id : Option Int) : Summary := ⟨max count 0, id.filter (· != 0), .null⟩

/-- The marks of a statement are adapted only if it has bindings. -/
def executeServer (sql : String) (params : Option (List Value)) : Operation Answer := do
  let a := (← system).adapter
  if !a.connected then throw (notConnected "MySQL")
  let (sql, bindings) ← ofResult (expandBindings sql (params.getD []))
  let sql := if bindings.isEmpty then sql else Dialect.adaptMySQL sql
  if a.pool.isNone then throw (nothingOpen "acquire")
  emit (.execute sql (if bindings.isEmpty then none else some bindings))
  match ← reply with
  | .rows rows => return .rows (rows.map Row.ofPairs)
  | .count n id => return .summary (serverSummary n id)
  | .fail e => throw (.ofError e)
  | .value _ => return .summary (serverSummary (-1) none)

/-- Runs the statement that every probe of a driver runs. -/
def probe : Operation Unit := do
  emit (.execute "SELECT 1" none)
  match ← reply with
  | .fail e => throw (.ofError e)
  | _ => return

def pingServer : Operation Unit := do
  let a := (← system).adapter
  if !a.connected then throw (notConnected "MySQL")
  if a.pool.isNone then throw (nothingOpen "acquire")
  probe

/-! ### Files -/

/-- The options that the driver of a file takes. -/
def fileOptions (options : Row) : Row :=
  let timeout := Row.value options "connect_timeout"
  if timeout.isNull then [] else [("timeout", timeout)]

def connectFile (url : String) (options : Row) : Operation Unit := do
  if (← system).adapter.connected then return
  locked .adapter do
    if (← system).adapter.connected then return
    emit (.openFile (filePath url) (fileOptions options))
    yield
    nextConnect
    changeAdapter fun a => { a with pool := some a.singleSlot }
    emit (.execute "PRAGMA foreign_keys=ON" none)
    changeAdapter fun a => { a with connected := true }

def disconnectFile : Operation Unit := do
  if !(← system).adapter.connected then return
  locked .adapter do
    if (← system).adapter.pool.isSome then
      emit .close
      yield
      failWith? (← system).store.disconnectError
      changeAdapter fun a => { a with pool := none }
    changeAdapter fun a => { a with connected := false }

/-- A statement on a file over any driver. -/
def executeThrough (d : FileDriver) (sql : String) (params : Option (List Value)) : Operation Answer := do
  let a := (← system).adapter
  if !a.connected then throw (notConnected "SQLite")
  let (sql, bindings) ← ofResult (expandBindings (Dialect.adaptSQLite sql) (params.getD []))
  locked .adapter do
    if (← system).adapter.pool.isNone then throw (nothingOpen "execute")
    d.send sql (bindings.map Dialect.toSQLite)

/-- A statement on a file over the driver that goes by the store's script. -/
def executeFile (sql : String) (params : Option (List Value)) : Operation Answer :=
  executeThrough .scripted sql params

def pingFile : Operation Unit := do
  if !(← system).adapter.connected then throw (notConnected "SQLite")
  locked .adapter do
    if (← system).adapter.pool.isNone then throw (nothingOpen "execute")
    probe
    emit .cursorClose

/-! ### Any adapter -/

/-- Connects to the store at a URL. -/
def connect (url : String) (options : Row) : Operation Unit := do
  match (← system).adapter.kind with
  | .stub => connectStub url options
  | .mysql => connectServer url options
  | .sqlite => connectFile url options

def disconnect : Operation Unit := do
  match (← system).adapter.kind with
  | .stub => disconnectStub
  | .mysql => disconnectServer
  | .sqlite => disconnectFile

/-- Runs a statement. -/
def execute (sql : String) (params : Option (List Value)) : Operation Answer := do
  match (← system).adapter.kind with
  | .stub => executeStub sql params
  | .mysql => executeServer sql params
  | .sqlite => executeFile sql params

/-- Finds out whether the store is there. -/
def ping : Operation Unit := do
  match (← system).adapter.kind with
  | .stub => pingStub
  | .mysql => pingServer
  | .sqlite => pingFile

/-- What the adapter knows about its pool. -/
def poolStats : Operation Pool := do
  let s ← system
  match s.adapter.kind with
  | .stub => do
    failWith? s.store.statsError
    return s.adapter.singleSlot
  | .mysql => return s.adapter.pool.getD noPool
  | .sqlite => return s.adapter.singleSlot

end RecordMapper.Adapter
