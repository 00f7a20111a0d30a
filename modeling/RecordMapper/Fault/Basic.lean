import RecordMapper.Row
import RecordMapper.Value.Shown

/-!
Faults: what went wrong as a stable code, a message, the layer it belongs to, how loud to be about it, whether
another try may help, and details. Each kind of fault has one function that builds it from its particulars; further
details given by the caller come last and win over the fault's own.
-/
namespace RecordMapper

/-- How loudly a caller should react. -/
inductive Severity where
  | info
  | warn
  | error
  | fatal
  deriving Repr, DecidableEq, Inhabited

def Severity.name : Severity → String
  | info => "info"
  | warn => "warn"
  | error => "error"
  | fatal => "fatal"

/-- The layer in which a fault arose. A domain is its name; the description is for people. -/
structure Domain where
  name : String
  description : String
  deriving Repr, Inhabited

namespace Domain

def config : Domain := ⟨"config", "Configuration errors"⟩
def model : Domain := ⟨"model", "Entity model misuse"⟩
def query : Domain := ⟨"query", "Query compilation errors"⟩
def store : Domain := ⟨"store", "Store execution and connection errors"⟩
def data : Domain := ⟨"data", "Data integrity and serialization errors"⟩

/-- The domains of the library's own faults. -/
def standard : List Domain := [config, model, query, store, data]

/-- Two domains are one if their names are. -/
def isSame (a b : Domain) : Bool := a.name == b.name

/-- Whether a domain is what a value shows. -/
def isShownBy (a : Domain) (v : Value) : Bool := a.name == v.shown

/-- The severity of a fault that names none. -/
def severity (a : Domain) : Severity := if a.isSame config then .fatal else .error

/-- The text that tells a domain from a name. -/
def quoted (a : Domain) : String := "FaultDomain(name='" ++ a.name ++ "')"

end Domain

/-- The kinds of faults. -/
inductive FaultKind where
  | plain
  | config
  | configMissing
  | configInvalid
  | usage
  | compile
  | store
  | transient
  | permanent
  | retryExhausted
  | connection
  | integrity
  | serialization
  deriving Repr, DecidableEq, Inhabited

namespace FaultKind

def name : FaultKind → String
  | plain => "Fault"
  | config => "ConfigFault"
  | configMissing => "ConfigMissingFault"
  | configInvalid => "ConfigInvalidFault"
  | usage => "UsageFault"
  | compile => "CompileFault"
  | store => "StoreFault"
  | transient => "TransientStoreFault"
  | permanent => "PermanentStoreFault"
  | retryExhausted => "RetryExhaustedFault"
  | connection => "StoreConnectionFault"
  | integrity => "DataIntegrityFault"
  | serialization => "SerializationFault"

/-- The next more general kind. -/
def parent : FaultKind → Option FaultKind
  | plain => none
  | config | usage | compile | store | integrity => some plain
  | configMissing | configInvalid => some config
  | transient | permanent | retryExhausted | connection => some store
  | serialization => some integrity

/-- The kind and the more general ones. -/
def lineage (k : FaultKind) : List FaultKind :=
  match k.parent with
  | none => [k]
  | some p => match p.parent with
    | none => [k, p]
    | some q => [k, p, q]

/-- All kinds. -/
def all : List FaultKind :=
  [plain, config, configMissing, configInvalid, usage, compile, store, transient, permanent, retryExhausted,
    connection, integrity, serialization]

/-- Short names of some kinds. -/
def aliases : List (String × FaultKind) :=
  [("UsageError", usage), ("CompileError", compile), ("TransientStoreError", transient),
   ("PermanentStoreError", permanent), ("DataIntegrityError", integrity), ("SerializationError", serialization)]

/-- The kind with a name or a short name. -/
def ofName? (s : String) : Option FaultKind :=
  match all.find? fun k => k.name == s with
  | some k => some k
  | none => aliases.lookup s

end FaultKind

/-- A fault. `subkind` names a caller's own kind below `kind`. -/
structure Fault where
  kind : FaultKind
  subkind : Option String
  code : String
  message : String
  domain : Domain
  severity : Severity
  retryable : Bool
  metadata : Row
  deriving Inhabited

namespace Fault

/-- The name of the fault's kind. -/
def kindName (f : Fault) : String := f.subkind.getD f.kind.name

/-- The names of the fault's kind and of the more general ones. -/
def lineage (f : Fault) : List String := f.subkind.toList ++ f.kind.lineage.map FaultKind.name

/-- The text of a fault. -/
def text (f : Fault) : String := "[" ++ f.code ++ "] " ++ f.message

/-- The text that shows what a program decides by. -/
def quoted (f : Fault) : String :=
  "Fault(code=" ++ Text.quoted f.code ++ ", domain=" ++ f.domain.name ++ ", severity=" ++ f.severity.name ++
    ", retryable=" ++ Value.boolShown f.retryable ++ ")"

/-- What a caller's own kind of fault says by itself where a fault of that kind is silent. -/
structure Defaults where
  subkind : Option String
  code : Option String
  message : Option String
  domain : Option Domain

/-- Nothing is said by itself. -/
def Defaults.none : Defaults := ⟨.none, .none, .none, .none⟩

/-- A fault made from its parts, where severity and retryability may be left to the domain. -/
def ofParts (kind : FaultKind) (subkind : Option String) (code message : String) (domain : Domain)
    (severity : Option Severity) (retryable : Option Bool) (metadata : Row) : Fault :=
  ⟨kind, subkind, code, message, domain, severity.getD domain.severity, retryable.getD false, metadata⟩

/-- A fault whose code, message and domain may be left to the defaults; `none` if one is in neither. -/
def make? (kind : FaultKind) (defaults : Defaults) (code message : Option String) (domain : Option Domain)
    (severity : Option Severity) (retryable : Option Bool) (metadata : Row) : Option Fault := do
  let code ← code.or defaults.code
  let message ← message.or defaults.message
  let domain ← domain.or defaults.domain
  return ofParts kind defaults.subkind code message domain severity retryable metadata

/-- The message that a part is missing. -/
def missingPart (kindName : String) : String := kindName ++ " missing required code, message, or domain"

/-- A fault of the configuration domain. -/
def config (code message : String) (severity : Option Severity) (details : Row) : Fault :=
  ofParts .config none code message .config severity (some false) details

/-- A setting that is not there. -/
def configMissing (key : String) (more : Row) : Fault :=
  ofParts .configMissing none "CONFIG_MISSING" ("Required configuration key '" ++ key ++ "' is missing") .config
    (some .fatal) (some false) (Row.override [("key", .text key)] more)

/-- A setting that cannot be. -/
def configInvalid (key reason : String) (more : Row) : Fault :=
  ofParts .configInvalid none "CONFIG_INVALID" ("Configuration key '" ++ key ++ "' is invalid: " ++ reason) .config
    (some .fatal) (some false) (Row.override [("key", .text key), ("reason", .text reason)] more)

/-- A model used in a way that it does not allow. -/
def usage (model reason : String) (more : Row) : Fault :=
  ofParts .usage none "MODEL_USAGE" ("Invalid use of '" ++ model ++ "': " ++ reason) .model none (some false)
    (Row.override [("model", .text model), ("reason", .text reason)] more)

/-- An intent that has no statement. -/
def compile (table action reason : String) (more : Row) : Fault :=
  ofParts .compile none "QUERY_COMPILE_FAILED" ("Cannot compile " ++ action ++ " on '" ++ table ++ "': " ++ reason)
    .query none (some false)
    (Row.override [("table", .text table), ("action", .text action), ("reason", .text reason)] more)

/-- A fault of the store domain. -/
def store (code message : String) (severity : Option Severity) (retryable : Option Bool) (details : Row) : Fault :=
  ofParts .store none code message .store severity retryable details

/-- A failure of the connection that may pass. -/
def transient (reason : String) (more : Row) : Fault :=
  ofParts .transient none "STORE_TRANSIENT" ("Transient store failure: " ++ reason) .store (some .warn) (some true)
    (Row.override [("reason", .text reason)] more)

/-- A statement that the store will not run. -/
def permanent (reason : String) (more : Row) : Fault :=
  ofParts .permanent none "STORE_PERMANENT" ("Store rejected statement: " ++ reason) .store (some .error)
    (some false) (Row.override [("reason", .text reason)] more)

/-- Failures that did not pass within the attempts allowed. -/
def retryExhausted (attempts : Int) (reason : String) (more : Row) : Fault :=
  ofParts .retryExhausted none "STORE_RETRY_EXHAUSTED"
    ("Statement failed after " ++ toString attempts ++ " attempts: " ++ reason) .store (some .error) (some false)
    (Row.override [("attempts", .int attempts), ("reason", .text reason)] more)

/-- A connection that could not be opened or closed. -/
def connection (url reason : String) (more : Row) : Fault :=
  ofParts .connection none "STORE_CONNECTION_FAILED" ("Store connection failed (" ++ url ++ "): " ++ reason) .store
    (some .fatal) (some true) (Row.override [("url", .text url), ("reason", .text reason)] more)

/-- Stored data that cannot be right. -/
def integrity (reason code : String) (more : Row) : Fault :=
  ofParts .integrity none code ("Data integrity violated: " ++ reason) .data none (some false)
    (Row.override [("reason", .text reason)] more)

/-- The code of an integrity fault that names none. -/
def integrityCode : String := "DATA_INTEGRITY"

/-- A value that a cast cannot convert. -/
def serialization (column cast reason : String) (more : Row) : Fault :=
  let reason := "column '" ++ column ++ "' (" ++ cast ++ "): " ++ reason
  { integrity reason "DATA_SERIALIZATION" (Row.override [("column", .text column), ("cast", .text cast)] more) with
    kind := .serialization }

end Fault

end RecordMapper
