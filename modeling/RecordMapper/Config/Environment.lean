import RecordMapper.Config.Basic
import RecordMapper.Config.SettingsFile

/-!
Settings from environment variables. Each setting has one variable, its suffix behind a prefix that the caller
chooses; a text that is blank means that there is no text, and a number that cannot be read is refused. What is no
text is taken as it is, if the setting can have it.
-/
namespace RecordMapper.Environment

/-- Variables with their values, which are texts for the most part; the last of a name counts. -/
abbrev Variables := List (String × Value)

/-- The value of a variable. -/
def value? (name : String) (vars : Variables) : Option Value := vars.reverse.lookup name

/-- A text setting: blank is none. -/
def readText (raw : String) : Option String :=
  let text := Text.trim raw
  if text.isEmpty then none else some text

/-- The fault of a variable that cannot be read. -/
def refuse (key reason : String) : Fault := .configInvalid key reason []

/-- An integer setting. -/
def readWhole (key raw : String) : Except Fault Int :=
  match Value.toInt (.text (Text.trim raw)) with
  | .ok n => .ok n
  | .error failure => .error (refuse key failure.error.text)

/-- A setting in seconds. -/
def readReal (key raw : String) : Except Fault Float :=
  match Numeral.readFloat? (Text.trim raw).toList with
  | some x => .ok x
  | none => .error (refuse key ("could not convert string to float: " ++ Text.quoted (Text.trim raw)))

/-- A truth setting. -/
def readTruth (key raw : String) : Except Fault Bool :=
  let word := Text.toSmall (Text.trim raw)
  if ["true", "yes", "1"].contains word then .ok true
  else if ["false", "no", "0"].contains word then .ok false
  else .error (refuse key ("not a boolean: " ++ Text.quoted (Text.trim raw)))

/-- A setting read as the kind of value that its default is; what is no text is taken as it is. -/
def coerce (key : String) (raw fallback : Value) : Except Fault Value :=
  match raw, fallback with
  | .text raw, .bool _ => (readTruth key raw).map .bool
  | .text raw, .int _ => (readWhole key raw).map .int
  | .text raw, .real _ => (readReal key raw).map .real
  | .text raw, _ => .ok ((readText raw).elim .null .text)
  | raw, _ => .ok raw

/-- A setting that a variable may change: the suffix of the variable, a value of the kind that a text is read as, and
how a value is set, if it fits. -/
structure Setting where
  suffix : String
  sample : Value
  set? : Value → Config → Option Config

namespace Setting

/-- A setting that takes every value. -/
def ofAny (suffix : String) (sample : Value) (set : Value → Config → Config) : Setting :=
  ⟨suffix, sample, fun v c => some (set v c)⟩

/-- A setting that is a text or not given. -/
def ofText (suffix : String) (set : Option String → Config → Config) : Setting :=
  ⟨suffix, .null, fun v c => match v with
    | .text s => some (set (some s) c)
    | .null => some (set none c)
    | _ => none⟩

/-- A setting that counts something. -/
def ofWhole (suffix : String) (set : Int → Config → Config) : Setting :=
  ⟨suffix, .int 1, fun v c => match v.toNumber? with
    | some (.whole n) => some (set n c)
    | _ => none⟩

/-- A setting that is a number of some kind. -/
def ofNumber (suffix : String) (sample : Value) (set : Number → Config → Config) : Setting :=
  ⟨suffix, sample, fun v c => v.toNumber?.map fun x => set x c⟩

end Setting

/-- The settings in the order in which they are read. -/
def settings : List Setting :=
  let integer : Value := .int 1
  let seconds : Value := .real 1.0
  [.ofText "URL" fun v c => { c with url := v },
   .ofAny "DRIVER" .null fun v c => { c with driver := v },
   .ofAny "HOST" .null fun v c => { c with host := v },
   .ofAny "PORT" integer fun v c => { c with port := v },
   .ofText "USER" fun v c => { c with user := v },
   .ofText "PASSWORD" fun v c => { c with password := v },
   .ofAny "DATABASE" .null fun v c => { c with database := v },
   .ofNumber "POOL_MIN" integer fun v c => { c with poolMin := v },
   .ofNumber "POOL_SIZE" integer fun v c => { c with poolMax := v },
   .ofNumber "CONNECT_TIMEOUT" seconds fun v c => { c with connectTimeout := v },
   .ofWhole "CONNECT_RETRIES" fun v c => { c with connectRetries := v },
   .ofNumber "CONNECT_RETRY_DELAY" seconds fun v c => { c with connectRetryDelay := v },
   .ofWhole "RETRY_ATTEMPTS" fun v c => { c with retryAttempts := v },
   .ofNumber "RETRY_BASE_DELAY" seconds fun v c => { c with retryBaseDelay := v },
   .ofNumber "RETRY_MAX_DELAY" seconds fun v c => { c with retryMaxDelay := v },
   .ofNumber "KEEP_ALIVE_INTERVAL" seconds fun v c => { c with keepAliveInterval := v }]

/-- The failure of a value that its setting cannot have. -/
def unfit (key : String) : Failure :=
  .ofPlain .wrongKind ("the value of '" ++ key ++ "' is of no kind that it can have")

/-- The settings with one of them changed to the value of a variable. -/
def change (s : Setting) (key : String) (raw : Value) (c : Config) : Except Failure Config := do
  let value ← (coerce key raw s.sample).mapError .ofFault
  match s.set? value c with
  | some c => return c
  | none => throw (unfit key)

/-- The settings that variables give, read one after another. -/
def readAll (pre : String) (vars : Variables) : List Setting → Config → Except Failure Config
  | [], c => .ok c
  | s :: rest, c =>
    match value? (pre ++ s.suffix) vars with
    | none => readAll pre vars rest c
    | some raw => do readAll pre vars rest (← change s (pre ++ s.suffix) raw c)

/-- The settings of an environment, if they are within bounds. -/
def configOf (pre : String) (vars : Variables) : Except Failure Config := do
  let c ← readAll pre vars settings {}
  c.validate
  return c

/-- The variables of a file, whose names have a value or none; those without one do not count. -/
def fileVariables (file : List (String × Option String)) : Variables :=
  file.filterMap fun (name, value) => value.map fun text => (name, .text text)

/-- The settings of an environment that the variables of a file stand behind. -/
def configOver (pre : String) (file : List (String × Option String)) (vars : Variables) : Except Failure Config :=
  configOf pre (fileVariables file ++ vars)

/-- The settings of an environment that a file of settings stands behind, as `SettingsFile.read` reads it. `outer` is
what the file's references see besides the file. -/
def configWithFile (pre : String) (file : Option String) (outer : List (String × String)) (vars : Variables) :
    Except Failure Config :=
  configOver pre (file.elim [] (SettingsFile.read outer)) vars

end RecordMapper.Environment
