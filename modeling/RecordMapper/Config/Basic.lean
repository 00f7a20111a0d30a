import RecordMapper.Config.Address
import RecordMapper.Number.Basic
import RecordMapper.Value.Whole

/-!
Settings of a client: where the store is, how large the pool may be, how often and how fast to try again. A setting
that is a URL stands for the parts, and every text that is shown to people has the password masked.
-/
namespace RecordMapper

/-- The settings. Delays are in seconds and may be integers or floats. Driver, host, port and database are values that
stand in a URL as they are shown. -/
structure Config where
  url : Option String := none
  driver : Value := .text "mysql"
  host : Value := .text "localhost"
  port : Value := .int 3306
  user : Option String := none
  password : Option String := none
  database : Value := .null
  poolMin : Number := .whole 1
  poolMax : Number := .whole 10
  connectTimeout : Number := .real 10.0
  connectRetries : Int := 3
  connectRetryDelay : Number := .real 0.5
  retryAttempts : Int := 3
  retryBaseDelay : Number := .real 0.1
  retryMaxDelay : Number := .real 5.0
  keepAliveInterval : Number := .real 30.0
  deriving Inhabited

namespace Config

/-- The drivers that there are adapters for. -/
def supportedDrivers : List String := ["mysql", "sqlite"]

/-- The text of a setting, if it is there and not empty. -/
def given? (s : Option String) : Option String := s.filter (!·.isEmpty)

/-- The driver that the scheme of the URL names, up to a plus sign; else the driver that is set. -/
def resolvedDriver (c : Config) : Except UrlError Value :=
  match given? c.url with
  | none => .ok c.driver
  | some url => do
    let u ← Url.parse url
    let name := (Url.splitBehind '+' u.scheme).1
    return if name.isEmpty then c.driver else .text (String.ofList name)

/-- A text in percent encoding. -/
def encoded (s : String) : String := String.ofList (Text.percentEncode s.toList)

/-- User and password as a URL shows them in front of the host. -/
def credentials (c : Config) : String :=
  match given? c.user with
  | none => ""
  | some user =>
    let password := match given? c.password with
      | none => ""
      | some password => ":" ++ encoded password
    encoded user ++ password ++ "@"

/-- The database as it stands in a URL, or what stands there without one. -/
def databaseOr (c : Config) (otherwise : String) : String :=
  if c.database.isTruthy then c.database.shown else otherwise

/-- The URL of the store. -/
def toUrl (c : Config) : String :=
  match given? c.url with
  | some url => url
  | none =>
    if c.driver.sameKey (.text "sqlite") then "sqlite:///" ++ c.databaseOr memoryPath
    else
      c.driver.shown ++ "://" ++ c.credentials ++ c.host.shown ++ ":" ++ c.port.shown ++ "/" ++ c.databaseOr ""

/-- The URL of the store with its password masked. -/
def redactedUrl (c : Config) : Except UrlError String := do
  let u ← Url.parse c.toUrl
  return if u.password.isEmpty then c.toUrl else String.ofList u.redacted.text

/-- Refuses settings with a bad one, which is named. -/
def refuse (key reason : String) : Except Failure Unit := .error (.ofFault (.configInvalid key reason []))

/-- Refuses a delay below zero. -/
def checkDelay (key : String) (delay : Number) : Except Failure Unit :=
  if delay.lt (.whole 0) then refuse key "must not be negative" else .ok ()

/-- Refuses a driver without adapter. -/
def checkDriver (driver : Value) : Except Failure Unit :=
  if supportedDrivers.any fun name => driver.sameKey (.text name) then .ok ()
  else refuse "driver" ("unsupported driver '" ++ driver.shown ++ "'")

/-- Refuses a smallest pool below zero or above the greatest one. The reason shows the greatest, which fails if it has
too many digits for that. -/
def checkPoolMin (least most : Number) : Except Failure Unit :=
  if least.lt (.whole 0) || most.lt least then
    match (Value.ofNumber most).checkShown 0 with
    | .ok _ => refuse "pool_min" ("must be between 0 and pool_max (" ++ (Value.ofNumber most).shown ++ ")")
    | .error problem => .error (.ofPlain .value problem.message)
  else .ok ()

/-- Refuses settings out of bounds, the first that is. -/
def validate (c : Config) : Except Failure Unit := do
  checkDriver (← c.resolvedDriver.mapError UrlError.failure)
  if c.poolMax.lt (.whole 1) then refuse "pool_max" "must be at least 1"
  checkPoolMin c.poolMin c.poolMax
  if c.retryAttempts < 1 then refuse "retry_attempts" "must be at least 1"
  if c.connectRetries < 1 then refuse "connect_retries" "must be at least 1"
  checkDelay "connect_timeout" c.connectTimeout
  checkDelay "connect_retry_delay" c.connectRetryDelay
  checkDelay "retry_base_delay" c.retryBaseDelay
  checkDelay "retry_max_delay" c.retryMaxDelay
  checkDelay "keep_alive_interval" c.keepAliveInterval

/-- The wait after a failed attempt, counted from 1: it doubles with every attempt up to the greatest. -/
def backoffDelay (c : Config) (attempt : Int) : Except Failure Number := do
  let delay ← (Number.mul c.retryBaseDelay (Number.twoPow (attempt - 1))).mapError Value.numberFailure
  return delay.min c.retryMaxDelay

end Config

end RecordMapper
