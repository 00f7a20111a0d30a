import RecordMapper.Adapter.Operations
import RecordMapper.Fault.Transient

/-!
Clients: connecting with repeated attempts, statements that are tried again while they fail in a way that may pass,
and the life of a client from its settings on. Every failure that leaves a statement is a fault, apart from those of
the settings themselves.

A client may be given any adapter. `AdapterCalls` is what it asks of one, and what a client does is defined for any of
them; `Client.connect`, `Client.execute` and so on are a client with the adapters of the library.
-/
namespace RecordMapper

open Operation

/-- What a client asks of its adapter. -/
structure AdapterCalls where
  connect : String → Row → Operation Unit
  disconnect : Operation Unit
  execute : String → Option (List Value) → Operation Answer
  ping : Operation Unit
  poolStats : Operation Pool

/-- The adapters of the library. -/
abbrev AdapterCalls.library : AdapterCalls where
  connect := Adapter.connect
  disconnect := Adapter.disconnect
  execute := Adapter.execute
  ping := Adapter.ping
  poolStats := Adapter.poolStats

namespace Client

/-- A client of settings that are within bounds. -/
def ofConfig (c : Config) : Except Failure Client := do
  c.validate
  let driver ← c.resolvedDriver.mapError UrlError.failure
  return ⟨c, c.toUrl, driver.shown, false, .off⟩

/-- Whether client and adapter both count as connected. -/
def isConnected (s : System) : Bool := s.client.connected && s.adapter.connected

/-- Whether the background task has been started and not been stopped. -/
def keepAliveRunning (s : System) : Bool := s.client.keepAlive != .off

/-- The URL of the store with its password masked. -/
def redactedUrl (c : Config) : Operation String := ofResult (c.redactedUrl.mapError UrlError.failure)

/-- The text of a client. -/
def quoted (s : System) : Except Failure String := do
  let url ← s.client.config.redactedUrl.mapError UrlError.failure
  return "<ExecutionClient driver=" ++ s.client.driver ++ " url=" ++ url ++ " connected=" ++
    Value.boolShown s.client.connected ++ ">"

/-- The options of a connection. -/
def connectOptions (kind : AdapterKind) (c : Config) : Row :=
  let timeout : Row := [("connect_timeout", .ofNumber c.connectTimeout)]
  if kind = .mysql then [("minsize", .ofNumber c.poolMin), ("maxsize", .ofNumber c.poolMax)] ++ timeout else timeout

/-- The fault of a connection that could not be opened or closed. -/
def connectionFault (c : Config) (reason : String) (cause : Error) : Operation Unit := do
  let url ← redactedUrl c
  throw (.chained (.connection url reason []) cause)

/-- What is to be done about a failure: nothing but to report it, or to try again. -/
inductive Verdict where
  | final (failure : Failure)
  | again (error : Error)

/-- A fault decides by itself; any other error is classified first, and chained to the fault that reports it. -/
def judge (failure : Failure) : Verdict :=
  match failure.error with
  | .fault f => if f.retryable then .again failure.error else .final failure
  | .plain e =>
    let fault := (Error.plain e).classify
    if fault.retryable then .again failure.error else .final (.chained fault failure.error)

/-- The failure of the last attempt. -/
def exhausted (attempts : Int) (sql : String) (e : Error) : Failure :=
  .chained (.retryExhausted attempts e.text [("sql", .text sql)]) e

/-! ### Background task -/

/-- Starts the background task; it is disabled by an interval of zero. -/
def startKeepAlive : Operation Bool := do
  let s ← system
  let interval := s.client.config.keepAliveInterval
  if interval.lt (.whole 0) || interval.isZero then return false
  if keepAliveRunning s then return true
  changeClient fun c => { c with keepAlive := .starting }
  return true

/-- Stops the background task. -/
def stopKeepAlive : Operation Unit := changeClient fun c => { c with keepAlive := .off }

/-- The background task goes on to its next wait. -/
def beginWait : Operation Unit := do
  changeClient fun c => { c with keepAlive := .sleeping }
  emit (.keepAliveSleep (← system).client.config.keepAliveInterval)

/-- A background task that has been started gets to its first wait. -/
def settle : Operation Unit := do
  if (← system).client.keepAlive == .starting then beginWait

end Client

/-! ### With any adapter -/

namespace AdapterCalls

variable (a : AdapterCalls)

/-- Tries to connect up to a number of times, with a wait between two attempts. -/
def tryConnect (c : Config) (url : String) (options : Row) : (attempts : Nat) → Operation Unit
  | 0 => return
  | left + 1 => do
    match ← outcome (a.connect url options) with
    | .ok _ => changeClient fun s => { s with connected := true }
    | .error failure =>
      if left = 0 then
        Client.connectionFault c
          ("Failed after " ++ toString c.connectRetries ++ " attempts: " ++ failure.error.text) failure.error
      else
        sleep c.connectRetryDelay
        tryConnect c url options left

/-- Connects, unless the client counts as connected. -/
def connectClient : Operation Unit := do
  if (← system).client.connected then return
  locked .client do
    let s ← system
    if s.client.connected then return
    let c := s.client.config
    a.tryConnect c s.client.url (Client.connectOptions s.adapter.kind c) c.connectRetries.toNat

/-- Disconnects; afterwards the client does not count as connected, whatever happened. -/
def disconnectClient : Operation Unit := do
  if !(← system).client.connected then return
  locked .client do
    let s ← system
    if !s.client.connected then return
    let result ← outcome a.disconnect
    let result ← match result with
      | .ok _ => pure (.ok ())
      | .error failure =>
        outcome (Client.connectionFault s.client.config ("Disconnect failed: " ++ failure.error.text) failure.error)
    changeClient fun s => { s with connected := false }
    ofResult result

/-- Connects if the client or its adapter does not count as connected. -/
def ensureConnected : Operation Unit := do
  let s ← system
  if !s.client.connected then a.connectClient
  else if !s.adapter.connected then
    changeClient fun s => { s with connected := false }
    a.connectClient

/-- One attempt to run a statement. -/
def attempt (sql : String) (params : List Value) : Operation Answer := do
  a.ensureConnected
  a.execute sql (some params)

/-- Attempts from number `n` on, of which `left` are left after it. -/
def attempts (c : Config) (sql : String) (params : List Value) (n : Nat) : (left : Nat) → Operation Answer
  | 0 => do
    match ← outcome (a.attempt sql params) with
    | .ok answer => return answer
    | .error failure =>
      match Client.judge failure with
      | .final failure => throw failure
      | .again e => throw (Client.exhausted c.retryAttempts sql e)
  | left + 1 => do
    match ← outcome (a.attempt sql params) with
    | .ok answer => return answer
    | .error failure =>
      match Client.judge failure with
      | .final failure => throw failure
      | .again _ =>
        sleep (← ofResult (c.backoffDelay n))
        attempts c sql params (n + 1) left

/-- Runs a statement, as often as the settings allow while it fails in a way that may pass. -/
def run (sql : String) (params : List Value) : Operation Answer := do
  let c := (← system).client.config
  a.attempts c sql params 1 (c.retryAttempts.toNat - 1)

/-- Connects and starts the background task. -/
def launch : Operation Unit := do
  a.connectClient
  let _ ← Client.startKeepAlive

/-- Stops the background task and disconnects. -/
def shutdown : Operation Unit := do
  Client.stopKeepAlive
  a.disconnectClient

/-- Does something with a client that is connected before and disconnected after it. -/
def within {α : Type} (x : Operation α) : Operation α := do
  a.launch
  let result ← outcome x
  a.shutdown
  ofResult result

/-- Disconnects, whether or not that fails, and connects. -/
def reconnect : Operation Unit := do
  locked .client do
    let _ ← outcome a.disconnect
    changeClient fun c => { c with connected := false }
  a.connectClient

/-- One probe of the background task: a store that does not answer is connected to again. -/
def probe : Operation Unit := do
  match ← outcome a.ping with
  | .ok _ => return
  | .error _ => a.reconnect

/-- Ends the current wait of the background task, if it is waiting: it probes and waits again. -/
def tick : Operation Bool := do
  if (← system).client.keepAlive == .sleeping then
    let _ ← outcome a.probe
    Client.beginWait
    return true
  else return false

end AdapterCalls

/-! ### With the adapters of the library -/

namespace Client

abbrev connect := AdapterCalls.library.connectClient

abbrev disconnect := AdapterCalls.library.disconnectClient

abbrev ensureConnected := AdapterCalls.library.ensureConnected

abbrev attempt := AdapterCalls.library.attempt

abbrev attempts := AdapterCalls.library.attempts

abbrev execute := AdapterCalls.library.run

/-- What the adapter knows about its pool. -/
abbrev poolStats := AdapterCalls.library.poolStats

abbrev launch := AdapterCalls.library.launch

abbrev shutdown := AdapterCalls.library.shutdown

abbrev within {α : Type} (x : Operation α) := AdapterCalls.library.within x

abbrev tick := AdapterCalls.library.tick

end Client

end RecordMapper
