import RecordMapper.Client

/-!
Health reports: how long a probe took, what the client and its adapter count themselves as, and what is wrong. A
report changes neither flag and never connects.
-/
namespace RecordMapper

open Operation

namespace Client

/-- How well a store does. -/
inductive Health where
  | healthy
  | warning
  | slow
  | unhealthy
  deriving Repr, DecidableEq, Inhabited

def Health.name : Health → String
  | healthy => "healthy"
  | warning => "warning"
  | slow => "slow"
  | unhealthy => "unhealthy"

/-- The health of a store that answered after some seconds: healthy below one, slow above five. -/
def Health.ofLatency (seconds : Float) : Health :=
  if seconds < 1.0 then healthy else if seconds ≤ 5.0 then warning else slow

/-- A report. `pool` is what the adapter knows about its pool, or why it does not know it. -/
structure HealthReport where
  health : Health
  latency : Float
  connected : Bool
  driver : String
  url : String
  pool : Except String Pool
  keepAlive : Bool
  interval : Number
  error : Option String

/-- The failure of a probe without connection. -/
def notConnected : Failure := .ofPlain .connection "Not connected"

end Client

namespace AdapterCalls

variable (a : AdapterCalls)

/-- A probe that needs a connection. -/
def checkedPing : Operation Unit := do
  if Client.isConnected (← system) then a.ping else throw Client.notConnected

/-- Probes the store and reports. -/
def healthCheck : Operation Client.HealthReport := do
  let start := (← system).store.clock
  let result ← outcome a.checkedPing
  let latency := (← system).store.clock - start
  let pool ← outcome a.poolStats
  let s ← system
  let url ← Client.redactedUrl s.client.config
  return {
    health := match result with
      | .ok _ => Client.Health.ofLatency latency
      | .error _ => .unhealthy
    latency := Binary64.roundPlaces 6 latency
    connected := Client.isConnected s
    driver := s.client.driver
    url := url
    pool := pool.mapError fun failure => failure.error.text
    keepAlive := Client.keepAliveRunning s
    interval := s.client.config.keepAliveInterval
    error := match result with
      | .ok _ => none
      | .error failure => some failure.error.reason }

/-- Whether a probe finds the store in any state but unhealthy. -/
def isHealthy : Operation Bool := do return (← a.healthCheck).health != .unhealthy

end AdapterCalls

namespace Client

abbrev healthCheck := AdapterCalls.library.healthCheck

abbrev isHealthy := AdapterCalls.library.isHealthy

end Client

end RecordMapper
