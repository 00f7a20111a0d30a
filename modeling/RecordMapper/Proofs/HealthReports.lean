import RecordMapper.Proofs.ConnectTries

/-!
Health reports only look. A report probes the store at most once, and only with a connection, and then asks for the
pool; what it says comes from the outcome of the probe and from the flags. Main statement: over every adapter whose
probe and whose pool leave the connection alone, a report leaves it alone as well, and says that the store is unhealthy
exactly if there is no connection or the probe failed. There is a report exactly if the URL that it shows can be read.
-/
namespace RecordMapper

open Operation

/-- The client is the same, and its adapter counts as connected exactly if it did. -/
structure SameConnection (s t : System) : Prop where
  client : t.client = s.client
  connected : t.adapter.connected = s.adapter.connected

theorem SameConnection.trans {s t u : System} (h : SameConnection s t) (h' : SameConnection t u) :
    SameConnection s u :=
  ⟨h'.client.trans h.client, h'.connected.trans h.connected⟩

theorem SameConnection.isConnected {s t : System} (h : SameConnection s t) :
    Client.isConnected t = Client.isConnected s := by
  rw [Client.isConnected, Client.isConnected, h.client, h.connected]

/-- A store that answers a probe is healthy, or slower than that, but not unhealthy. -/
theorem Client.Health.ofLatency_ne_unhealthy (seconds : Float) : ofLatency seconds ≠ unhealthy := by
  rw [ofLatency]
  split
  · exact nofun
  · split <;> exact nofun

namespace AdapterCalls

/-- To probe and to ask for the pool is to leave the connection alone. -/
structure Observing (a : AdapterCalls) : Prop where
  ping : ∀ s, SameConnection s (a.ping.perform s).2
  poolStats : ∀ s, SameConnection s (a.poolStats.perform s).2

/-- The library's adapters only look. -/
theorem library_observing : library.Observing where
  ping s := by
    have hI : UndisturbedByStatements (fun _ => True) (SameConnection s) :=
      ⟨fun _ _ ht => ⟨ht.client, ht.connected⟩, fun _ ht => ⟨ht.client, ht.connected⟩⟩
    exact Adapter.keeps_ping hI (fun _ _ => trivial) (fun _ ht => ⟨ht.client, ht.connected⟩) s ⟨rfl, rfl⟩
  poolStats s := Adapter.keeps_poolStats (I := SameConnection s) s ⟨rfl, rfl⟩

variable (a : AdapterCalls)

/-! ### One report -/

/-- Without a connection there is no probe. -/
theorem perform_checkedPing (s : System) :
    a.checkedPing.perform s =
      if Client.isConnected s then a.ping.perform s else (.error Client.notConnected, s) := by
  rw [checkedPing, perform_bind, perform_system]
  dsimp only
  split <;> rfl

/-- What a report says of a probe that began at a time, of the pool that was asked for after it, and of the URL. -/
def report (start : Float) (probe : Except Failure Unit × System) (pool : Except Failure Pool × System)
    (url : String) : Client.HealthReport where
  health := match probe.1 with
    | .ok _ => Client.Health.ofLatency (probe.2.store.clock - start)
    | .error _ => .unhealthy
  latency := Binary64.roundPlaces 6 (probe.2.store.clock - start)
  connected := Client.isConnected pool.2
  driver := pool.2.client.driver
  url := url
  pool := pool.1.mapError fun failure => failure.error.text
  keepAlive := Client.keepAliveRunning pool.2
  interval := pool.2.client.config.keepAliveInterval
  error := match probe.1 with
    | .ok _ => none
    | .error failure => some failure.error.reason

/-- A report probes, asks for the pool, and leaves what that leaves; it is there if there is a URL to show. -/
theorem perform_healthCheck (s : System) :
    let probe := a.checkedPing.perform s
    let pool := a.poolStats.perform probe.2
    a.healthCheck.perform s =
      ((pool.2.client.config.redactedUrl.mapError UrlError.failure).map (report s.store.clock probe pool), pool.2) := by
  intro probe pool
  rw [healthCheck]
  simp only [perform_bind, perform_system, perform_outcome, Client.redactedUrl, perform_ofResult, perform_pure]
  cases pool.2.client.config.redactedUrl <;> rfl

/-- What a report says of the store goes with the outcome of its probe. -/
theorem report_says (start : Float) (probe : Except Failure Unit × System) (pool : Except Failure Pool × System)
    (url : String) :
    ((report start probe pool url).health = .unhealthy ↔ ∃ e, probe.1 = .error e) ∧
      ((report start probe pool url).error.isSome = true ↔ ∃ e, probe.1 = .error e) := by
  rw [report]
  cases probe.1 with
  | ok _ => simp [Client.Health.ofLatency_ne_unhealthy]
  | error e => simp

/-- There is a report if there is a URL to show, and then it is this one. -/
theorem healthCheck_eq_ok {s : System} {r : Client.HealthReport} :
    (a.healthCheck.perform s).1 = .ok r ↔
      ∃ url, (a.healthCheck.perform s).2.client.config.redactedUrl = .ok url ∧
        r = report s.store.clock (a.checkedPing.perform s) (a.poolStats.perform (a.checkedPing.perform s).2) url := by
  rw [perform_healthCheck]
  dsimp only
  cases (a.poolStats.perform (a.checkedPing.perform s).2).2.client.config.redactedUrl with
  | ok url => exact ⟨fun h => ⟨url, rfl, (Except.ok.inj h).symm⟩, fun ⟨_, hurl, hr⟩ => by cases hurl; rw [hr]; rfl⟩
  | error problem => exact ⟨nofun, fun ⟨_, hurl, _⟩ => nomatch hurl⟩

theorem exists_healthCheck (s : System) :
    (∃ r, (a.healthCheck.perform s).1 = .ok r) ↔ (a.healthCheck.perform s).2.client.config.Readable := by
  rw [Config.readable_iff]
  constructor
  · rintro ⟨r, hr⟩
    obtain ⟨url, hurl, -⟩ := (healthCheck_eq_ok a).1 hr
    exact ⟨url, hurl⟩
  · rintro ⟨url, hurl⟩
    exact ⟨_, (healthCheck_eq_ok a).2 ⟨url, hurl, rfl⟩⟩

/-- The probe of a report fails without a connection, and else as the adapter's does. -/
theorem checkedPing_fails (s : System) :
    (∃ e, (a.checkedPing.perform s).1 = .error e) ↔
      Client.isConnected s = false ∨ ∃ e, (a.ping.perform s).1 = .error e := by
  rw [perform_checkedPing]
  cases Client.isConnected s <;> simp

namespace Observing

variable {a} (ha : a.Observing) (s : System)
include ha

theorem checkedPing : SameConnection s (a.checkedPing.perform s).2 := by
  rw [perform_checkedPing]
  split
  · exact ha.ping s
  · exact ⟨rfl, rfl⟩

theorem healthCheck : SameConnection s (a.healthCheck.perform s).2 := by
  rw [perform_healthCheck]
  exact (ha.checkedPing s).trans (ha.poolStats _)

end Observing

/-! ### Main statement -/

/-- A report over any adapter whose probe and whose pool leave the connection alone, in any system. It does nothing but
probe, if there is a connection, and ask for the pool; so it does not connect, and it leaves the client alone, and the
adapter connected if it was so. There is a report exactly if the URL of the settings can be read. It says that the store
is unhealthy exactly if there is no connection or the probe failed, gives an error exactly then, and says rightly
whether there is a connection; and whether the store is healthy may be asked for in its place. The URL of settings
within bounds can be read if it is set, or is that of a file, or of a server with a plain host and port. -/
theorem healthCheck_observes {a : AdapterCalls} (ha : a.Observing) (s : System) :
    let c := s.client.config
    let probed := if Client.isConnected s then (a.ping.perform s).2 else s
    let after := (a.healthCheck.perform s).2
    after = (a.poolStats.perform probed).2 ∧ after.client = s.client ∧
      after.adapter.connected = s.adapter.connected ∧
      ((∃ r, (a.healthCheck.perform s).1 = .ok r) ↔ c.Readable) ∧
      (∀ r, (a.healthCheck.perform s).1 = .ok r →
        (r.health = .unhealthy ↔ Client.isConnected s = false ∨ ∃ e, (a.ping.perform s).1 = .error e) ∧
        (r.error.isSome = true ↔ r.health = .unhealthy) ∧ r.connected = Client.isConnected s ∧
        a.isHealthy.perform s = (.ok (r.health != .unhealthy), after)) ∧
      (c.validate = .ok () →
        Config.given? c.url ≠ none ∨ c.driver.sameKey (.text "sqlite") = true ∨ c.IsServer → c.Readable) := by
  intro c probed after
  have hprobed : (a.checkedPing.perform s).2 = probed := by
    rw [perform_checkedPing, apply_ite Prod.snd]
  have hafter : after = (a.poolStats.perform (a.checkedPing.perform s).2).2 :=
    congrArg Prod.snd (perform_healthCheck a s)
  have hsame : SameConnection s after := ha.healthCheck s
  refine ⟨hprobed ▸ hafter, hsame.client, hsame.connected, ?_, fun r hr => ?_, Config.readable_of_validate⟩
  · rw [exists_healthCheck, hsame.client]
  · have hhealthy : a.isHealthy.perform s = (.ok (r.health != .unhealthy), after) := by
      rw [isHealthy, perform_map, hr]
      rfl
    obtain ⟨url, -, rfl⟩ := (healthCheck_eq_ok a).1 hr
    obtain ⟨hunhealthy, herror⟩ := report_says s.store.clock (a.checkedPing.perform s)
      (a.poolStats.perform (a.checkedPing.perform s).2) url
    refine ⟨hunhealthy.trans (checkedPing_fails a s), herror.trans hunhealthy.symm, ?_, hhealthy⟩
    rw [← hsame.isConnected, hafter]
    rfl

end AdapterCalls

/-- A client whose store would not let it disconnect does not count as connected, though its adapter does: the report
says that the store is unhealthy, and changes nothing. -/
theorem half_disconnected_unhealthy :
    let s := (Client.disconnect.perform shaken).2
    s.client.connected = false ∧ s.adapter.connected = true ∧
      (Client.healthCheck.perform s).2.client = s.client ∧ (Client.healthCheck.perform s).2.adapter.connected = true ∧
      ∃ r, (Client.healthCheck.perform s).1 = .ok r ∧ r.health = .unhealthy ∧ r.error.isSome = true ∧
        r.connected = false ∧ Client.isHealthy.perform s = (.ok false, s) := by
  intro s
  rw [Client.healthCheck, Client.isHealthy]
  have hclear : s.client.connected = false := rfl
  have hadapter : s.adapter.connected = true := rfl
  have hnone : Client.isConnected s = false := rfl
  have hserver : s.client.config.IsServer := Config.isServer_default
  obtain ⟨hafter, hclient, hconnected, hreport, hsays, hreadable⟩ :=
    AdapterCalls.healthCheck_observes AdapterCalls.library_observing s
  obtain ⟨r, hr⟩ := hreport.2 (hreadable rfl (.inr (.inr hserver)))
  obtain ⟨hunhealthy, herror, hsaid, hhealthy⟩ := hsays r hr
  have hhealth : r.health = .unhealthy := hunhealthy.2 (.inl hnone)
  have hsame : (AdapterCalls.library.healthCheck.perform s).2 = s := by
    rw [hafter, hnone]
    rfl
  rw [hhealth, hsame] at hhealthy
  exact ⟨hclear, hadapter, hclient, hconnected.trans hadapter, r, hr, hhealth, herror.2 hhealth, hsaid.trans hnone,
    hhealthy⟩

/-- A client of settings within bounds whose URL cannot be read: instead of a report there is an error. -/
theorem unreadable_url_no_report :
    let s := refused Config.halfBracketed 0
    Client.ofConfig Config.halfBracketed = .ok s.client ∧
      (Client.healthCheck.perform s).1 = .error (.ofPlain .value "Invalid IPv6 URL") :=
  ⟨rfl, rfl⟩

end RecordMapper
