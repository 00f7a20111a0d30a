import RecordMapper.Proofs.Adapters
import RecordMapper.Proofs.ClientRuns

/-!
What a client waits for. Adapters never wait. A client that has to connect waits between two attempts to connect,
always as long, and at most once less often than it may try. Main statement: an attempt to run a statement leaves the
settings as they were and waits for nothing but its connection. If it is the connection that fails as a fault, that
fault may pass.
-/
namespace RecordMapper

/-- The wait that an event is. -/
def Event.wait? : Event → Option Number
  | .sleep delay => some delay
  | _ => none

/-- What has been waited for, in order. -/
def Store.waits (s : Store) : List Number := s.events.filterMap Event.wait?

/-- A property of systems that looks at the settings and at the waits only. -/
def AboutWaits (I : System → Prop) : Prop :=
  ∀ s t, t.client.config = s.client.config → t.store.waits = s.store.waits → I s → I t

/-- The settings are as they were, and up to `most` waits of one length have come behind the others. -/
structure Waited (d : Number) (most : Nat) (s t : System) : Prop where
  config : t.client.config = s.client.config
  waits : ∃ k ≤ most, t.store.waits = s.store.waits ++ List.replicate k d

/-- If the failure is a fault, it is one of the connection, and it may pass. -/
def ConnectionMayPass (e : Failure) : Prop := ∀ f, e.error = .fault f → f.kind = .connection ∧ f.retryable = true

/-! ### Events and waits -/

@[simp] theorem Store.waits_emit (e : Event) (s : Store) : (s.emit e).waits = s.waits ++ e.wait?.toList := by
  cases h : e.wait? <;> simp [waits, emit, h]

@[simp] theorem Store.waits_reply (s : Store) : s.reply.2.waits = s.waits := by
  rw [reply]
  split <;> rfl

@[simp] theorem Store.waits_connectError (s : Store) : s.connectError.2.waits = s.waits := by
  rw [connectError]
  split <;> rfl

open Operation

namespace AboutWaits

variable {I : System → Prop} (hI : AboutWaits I)
include hI

theorem undisturbed : Undisturbed (fun e => e.wait? = none) I where
  emit he := fun s hs => hI s _ rfl (by simp [he]) hs
  reply := fun s hs => hI s _ rfl (by simp) hs
  nextConnect := by
    intro s hs
    have hafter : I { s with store := s.store.connectError.2 } := hI s _ rfl (by simp) hs
    exact Keeps.failWith? s.store.connectError.1 _ hafter
  changeAdapter _ := fun s hs => hI s _ rfl rfl hs

theorem changeClient {f : Client → Client} (hf : ∀ c, (f c).config = c.config) : Keeps I (changeClient f) :=
  fun s hs => hI s _ (hf s.client) rfl hs

theorem connect (url : String) (options : Row) : Keeps I (Adapter.connect url options) := by
  refine Adapter.keeps_connect hI.undisturbed (fun e he => ?_) url options
  cases e with
  | sleep delay => cases he
  | _ => rfl

theorem execute (sql : String) (params : Option (List Value)) : Keeps I (Adapter.execute sql params) := by
  refine Adapter.keeps_execute hI.undisturbed.toUndisturbedByStatements (fun e he => ?_) sql params
  cases e with
  | sleep delay => cases he
  | _ => rfl

end AboutWaits

namespace Waited

variable {d : Number} {most more total : Nat} {s t u : System}

/-- Nothing has been waited for. -/
theorem none (hconfig : t.client.config = s.client.config) (hwaits : t.store.waits = s.store.waits) :
    Waited d most s t :=
  ⟨hconfig, 0, Nat.zero_le most, by rw [hwaits, List.replicate_zero, List.append_nil]⟩

theorem trans (h : Waited d most s t) (h' : Waited d more t u) (htotal : most + more ≤ total) :
    Waited d total s u := by
  obtain ⟨hconfig, k, hk, hwaits⟩ := h
  obtain ⟨hconfig', j, hj, hwaits'⟩ := h'
  refine ⟨hconfig'.trans hconfig, k + j, Nat.le_trans (Nat.add_le_add hk hj) htotal, ?_⟩
  rw [hwaits', hwaits, List.append_assoc, List.replicate_append_replicate]

/-- An operation that keeps whatever is said of settings and waits. -/
theorem of_keeps {α : Type} {x : Operation α} (hx : ∀ I, AboutWaits I → Keeps I x) (s : System) :
    Waited d most s (x.perform s).2 := by
  have habout : AboutWaits fun t => t.client.config = s.client.config ∧ t.store.waits = s.store.waits :=
    fun _ _ hconfig hwaits ht => ⟨hconfig.trans ht.1, hwaits.trans ht.2⟩
  obtain ⟨hconfig, hwaits⟩ := hx _ habout s ⟨rfl, rfl⟩
  exact none hconfig hwaits

/-- One operation after the other. -/
theorem bind {α β : Type} {x : Operation α} {f : α → Operation β} {s : System}
    (hx : Waited d most s (x.perform s).2) (hf : ∀ a t, Waited d more t ((f a).perform t).2)
    (htotal : most + more ≤ total) : Waited d total s ((x >>= f).perform s).2 := by
  rw [perform_bind]
  split
  · rename_i a t h
    rw [h] at hx
    exact hx.trans (hf a t) htotal
  · rename_i e t h
    rw [h] at hx
    exact hx.trans (none rfl rfl) htotal

/-- One wait. -/
theorem sleep (d : Number) (s : System) : Waited d 1 s ((Operation.sleep d).perform s).2 := by
  refine ⟨rfl, 1, Nat.le_refl 1, ?_⟩
  rw [Operation.sleep, perform_emit]
  simp [Event.wait?]

end Waited

namespace Client

/-! ### Connections -/

/-- Between attempts to connect there is one wait. -/
theorem waited_tryConnect (c : Config) (url : String) (options : Row) : ∀ (left : Nat) (s : System),
    Waited c.connectRetryDelay left s ((AdapterCalls.library.tryConnect c url options (left + 1)).perform s).2
  | left, s => by
    have hconnect (s : System) :
        Waited c.connectRetryDelay 0 s ((outcome (Adapter.connect url options)).perform s).2 :=
      Waited.of_keeps (fun I hI => Keeps.outcome (hI.connect url options)) s
    refine (hconnect s).bind (fun r t => ?_) (Nat.le_of_eq (Nat.zero_add left))
    cases r with
    | ok _ =>
      refine Waited.of_keeps (fun I hI => ?_) t
      exact hI.changeClient fun _ => rfl
    | error failure =>
      cases left with
      | zero =>
        exact Waited.of_keeps (fun I hI => Keeps.bind (Keeps.ofResult _) fun _ => Keeps.throw _) t
      | succ left =>
        exact (Waited.sleep c.connectRetryDelay t).bind (fun _ u => waited_tryConnect c url options left u)
          (Nat.le_of_eq (Nat.add_comm 1 left))

/-- A client that has at least one attempt to connect. -/
theorem waited_connect {s : System} (hretries : 1 ≤ s.client.config.connectRetries) :
    Waited s.client.config.connectRetryDelay (s.client.config.connectRetries.toNat - 1) s (connect.perform s).2 := by
  rw [connect, AdapterCalls.connectClient, perform_bind, perform_system]
  dsimp only
  split
  · exact Waited.none rfl rfl
  · rw [perform_locked, perform_bind, perform_system]
    dsimp only
    split
    · exact Waited.none rfl rfl
    · have hsome : s.client.config.connectRetries.toNat = s.client.config.connectRetries.toNat - 1 + 1 := by omega
      rw [hsome]
      exact waited_tryConnect _ _ _ _ s

theorem waited_ensureConnected {s : System} (hretries : 1 ≤ s.client.config.connectRetries) :
    Waited s.client.config.connectRetryDelay (s.client.config.connectRetries.toNat - 1) s
      (ensureConnected.perform s).2 := by
  rw [ensureConnected, AdapterCalls.ensureConnected, perform_bind, perform_system]
  dsimp only
  split
  · exact waited_connect hretries
  · split
    · -- the client no longer counts itself as connected; its settings are the same
      let t : System := { s with client := { s.client with connected := false } }
      have hchanged : Waited s.client.config.connectRetryDelay 0 s t := Waited.none rfl rfl
      have hconnect := waited_connect (show 1 ≤ t.client.config.connectRetries from hretries)
      exact hchanged.trans hconnect (Nat.le_of_eq (Nat.zero_add _))
    · exact Waited.none rfl rfl

/-- An attempt waits for nothing but its connection. -/
theorem waited_attempt {s : System} (hretries : 1 ≤ s.client.config.connectRetries) (sql : String)
    (params : List Value) :
    Waited s.client.config.connectRetryDelay (s.client.config.connectRetries.toNat - 1) s
      ((attempt sql params).perform s).2 :=
  (waited_ensureConnected hretries).bind (fun _ t => Waited.of_keeps (fun _ hI => hI.execute sql (some params)) t)
    (Nat.le_of_eq (Nat.add_zero _))

/-- The fault of a connection may pass; but there may be something wrong with the URL that it would show. -/
theorem fails_connectionFault (c : Config) (reason : String) (cause : Error) :
    Fails ConnectionMayPass (connectionFault c reason cause) := by
  refine Fails.bind (Fails.ofResult fun e he f hf => ?_) fun url => Fails.throw fun f hf => ?_
  · cases hurl : c.redactedUrl with
    | error urlError =>
      rw [hurl] at he
      cases he
      cases hf
    | ok url =>
      rw [hurl] at he
      cases he
  · cases hf
    exact ⟨rfl, rfl⟩

theorem fails_connect : Fails ConnectionMayPass connect :=
  fun s e => AdapterCalls.failsFrom_connectClient .library (I := fun _ => True)
    (fun s _ => fails_connectionFault s.client.config) s e trivial

/-- A connection that cannot be opened is a fault that may pass, or else no fault at all. -/
theorem fails_ensureConnected : Fails ConnectionMayPass ensureConnected := by
  refine Fails.bind Fails.system fun s => Fails.ite fails_connect (Fails.ite ?_ (Fails.pure _))
  exact Fails.bind (Fails.change _) fun _ => fails_connect

end Client

end RecordMapper
