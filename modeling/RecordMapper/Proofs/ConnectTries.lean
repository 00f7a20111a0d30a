import RecordMapper.Proofs.ReadableUrls

/-!
Connecting in several tries. `AdapterCalls.redial` is what a try comes to that follows some others, when there is one
wait after each of those: it tells the outcomes of connecting one after another, whatever the adapter is. Main
statement: a client connects with just as many tries as it needs or is allowed, always to one URL with one set of
options; the first one that succeeds sets its flag, and after the last one that is allowed the failure is reported. So
a statement that is run has no more tries to connect than the two numbers of the settings allow together.
-/
namespace RecordMapper

open Operation

/-- The system with a client that counts as connected. -/
def System.flagged (s : System) : System := { s with client := { s.client with connected := true } }

/-- Why there is no connection after the last try. -/
def Client.triedReason (c : Config) (e : Failure) : String :=
  "Failed after " ++ toString c.connectRetries ++ " attempts: " ++ e.error.text

/-- What is reported after the last try to connect: a fault of the connection that shows the URL, if it can be shown. -/
def Client.unreached (c : Config) (e : Failure) : Failure :=
  match c.redactedUrl with
  | .ok url => .chained (.connection url (triedReason c e) []) e.error
  | .error problem => problem.failure

namespace AdapterCalls

/-- What a try to connect comes to that follows some others, with one wait after each of those. -/
def redial (a : AdapterCalls) (c : Config) (url : String) (options : Row) :
    System → Nat → Except Failure Unit × System
  | s, 0 => (a.connect url options).perform s
  | s, before + 1 =>
    redial a c url options ((sleep c.connectRetryDelay).perform ((a.connect url options).perform s).2).2 before

/-- To connect and to run a statement is to leave the client alone. -/
structure LeavesClient (a : AdapterCalls) : Prop where
  connect : ∀ url options c, Keeps (fun s => s.client = c) (a.connect url options)
  execute : ∀ sql params c, Keeps (fun s => s.client = c) (a.execute sql params)

/-- A number of systems that goes up by one at most with each try to connect, and that neither statements nor waits nor
the client's own notes make greater. -/
structure Counted (a : AdapterCalls) (count : System → Nat) : Prop where
  connect : ∀ url options s, count ((a.connect url options).perform s).2 ≤ count s + 1
  execute : ∀ sql params s, count ((a.execute sql params).perform s).2 ≤ count s
  client : ∀ f s, count ((changeClient f).perform s).2 ≤ count s
  sleep : ∀ delay s, count ((sleep delay).perform s).2 ≤ count s

theorem Lawful.leavesClient {a : AdapterCalls} (ha : a.Lawful) : a.LeavesClient :=
  ⟨ha.connect_client, ha.execute_client⟩

variable (a : AdapterCalls)

/-! ### Tries one after another -/

theorem perform_connectionFault (c : Config) (e : Failure) (s : System) :
    (Client.connectionFault c ("Failed after " ++ toString c.connectRetries ++ " attempts: " ++ e.error.text)
      e.error).perform s = (.error (Client.unreached c e), s) := by
  rw [Client.connectionFault, Client.redactedUrl, perform_bind, perform_ofResult, Client.unreached]
  cases c.redactedUrl <;> rfl

section
variable {a} {c : Config} {url : String} {options : Row} {s s' : System} {e : Failure}

theorem perform_tryConnect_connected (h : (a.connect url options).perform s = (.ok (), s')) (left : Nat) :
    (a.tryConnect c url options (left + 1)).perform s = (.ok (), s'.flagged) := by
  rw [tryConnect, perform_bind, perform_outcome, h]
  rfl

theorem perform_tryConnect_last (h : (a.connect url options).perform s = (.error e, s')) :
    (a.tryConnect c url options 1).perform s = (.error (Client.unreached c e), s') := by
  rw [tryConnect, perform_bind, perform_outcome, h]
  exact perform_connectionFault c e s'

/-- After a try that failed the client sleeps and goes on, unless it was the last one. -/
theorem perform_tryConnect_again (h : (a.connect url options).perform s = (.error e, s')) (left : Nat) :
    (a.tryConnect c url options (left + 2)).perform s =
      (a.tryConnect c url options (left + 1)).perform ((sleep c.connectRetryDelay).perform s').2 := by
  rw [tryConnect, perform_bind, perform_outcome, h]
  dsimp only
  rw [if_neg (Nat.succ_ne_zero left), perform_bind]
  rfl

end

/-- There are tries up to the first that succeeds, or as many as there may be. -/
theorem perform_tryConnect (c : Config) (url : String) (options : Row) : ∀ (left : Nat) (s : System),
    ∃ n ≤ left, (∀ i < n, ∃ e, (a.redial c url options s i).1 = .error e) ∧
      ((a.redial c url options s n).1 = .ok () ∧
          (a.tryConnect c url options (left + 1)).perform s = (.ok (), (a.redial c url options s n).2.flagged) ∨
        n = left ∧ ∃ e, (a.redial c url options s n).1 = .error e ∧
          (a.tryConnect c url options (left + 1)).perform s =
            (.error (Client.unreached c e), (a.redial c url options s n).2))
  | left, s => by
    obtain ⟨first, s', h⟩ : ∃ first s', (a.connect url options).perform s = (first, s') := ⟨_, _, rfl⟩
    have hfirst : a.redial c url options s 0 = (first, s') := h
    cases first with
    | ok _ =>
      refine ⟨0, Nat.zero_le left, nofun, .inl ?_⟩
      rw [hfirst]
      exact ⟨rfl, perform_tryConnect_connected h left⟩
    | error e =>
      cases left with
      | zero =>
        refine ⟨0, Nat.le_refl 0, nofun, .inr ⟨rfl, e, ?_⟩⟩
        rw [hfirst]
        exact ⟨rfl, perform_tryConnect_last h⟩
      | succ left =>
        have hshift (i : Nat) : a.redial c url options s (i + 1) =
            a.redial c url options ((sleep c.connectRetryDelay).perform s').2 i := by
          rw [redial, h]
        obtain ⟨n, hn, hfailed, hends⟩ :=
          perform_tryConnect c url options left ((sleep c.connectRetryDelay).perform s').2
        refine ⟨n + 1, Nat.succ_le_succ hn, fun i hi => ?_, ?_⟩
        · cases i with
          | zero => exact ⟨e, by rw [hfirst]⟩
          | succ i =>
            rw [hshift]
            exact hfailed i (Nat.lt_of_succ_lt_succ hi)
        · rw [hshift, perform_tryConnect_again h]
          obtain hok | ⟨hall, hlast⟩ := hends
          · exact .inl hok
          · exact .inr ⟨congrArg (· + 1) hall, hlast⟩

/-- However many tries there are, they leave the client alone. -/
theorem redial_client {a : AdapterCalls} (ha : a.LeavesClient) (c : Config) (url : String) (options : Row) :
    ∀ (n : Nat) (s : System), (a.redial c url options s n).2.client = s.client
  | 0, s => ha.connect url options s.client s rfl
  | n + 1, s => (redial_client ha c url options n _).trans (ha.connect url options s.client s rfl)

/-- A client that does not count as connected tries to connect as often as its settings allow. -/
theorem perform_connectClient {s : System} (h : s.client.connected = false) :
    a.connectClient.perform s = (a.tryConnect s.client.config s.client.url
      (Client.connectOptions s.adapter.kind s.client.config) s.client.config.connectRetries.toNat).perform s := by
  rw [connectClient, perform_bind, perform_system]
  dsimp only
  rw [h, if_neg Bool.false_ne_true, perform_locked, perform_bind, perform_system]
  dsimp only
  rw [h]
  rfl

end AdapterCalls

/-! ### How many tries there are -/

/-- The settings are as they were, and the number has gone up by so much at most. -/
structure Spent (count : System → Nat) (most : Nat) (s t : System) : Prop where
  config : t.client.config = s.client.config
  count : count t ≤ count s + most

namespace Spent

variable {count : System → Nat} {most more total : Nat} {s t u : System}

theorem refl (s : System) : Spent count most s s := ⟨rfl, Nat.le_add_right _ _⟩

theorem trans (h : Spent count most s t) (h' : Spent count more t u) (htotal : most + more ≤ total) :
    Spent count total s u := by
  refine ⟨h'.config.trans h.config, ?_⟩
  calc count u ≤ count t + more := h'.count
    _ ≤ count s + most + more := Nat.add_le_add_right h.count more
    _ ≤ count s + total := by omega

theorem mono (h : Spent count most s t) (hmore : most ≤ more) : Spent count more s t :=
  h.trans (refl t) (Nat.le_trans (Nat.le_of_eq (Nat.add_zero most)) hmore)

/-- One operation after the other, which begins with the same settings. -/
theorem bind {α β : Type} {x : Operation α} {f : α → Operation β} (hx : Spent count most s (x.perform s).2)
    (hf : ∀ r t, t.client.config = s.client.config → Spent count more t ((f r).perform t).2)
    (htotal : most + more ≤ total) : Spent count total s ((x >>= f).perform s).2 := by
  rw [perform_bind]
  split
  · rename_i r t h
    rw [h] at hx
    exact hx.trans (hf r t hx.config) htotal
  · rename_i e t h
    rw [h] at hx
    exact hx.mono (by omega)

end Spent

namespace AdapterCalls

variable {a : AdapterCalls} {count : System → Nat} (ha : a.LeavesClient) (hcount : a.Counted count)
include ha hcount

theorem spent_connect (url : String) (options : Row) (s : System) :
    Spent count 1 s ((outcome (a.connect url options)).perform s).2 := by
  rw [perform_outcome]
  exact ⟨congrArg Client.config (ha.connect url options s.client s rfl), hcount.connect url options s⟩

theorem spent_execute (sql : String) (params : Option (List Value)) (s : System) :
    Spent count 0 s ((a.execute sql params).perform s).2 :=
  ⟨congrArg Client.config (ha.execute sql params s.client s rfl), hcount.execute sql params s⟩

omit ha in
theorem spent_sleep (delay : Number) (s : System) : Spent count 0 s ((sleep delay).perform s).2 :=
  ⟨rfl, hcount.sleep delay s⟩

omit ha in
theorem spent_flag (flag : Bool) (s : System) :
    Spent count 0 s ((changeClient fun c => { c with connected := flag }).perform s).2 :=
  ⟨rfl, hcount.client _ s⟩

theorem spent_tryConnect (c : Config) (url : String) (options : Row) : ∀ (left : Nat) (s : System),
    Spent count left s ((a.tryConnect c url options left).perform s).2
  | 0, s => .refl s
  | left + 1, s => by
    refine (spent_connect ha hcount url options s).bind (fun r t _ => ?_) (Nat.le_of_eq (Nat.add_comm 1 left))
    cases r with
    | ok _ => exact (spent_flag hcount true t).mono (Nat.zero_le left)
    | error e =>
      dsimp only
      split
      · rw [perform_connectionFault]
        exact .refl t
      · exact (spent_sleep hcount _ t).bind (fun _ u _ => spent_tryConnect c url options left u)
          (Nat.le_of_eq (Nat.zero_add left))

theorem spent_connectClient (s : System) :
    Spent count s.client.config.connectRetries.toNat s (a.connectClient.perform s).2 := by
  cases h : s.client.connected with
  | false =>
    rw [perform_connectClient a h]
    exact spent_tryConnect ha hcount _ _ _ _ s
  | true =>
    rw [connectClient, perform_bind, perform_system]
    dsimp only
    rw [h]
    exact .refl s

theorem spent_ensureConnected (s : System) :
    Spent count s.client.config.connectRetries.toNat s (a.ensureConnected.perform s).2 := by
  rw [ensureConnected, perform_bind, perform_system]
  dsimp only
  split
  · exact spent_connectClient ha hcount s
  · split
    · refine (spent_flag hcount false s).bind (fun _ t ht => ?_) (Nat.le_of_eq (Nat.zero_add _))
      exact ht ▸ spent_connectClient ha hcount t
    · exact .refl s

/-- One attempt to run a statement tries to connect as often as is allowed, at most. -/
theorem spent_attempt (sql : String) (params : List Value) (s : System) :
    Spent count s.client.config.connectRetries.toNat s ((outcome (a.attempt sql params)).perform s).2 := by
  rw [perform_outcome]
  exact (spent_ensureConnected ha hcount s).bind (fun _ t _ => spent_execute ha hcount sql (some params) t)
    (Nat.le_of_eq (Nat.add_zero _))

/-- So all attempts do so as often as that, times their number. -/
theorem spent_attempts (c : Config) (sql : String) (params : List Value) : ∀ (left n : Nat) (s : System),
    Spent count ((left + 1) * s.client.config.connectRetries.toNat) s ((a.attempts c sql params n left).perform s).2
  | 0, n, s => by
    rw [Nat.zero_add, Nat.one_mul]
    refine (spent_attempt ha hcount sql params s).bind (fun r t _ => ?_) (Nat.le_of_eq (Nat.add_zero _))
    cases r with
    | ok answer => exact .refl t
    | error failure =>
      dsimp only
      cases Client.judge failure <;> exact .refl t
  | left + 1, n, s => by
    refine (spent_attempt ha hcount sql params s).bind (fun r t ht => ?_)
      (Nat.le_of_eq ((Nat.add_comm _ _).trans (Nat.succ_mul _ _).symm))
    cases r with
    | ok answer => exact .refl t
    | error failure =>
      dsimp only
      cases Client.judge failure with
      | final e => exact .refl t
      | again e =>
        rw [← ht]
        refine Spent.bind (.refl t) (fun delay u hu => ?_) (Nat.le_of_eq (Nat.zero_add _))
        refine (spent_sleep hcount delay u).bind (fun _ v hv => ?_) (Nat.le_of_eq (Nat.zero_add _))
        rw [← hu, ← hv]
        exact spent_attempts c sql params left (n + 1) v

/-- A statement that is run tries to connect as often as the settings allow for all its attempts together, at most. -/
theorem spent_run {s : System} (hbounded : s.client.config.Bounded) (sql : String) (params : List Value) :
    count ((a.run sql params).perform s).2 ≤
      count s + s.client.config.retryAttempts.toNat * s.client.config.connectRetries.toNat := by
  have hattempts := hbounded.retryAttempts
  have hall : s.client.config.retryAttempts.toNat - 1 + 1 = s.client.config.retryAttempts.toNat := by omega
  have hspent := spent_attempts ha hcount s.client.config sql params (s.client.config.retryAttempts.toNat - 1) 1 s
  rw [hall] at hspent
  exact hspent.count

end AdapterCalls

/-! ### The library's adapters -/

/-- The event opens a connection, a pool or a file. -/
def Event.isDial : Event → Bool
  | .connect _ _ | .createPool _ | .openFile _ _ => true
  | _ => false

/-- How often a connection, a pool or a file has been opened, or should have been. -/
def Store.dials (s : Store) : Nat := s.events.countP Event.isDial

theorem Store.dials_emit (e : Event) (s : Store) : (s.emit e).dials = s.dials + if e.isDial then 1 else 0 := by
  rw [dials, emit, List.countP_append, List.countP_singleton, dials]

/-- No step but that of opening makes the number greater. -/
theorem undisturbed_dials (n : Nat) : Undisturbed (fun e => e.isDial = false) fun s => s.store.dials ≤ n where
  emit := by
    intro e he s hs
    rw [perform_emit]
    dsimp only
    rw [Store.dials_emit, he]
    exact hs
  reply := by
    intro s hs
    rw [perform_reply]
    dsimp only
    rw [Store.dials, Store.events_reply]
    exact hs
  nextConnect := by
    intro s hs
    rw [perform_nextConnect]
    dsimp only
    rw [Store.dials, Store.connectError]
    split <;> exact hs
  changeAdapter _ := fun _ hs => hs

/-- The operation opens something once at most. -/
def DialsOnce {α : Type} (x : Operation α) : Prop :=
  ∀ n s, s.store.dials ≤ n → (x.perform s).2.store.dials ≤ n + 1

namespace DialsOnce

variable {α β : Type}

theorem of_keeps {x : Operation α} (hx : ∀ n, Keeps (fun s => s.store.dials ≤ n) x) : DialsOnce x :=
  fun n s hs => Nat.le_succ_of_le (hx n s hs)

/-- What opens something once begins with something else. -/
theorem bind {x : Operation β} {f : β → Operation α} (hx : ∀ n, Keeps (fun s => s.store.dials ≤ n) x)
    (hf : ∀ b, DialsOnce (f b)) : DialsOnce (x >>= f) := by
  intro n s hs
  have hmid := hx n s hs
  rw [perform_bind]
  split
  · rename_i b t h
    rw [h] at hmid
    exact hf b n t hmid
  · rename_i e t h
    rw [h] at hmid
    exact Nat.le_succ_of_le hmid

/-- What opens something once ends with something else. -/
theorem emitBind {e : Event} {f : Unit → Operation α} (hf : ∀ n, Keeps (fun s => s.store.dials ≤ n) (f ())) :
    DialsOnce (emit e >>= f) := by
  intro n s hs
  rw [perform_bind, perform_emit]
  refine hf (n + 1) _ ?_
  dsimp only
  rw [Store.dials_emit]
  split <;> omega

theorem ite {c : Prop} [Decidable c] {x y : Operation α} (hx : DialsOnce x) (hy : DialsOnce y) :
    DialsOnce (if c then x else y) := by
  split
  · exact hx
  · exact hy

theorem locked {x : Operation α} (l : Lock) (hx : DialsOnce x) : DialsOnce (locked l x) := by
  intro n s hs
  rw [perform_locked]
  exact hx n s hs

end DialsOnce

theorem Adapter.dialsOnce_connect (url : String) (options : Row) : DialsOnce (connect url options) := by
  have hI (n : Nat) := undisturbed_dials n
  have hdone : DialsOnce (pure () : Operation Unit) := .of_keeps fun _ => Keeps.pure ()
  refine DialsOnce.bind (fun _ => Keeps.system) fun s => ?_
  split
  · exact DialsOnce.emitBind fun n => Keeps.bind Keeps.yield fun _ => Keeps.bind (hI n).nextConnect fun _ =>
      (hI n).changeAdapter fun _ => rfl
  · refine DialsOnce.bind (fun _ => Keeps.system) fun s => DialsOnce.ite hdone ?_
    exact DialsOnce.bind (fun _ => Keeps.ofResult _) fun _ => DialsOnce.emitBind fun n =>
      Keeps.bind Keeps.yield fun _ => Keeps.bind (hI n).nextConnect fun _ => (hI n).changeAdapter fun _ => rfl
  · refine DialsOnce.bind (fun _ => Keeps.system) fun s => DialsOnce.ite hdone (DialsOnce.locked _ ?_)
    refine DialsOnce.bind (fun _ => Keeps.system) fun s => DialsOnce.ite hdone (DialsOnce.emitBind fun n => ?_)
    exact Keeps.bind Keeps.yield fun _ => Keeps.bind (hI n).nextConnect fun _ =>
      Keeps.bind ((hI n).changeAdapter fun _ => rfl) fun _ => Keeps.bind ((hI n).emit rfl) fun _ =>
        (hI n).changeAdapter fun _ => rfl

/-- With the library's adapters, what is opened is counted. -/
theorem AdapterCalls.library_counted : library.Counted fun s => s.store.dials where
  connect url options s := Adapter.dialsOnce_connect url options s.store.dials s (Nat.le_refl _)
  execute sql params s := by
    refine Adapter.keeps_execute (undisturbed_dials s.store.dials).toUndisturbedByStatements (fun e he => ?_) sql params
      s (Nat.le_refl _)
    cases e <;> first | rfl | cases he
  client f s := Nat.le_refl _
  sleep delay s := by
    rw [sleep, perform_emit]
    dsimp only
    rw [Store.dials_emit]
    exact Nat.le_refl _

/-! ### Main statement -/

/-- The settings can be read exactly if what is reported is a fault of the connection, chained to the last error. -/
theorem Client.unreached_iff {c : Config} (e : Failure) :
    (∃ url, c.redactedUrl = .ok url ∧
      unreached c e = .chained (.connection url (triedReason c e) []) e.error) ↔ c.Readable := by
  rw [Config.readable_iff]
  refine exists_congr fun url => and_iff_left_of_imp fun hurl => ?_
  rw [unreached, hurl]

/-- A URL that cannot be shown is reported instead, as an error that is no fault. -/
theorem Client.unreached_plain {c : Config} (hc : ¬c.Readable) (e : Failure) : ¬(unreached c e).IsFault := by
  rw [unreached]
  cases hurl : c.redactedUrl with
  | ok url => exact absurd (Config.readable_iff.2 ⟨url, hurl⟩) hc
  | error problem =>
    rintro ⟨f, hf⟩
    cases problem <;> cases hf

namespace AdapterCalls

/-- A client with settings within bounds, over any adapter that leaves it alone. If it does not count as connected, it
tries to connect until a try succeeds, or as often as is allowed: always to its URL with the same options, and with one
wait after each try but the last. If one succeeds, the client counts as connected from then on; if none does, it does
not, and what is reported is a fault of the connection, chained to the last error, if the URL can be read, and otherwise
no fault at all. The URL can be read if it is set, or is that of a file, or of a server with a plain host and port. And
a statement that is run tries to connect at most as often as the two numbers of the settings allow together. -/
theorem connect_tries {a : AdapterCalls} (ha : a.LeavesClient) {s : System}
    (hvalid : s.client.config.validate = .ok ()) :
    let c := s.client.config
    let tried := a.redial c s.client.url (Client.connectOptions s.adapter.kind c) s
    (s.client.connected = false → ∃ n : Nat, (n : Int) < c.connectRetries ∧ (∀ i < n, ∃ e, (tried i).1 = .error e) ∧
      ((tried n).1 = .ok () ∧ a.connectClient.perform s = (.ok (), (tried n).2.flagged) ∨
        (n + 1 : Int) = c.connectRetries ∧ ∃ e, (tried n).1 = .error e ∧
          a.connectClient.perform s = (.error (Client.unreached c e), (tried n).2) ∧
          (tried n).2.client.connected = false)) ∧
      (∀ e, (∃ url, c.redactedUrl = .ok url ∧ Client.unreached c e =
        .chained (.connection url (Client.triedReason c e) []) e.error) ↔ c.Readable) ∧
      (¬c.Readable → ∀ e, ¬(Client.unreached c e).IsFault) ∧
      (Config.given? c.url ≠ none ∨ c.driver.sameKey (.text "sqlite") = true ∨ c.IsServer → c.Readable) ∧
      ∀ count, a.Counted count → ∀ sql params,
        count ((a.run sql params).perform s).2 ≤ count s + c.retryAttempts.toNat * c.connectRetries.toNat := by
  intro c tried
  have hbounded := Config.bounded_of_validate hvalid
  have hretries : 1 ≤ c.connectRetries := hbounded.connectRetries
  refine ⟨fun hclear => ?_, fun e => Client.unreached_iff e, Client.unreached_plain,
    Config.readable_of_validate hvalid, fun count hcount sql params => spent_run ha hcount hbounded sql params⟩
  have hall : c.connectRetries.toNat = c.connectRetries.toNat - 1 + 1 := by omega
  obtain ⟨n, hn, hfailed, hends⟩ := perform_tryConnect a c s.client.url (Client.connectOptions s.adapter.kind c)
    (c.connectRetries.toNat - 1) s
  rw [← hall, ← perform_connectClient a hclear] at hends
  refine ⟨n, by omega, hfailed, ?_⟩
  obtain hok | ⟨hlast, e, he, hresult⟩ := hends
  · exact .inl hok
  · refine .inr ⟨by omega, e, he, hresult, ?_⟩
    rw [redial_client ha]
    exact hclear

end AdapterCalls

/-- A client of these settings, and a store that refuses so many of its tries to connect. -/
def refused (c : Config) (times : Nat) : System :=
  ⟨⟨c, c.toUrl, "mysql", false, .off⟩, .fresh .stub,
    { Store.quiet with connectErrors := List.replicate times (.plain (.ofMessage .connectionRefused "no")) }, 0⟩

/-- A client that is refused twice connects with its third try, the last one it has; and running a statement, it would
have made nine at most. -/
theorem connects_with_third_try :
    let s := refused {} 2
    let tried := AdapterCalls.library.redial {} s.client.url (Client.connectOptions .stub {}) s
    s.client.config.validate = .ok () ∧ (∀ i < 2, ∃ e, (tried i).1 = .error e) ∧
      Client.connect.perform s = (.ok (), (tried 2).2.flagged) ∧ s.client.config.Readable ∧
      ((Client.execute "SELECT 1" []).perform s).2.store.dials ≤ 3 * 3 := by
  intro s tried
  have hvalid : s.client.config.validate = .ok () := rfl
  obtain ⟨hconnects, -, -, hreadable, hbudget⟩ :=
    AdapterCalls.connect_tries AdapterCalls.library_lawful.leavesClient hvalid
  have hserver : s.client.config.IsServer := Config.isServer_default
  have hdials := hbudget _ AdapterCalls.library_counted "SELECT 1" []
  obtain ⟨n, hn, hfailed, hends⟩ := hconnects rfl
  have hlimit : s.client.config.connectRetries = 3 := rfl
  rw [hlimit] at hn hends
  have hfailedFirst (i : Nat) (hi : i < 2) : (tried i).1 ≠ .ok () := by
    match i, hi with
    | 0, _ => exact nofun
    | 1, _ => exact nofun
  obtain ⟨hok, hresult⟩ | ⟨hall, e, he, -⟩ := hends
  · have hlast : n = 2 := by
      have hlate : ¬n < 2 := fun h => hfailedFirst n h hok
      omega
    subst hlast
    exact ⟨hvalid, hfailed, hresult, hreadable (.inr (.inr hserver)), hdials⟩
  · have hlast : n = 2 := by omega
    subst hlast
    have hthird : (tried 2).1 = .ok () := rfl
    cases hthird.symm.trans he

/-- The URL of the settings cannot be read: when all tries have failed, that is what is reported, and no fault. -/
theorem unreadable_url_reported :
    let s := refused Config.halfBracketed 3
    s.client.config.validate = .ok () ∧ s.client.connected = false ∧
      (Client.connect.perform s).1 = .error (.ofPlain .value "Invalid IPv6 URL") :=
  ⟨rfl, rfl, rfl⟩

end RecordMapper
