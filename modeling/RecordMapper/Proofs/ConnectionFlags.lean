import RecordMapper.Proofs.Adapters
import RecordMapper.Proofs.ClientRuns
import RecordMapper.Proofs.Retries

/-!
The two flags of a connection: that of the client, and that of its adapter. To say of a client that it makes a call only
at the right moment, the call is replaced at the wrong ones by anything at all: the client must not notice. Main
statement: over every adapter that is connected once it says so, and that stays so through statements, a client that
counts as connected has a connected adapter at every point of every run; it never runs a statement with an adapter that
is not connected, and never connects while it counts as connected; and after disconnecting it is not connected.
-/
namespace RecordMapper

open Operation

/-- An operation ends with a result, in a system as one predicate says, or fails in one as the other says. -/
inductive EndsIn {α : Type} (R : α → System → Prop) (E : System → Prop) : Except Failure α → System → Prop
  | ok {a : α} {t : System} (h : R a t) : EndsIn R E (.ok a) t
  | error {e : Failure} {t : System} (h : E t) : EndsIn R E (.error e) t

/-- From each system with a property, two operations end alike, in one and the same system. -/
def SameFrom {α : Type} (P : System → Prop) (x y : Operation α) (R : α → System → Prop) (E : System → Prop) : Prop :=
  ∀ s, P s → y.perform s = x.perform s ∧ EndsIn R E (x.perform s).1 (x.perform s).2

/-- What an adapter may be relied on for: it never touches the client; once it has connected, it counts as connected;
and then it does so until it disconnects. -/
structure AdapterCalls.Lawful (a : AdapterCalls) : Prop where
  connects : ∀ url options s t, (a.connect url options).perform s = (.ok (), t) → t.adapter.connected = true
  connect_client : ∀ url options c, Keeps (fun s => s.client = c) (a.connect url options)
  disconnect_client : ∀ c, Keeps (fun s => s.client = c) a.disconnect
  execute_client : ∀ sql params c, Keeps (fun s => s.client = c) (a.execute sql params)
  ping_client : ∀ c, Keeps (fun s => s.client = c) a.ping
  poolStats_client : ∀ c, Keeps (fun s => s.client = c) a.poolStats
  execute_connected : ∀ sql params, Keeps (fun s => s.adapter.connected = true) (a.execute sql params)
  ping_connected : Keeps (fun s => s.adapter.connected = true) a.ping
  poolStats_connected : Keeps (fun s => s.adapter.connected = true) a.poolStats

/-- Anything that might be done instead of a call at the wrong moment. -/
structure Misuse where
  connect : String → Row → Operation Unit
  execute : String → Option (List Value) → Operation Answer

/-- An adapter that does anything else where it is to connect for a client that counts as connected, or to run a
statement while it is not connected. -/
def AdapterCalls.guarded (a : AdapterCalls) (m : Misuse) : AdapterCalls := { a with
  connect := fun url options => do
    if (← system).client.connected then m.connect url options else a.connect url options
  execute := fun sql params => do
    if (← system).adapter.connected then a.execute sql params else m.execute sql params }

/-- Client and adapter agree: a client that counts as connected has a connected adapter. The client may try to connect
at least once. -/
structure FlagsAgree (s : System) : Prop where
  retries : 1 ≤ s.client.config.connectRetries
  flag : s.client.connected = true → s.adapter.connected = true

/-- A client that does not count as connected, and may try to connect at least once. -/
structure MayConnect (s : System) : Prop where
  retries : 1 ≤ s.client.config.connectRetries
  clear : s.client.connected = false

theorem MayConnect.flagsAgree {s : System} (h : MayConnect s) : FlagsAgree s where
  retries := h.retries
  flag hflag := absurd hflag (h.clear ▸ Bool.false_ne_true)

theorem MayConnect.of_client {s t : System} (h : MayConnect s) (hclient : t.client = s.client) : MayConnect t where
  retries := hclient ▸ h.retries
  clear := hclient ▸ h.clear

/-- What leaves the client alone, and a connected adapter connected. -/
theorem keeps_flagsAgree {α : Type} {x : Operation α} (hclient : ∀ c, Keeps (fun s => s.client = c) x)
    (hconnected : Keeps (fun s => s.adapter.connected = true) x) : Keeps FlagsAgree x := by
  intro s hs
  have hsame : (x.perform s).2.client = s.client := hclient s.client s rfl
  constructor
  · rw [hsame]
    exact hs.retries
  · rw [hsame]
    exact fun hflag => hconnected s (hs.flag hflag)

/-! ### Operations that end alike -/

theorem EndsIn.same {α : Type} {I : System → Prop} {r : Except Failure α} {t : System} (h : I t) :
    EndsIn (fun _ => I) I r t := by
  cases r with
  | ok a => exact .ok h
  | error e => exact .error h

theorem EndsIn.holds {α : Type} {I : System → Prop} {r : Except Failure α} {t : System}
    (h : EndsIn (fun _ => I) I r t) : I t := by
  cases h with
  | ok h => exact h
  | error h => exact h

namespace SameFrom

variable {α β : Type} {P : System → Prop} {R : α → System → Prop} {Q : β → System → Prop} {E : System → Prop}

/-- An operation ends like itself. -/
theorem of_keeps {I : System → Prop} {x : Operation α} (h : Keeps I x) : SameFrom I x x (fun _ => I) I :=
  fun s hs => ⟨rfl, .same (h s hs)⟩

theorem pure {a : α} (h : ∀ s, P s → R a s) : SameFrom P (pure a) (pure a) R E :=
  fun s hs => ⟨rfl, .ok (h s hs)⟩

theorem throw {e : Failure} (h : ∀ s, P s → E s) : SameFrom P (throw e) (throw e) R E :=
  fun s hs => ⟨rfl, .error (h s hs)⟩

theorem change {f : System → System} {Q : Unit → System → Prop} (h : ∀ s, P s → Q () (f s)) :
    SameFrom P (change f) (change f) Q E :=
  fun s hs => ⟨rfl, .ok (h s hs)⟩

theorem ofResult {r : Except Failure α} (hok : ∀ a s, P s → R a s) (herror : ∀ s, P s → E s) :
    SameFrom P (ofResult r) (ofResult r) R E := by
  intro s hs
  refine ⟨rfl, ?_⟩
  rw [perform_ofResult]
  cases r with
  | ok a => exact .ok (hok a s hs)
  | error e => exact .error (herror s hs)

/-- What follows a look at the system is told for each system. -/
theorem look {f g : System → Operation α} (h : ∀ s, P s → SameFrom (· = s) (f s) (g s) R E) :
    SameFrom P (system >>= f) (system >>= g) R E := by
  intro s hs
  rw [perform_bind, perform_bind, perform_system]
  exact h s hs s rfl

theorem bind {x y : Operation β} {f g : β → Operation α} (hx : SameFrom P x y Q E)
    (hf : ∀ b, SameFrom (Q b) (f b) (g b) R E) : SameFrom P (x >>= f) (y >>= g) R E := by
  intro s hs
  obtain ⟨hsame, hends⟩ := hx s hs
  rw [perform_bind, perform_bind, hsame]
  generalize x.perform s = ended at hends ⊢
  obtain ⟨r, t⟩ := ended
  cases hends with
  | ok hQ => exact hf _ t hQ
  | error hE => exact ⟨rfl, .error hE⟩

/-- What follows an outcome is told for each result, and for each failure. -/
theorem outcomeBind {x y : Operation β} {f g : Except Failure β → Operation α} {E' : System → Prop}
    (hx : SameFrom P x y Q E') (hok : ∀ b, SameFrom (Q b) (f (.ok b)) (g (.ok b)) R E)
    (herror : ∀ e, SameFrom E' (f (.error e)) (g (.error e)) R E) :
    SameFrom P (outcome x >>= f) (outcome y >>= g) R E := by
  intro s hs
  obtain ⟨hsame, hends⟩ := hx s hs
  rw [perform_bind, perform_bind, perform_outcome, perform_outcome, hsame]
  generalize x.perform s = ended at hends ⊢
  obtain ⟨r, t⟩ := ended
  cases hends with
  | ok hQ => exact hok _ t hQ
  | error hE => exact herror _ t hE

theorem locked {x y : Operation α} (l : Lock) (h : SameFrom P x y R E) : SameFrom P (locked l x) (locked l y) R E := by
  intro s hs
  rw [perform_locked, perform_locked]
  exact h s hs

/-- More is known before, or less is asked after. -/
theorem imp {K : System → Prop} {T : α → System → Prop} {F : System → Prop} {x y : Operation α}
    (h : SameFrom P x y R E) (hP : ∀ s, K s → P s) (hR : ∀ a s, R a s → T a s) (hE : ∀ s, E s → F s) :
    SameFrom K x y T F := by
  intro s hs
  obtain ⟨hsame, hends⟩ := h s (hP s hs)
  refine ⟨hsame, ?_⟩
  generalize x.perform s = ended at hends ⊢
  obtain ⟨r, t⟩ := ended
  cases hends with
  | ok h => exact .ok (hR _ _ h)
  | error h => exact .error (hE _ h)

end SameFrom

/-! ### Clients -/

namespace AdapterCalls.Lawful

variable {a : AdapterCalls} (ha : a.Lawful)
include ha

theorem keeps_execute (sql : String) (params : Option (List Value)) : Keeps FlagsAgree (a.execute sql params) :=
  keeps_flagsAgree (ha.execute_client sql params) (ha.execute_connected sql params)

theorem keeps_ping : Keeps FlagsAgree a.ping := keeps_flagsAgree ha.ping_client ha.ping_connected

theorem keeps_poolStats : Keeps FlagsAgree a.poolStats := keeps_flagsAgree ha.poolStats_client ha.poolStats_connected

end AdapterCalls.Lawful

namespace AdapterCalls

variable {a : AdapterCalls}

/-- A client that does not count as connected may connect. -/
theorem perform_guarded_connect (m : Misuse) (url : String) (options : Row) {s : System}
    (h : s.client.connected = false) :
    ((a.guarded m).connect url options).perform s = (a.connect url options).perform s := by
  rw [guarded, perform_bind, perform_system]
  dsimp only
  rw [h]
  rfl

/-- An adapter that is connected may run a statement. -/
theorem perform_guarded_execute (m : Misuse) (sql : String) (params : Option (List Value)) {s : System}
    (h : s.adapter.connected = true) :
    ((a.guarded m).execute sql params).perform s = (a.execute sql params).perform s := by
  rw [guarded, perform_bind, perform_system]
  dsimp only
  rw [h]
  rfl

variable (ha : a.Lawful) (m : Misuse)
include ha

/-- One attempt to connect. -/
theorem same_connect (url : String) (options : Row) :
    SameFrom MayConnect (a.connect url options) ((a.guarded m).connect url options)
      (fun _ t => MayConnect t ∧ t.adapter.connected = true) MayConnect := by
  intro s hs
  refine ⟨perform_guarded_connect m url options hs.clear, ?_⟩
  have hclient : MayConnect ((a.connect url options).perform s).2 :=
    hs.of_client (ha.connect_client url options s.client s rfl)
  have hconnects := ha.connects url options s
  generalize (a.connect url options).perform s = ended at hclient hconnects ⊢
  obtain ⟨r, t⟩ := ended
  cases r with
  | ok _ => exact .ok ⟨hclient, hconnects t rfl⟩
  | error e => exact .error hclient

/-- As long as it fails to connect, the client does not count as connected. -/
theorem same_tryConnect (c : Config) (url : String) (options : Row) : ∀ left : Nat,
    SameFrom MayConnect (a.tryConnect c url options (left + 1)) ((a.guarded m).tryConnect c url options (left + 1))
      (fun _ t => FlagsAgree t ∧ t.adapter.connected = true) FlagsAgree
  | 0 => by
    refine SameFrom.outcomeBind (same_connect ha m url options) (fun _ => ?_) fun failure => ?_
    · exact SameFrom.change fun s hs => ⟨⟨hs.1.retries, fun _ => hs.2⟩, hs.2⟩
    · exact SameFrom.bind (SameFrom.ofResult (fun _ _ hs => hs) fun _ => MayConnect.flagsAgree) fun _ =>
        SameFrom.throw fun _ => MayConnect.flagsAgree
  | left + 1 => by
    refine SameFrom.outcomeBind (same_connect ha m url options) (fun _ => ?_) fun failure => ?_
    · exact SameFrom.change fun s hs => ⟨⟨hs.1.retries, fun _ => hs.2⟩, hs.2⟩
    · exact SameFrom.bind (SameFrom.change fun _ hs => ⟨hs.retries, hs.clear⟩) fun _ =>
        same_tryConnect c url options left

theorem same_connectClient :
    SameFrom FlagsAgree a.connectClient (a.guarded m).connectClient
      (fun _ t => FlagsAgree t ∧ t.adapter.connected = true) FlagsAgree := by
  refine SameFrom.look fun s hs => ?_
  cases hflag : s.client.connected with
  | true => exact SameFrom.pure fun t ht => ht ▸ ⟨hs, hs.flag hflag⟩
  | false =>
    refine SameFrom.locked _ (SameFrom.look fun t ht => ?_)
    subst ht
    rw [hflag]
    have hretries := hs.retries
    have hsome : t.client.config.connectRetries.toNat = t.client.config.connectRetries.toNat - 1 + 1 := by omega
    dsimp only
    rw [hsome]
    exact (same_tryConnect ha m _ _ _ _).imp (fun u hu => hu ▸ ⟨hs.retries, hflag⟩) (fun _ _ h => h) fun _ h => h

theorem same_ensureConnected :
    SameFrom FlagsAgree a.ensureConnected (a.guarded m).ensureConnected
      (fun _ t => FlagsAgree t ∧ t.adapter.connected = true) FlagsAgree := by
  refine SameFrom.look fun s hs => ?_
  cases hflag : s.client.connected with
  | false => exact (same_connectClient ha m).imp (fun t ht => ht ▸ hs) (fun _ _ h => h) fun _ h => h
  | true =>
    cases hconnected : s.adapter.connected with
    | true => exact SameFrom.pure fun t ht => ht ▸ ⟨hs, hconnected⟩
    | false =>
      -- the client would count as connected without its adapter
      rw [hs.flag hflag] at hconnected
      cases hconnected

/-- A statement is run after the client has been connected, and so by a connected adapter. -/
theorem same_attempt (sql : String) (params : List Value) :
    SameFrom FlagsAgree (a.attempt sql params) ((a.guarded m).attempt sql params) (fun _ => FlagsAgree) FlagsAgree :=
  SameFrom.bind (same_ensureConnected ha m) fun _ s hs =>
    ⟨perform_guarded_execute m sql (some params) hs.2, .same (ha.keeps_execute sql (some params) s hs.1)⟩

theorem same_attempts (c : Config) (sql : String) (params : List Value) : ∀ left n : Nat,
    SameFrom FlagsAgree (a.attempts c sql params n left) ((a.guarded m).attempts c sql params n left)
      (fun _ => FlagsAgree) FlagsAgree
  | 0, n => by
    refine SameFrom.outcomeBind (same_attempt ha m sql params) (fun _ => SameFrom.pure fun _ hs => hs) fun failure => ?_
    dsimp only
    cases Client.judge failure <;> exact SameFrom.throw fun _ hs => hs
  | left + 1, n => by
    refine SameFrom.outcomeBind (same_attempt ha m sql params) (fun _ => SameFrom.pure fun _ hs => hs) fun failure => ?_
    dsimp only
    cases Client.judge failure with
    | final e => exact SameFrom.throw fun _ hs => hs
    | again e =>
      refine SameFrom.bind (SameFrom.ofResult (fun _ _ hs => hs) fun _ hs => hs) fun delay => ?_
      exact SameFrom.bind (SameFrom.change fun _ hs => ⟨hs.retries, hs.flag⟩) fun _ =>
        same_attempts c sql params left (n + 1)

/-- An adapter that disconnects leaves the client and its settings alone. -/
theorem keeps_retries_disconnect : Keeps (fun s => 1 ≤ s.client.config.connectRetries) a.disconnect := by
  intro s hs
  have hsame : (a.disconnect.perform s).2.client = s.client := ha.disconnect_client s.client s rfl
  rw [hsame]
  exact hs

/-- However disconnecting ends, the client does not count as connected after it. -/
theorem same_disconnectClient :
    SameFrom FlagsAgree a.disconnectClient (a.guarded m).disconnectClient (fun _ => MayConnect) MayConnect := by
  have hcleared (result : Except Failure Unit) :
      SameFrom (fun s => 1 ≤ s.client.config.connectRetries)
        (changeClient (fun s => { s with connected := false }) >>= fun _ => ofResult result)
        (changeClient (fun s => { s with connected := false }) >>= fun _ => ofResult result)
        (fun _ => MayConnect) MayConnect :=
    SameFrom.bind (SameFrom.change (Q := fun _ => MayConnect) fun _ hs => ⟨hs, rfl⟩) fun _ =>
      SameFrom.ofResult (fun _ _ hs => hs) fun _ hs => hs
  refine SameFrom.look fun s hs => ?_
  cases hflag : s.client.connected with
  | false => exact SameFrom.pure fun t ht => ht ▸ ⟨hs.retries, hflag⟩
  | true =>
    refine SameFrom.locked _ (SameFrom.look fun t ht => ?_)
    subst ht
    rw [hflag]
    have hdisconnect := (SameFrom.of_keeps (keeps_retries_disconnect ha)).imp (K := (· = t))
      (fun u hu => hu ▸ hs.retries) (fun _ _ h => h) fun _ h => h
    refine SameFrom.outcomeBind hdisconnect (fun _ => hcleared (.ok ())) fun failure => ?_
    have hfault := SameFrom.of_keeps (I := fun s => 1 ≤ s.client.config.connectRetries)
      (Client.keeps_connectionFault t.client.config ("Disconnect failed: " ++ failure.error.text) failure.error)
    exact SameFrom.outcomeBind hfault (fun _ => hcleared _) fun _ => hcleared _

theorem same_reconnect :
    SameFrom FlagsAgree a.reconnect (a.guarded m).reconnect (fun _ => FlagsAgree) FlagsAgree := by
  have hdisconnect := (SameFrom.of_keeps (keeps_retries_disconnect ha)).imp (K := FlagsAgree)
    (fun _ hs => hs.retries) (fun _ _ h => h) fun _ h => h
  have hconnect := (same_connectClient ha m).imp (K := MayConnect) (fun _ => MayConnect.flagsAgree)
    (fun _ _ h => h.1) fun _ h => h
  have hclear := SameFrom.change (P := fun s => 1 ≤ s.client.config.connectRetries) (Q := fun _ => MayConnect)
    (E := FlagsAgree) (f := fun s => { s with client := { s.client with connected := false } }) fun _ hs => ⟨hs, rfl⟩
  exact SameFrom.bind (SameFrom.locked _ (SameFrom.outcomeBind hdisconnect (fun _ => hclear) fun _ => hclear))
    fun _ => hconnect

theorem same_probe : SameFrom FlagsAgree a.probe (a.guarded m).probe (fun _ => FlagsAgree) FlagsAgree :=
  SameFrom.outcomeBind (SameFrom.of_keeps ha.keeps_ping) (fun _ => SameFrom.pure fun _ hs => hs) fun _ =>
    same_reconnect ha m

theorem same_healthCheck :
    SameFrom FlagsAgree a.healthCheck (a.guarded m).healthCheck (fun _ => FlagsAgree) FlagsAgree :=
  SameFrom.of_keeps (keeps_healthCheck ha.keeps_ping ha.keeps_poolStats)

/-- No call makes use of the adapter at a wrong moment, and after every call client and adapter agree. -/
theorem same_through (c : ClientCall) :
    SameFrom FlagsAgree (c.through a) (c.through (a.guarded m)) (fun _ => FlagsAgree) FlagsAgree := by
  have hconnect := (same_connectClient ha m).imp (fun _ h => h) (fun _ _ h => h.1) fun _ h => h
  have hdisconnect := (same_disconnectClient ha m).imp (fun _ h => h) (fun _ _ => MayConnect.flagsAgree) fun _ =>
    MayConnect.flagsAgree
  cases c with
  | connect => exact hconnect
  | ensureConnected => exact (same_ensureConnected ha m).imp (fun _ h => h) (fun _ _ h => h.1) fun _ h => h
  | disconnect => exact hdisconnect
  | launch =>
    have hstart : Keeps FlagsAgree Client.startKeepAlive :=
      Client.keeps_startKeepAlive (Keeps.change fun s hs => ⟨hs.retries, hs.flag⟩)
    exact SameFrom.bind hconnect fun _ => SameFrom.of_keeps (Keeps.bind hstart fun _ => Keeps.pure _)
  | shutdown =>
    have hstop : Keeps FlagsAgree Client.stopKeepAlive := fun _ hs => ⟨hs.retries, hs.flag⟩
    exact SameFrom.bind (SameFrom.of_keeps hstop) fun _ => hdisconnect
  | execute sql params =>
    refine SameFrom.bind (SameFrom.look fun s hs => ?_) fun _ => SameFrom.pure fun _ h => h
    exact (same_attempts ha m _ sql params _ 1).imp (fun t ht => ht ▸ hs) (fun _ _ h => h) fun _ h => h
  | healthCheck => exact SameFrom.bind (same_healthCheck ha m) fun _ => SameFrom.pure fun _ h => h
  | probe => exact same_probe ha m
  | reconnect => exact same_reconnect ha m

end AdapterCalls

/-! ### Runs -/

/-- A whole run makes use of the adapter at right moments only, and client and adapter agree after it. -/
theorem runMoves_guarded {a : AdapterCalls} (ha : a.Lawful) (m : Misuse) : ∀ (moves : List Move) (s : System),
    FlagsAgree s → runMoves (ClientCall.through (a.guarded m)) moves s = runMoves (ClientCall.through a) moves s ∧
      FlagsAgree (runMoves (ClientCall.through a) moves s)
  | [], s, hs => ⟨rfl, hs⟩
  | .call c :: rest, s, hs => by
    obtain ⟨hsame, hends⟩ := AdapterCalls.same_through ha m c s hs
    have ih := runMoves_guarded ha m rest ((c.through a).perform s).2 hends.holds
    rw [runMoves, runMoves, List.foldl_cons, List.foldl_cons, ← runMoves, ← runMoves, Move.after, Move.after, hsame]
    exact ih
  | .turn next :: rest, s, hs => runMoves_guarded ha m rest (s.turnTo next) ⟨hs.retries, hs.flag⟩

/-- A client as it is made of settings. -/
theorem Client.fresh_of_ofConfig {c : Config} {client : Client} (h : Client.ofConfig c = .ok client) :
    1 ≤ client.config.connectRetries ∧ client.connected = false := by
  obtain ⟨_, hvalid, h⟩ := bind_eq_ok.1 h
  obtain ⟨driver, -, h⟩ := bind_eq_ok.1 h
  cases h
  exact ⟨(Config.bounded_of_validate hvalid).connectRetries, rfl⟩

/-! ### The library's adapters -/

/-- Whatever is done before, an operation that ends with this one. -/
theorem SameFrom.last {α β : Type} {P : System → Prop} {R : β → System → Prop} {x : Operation α}
    {f : α → Operation β} (hf : ∀ a, SameFrom (fun _ => True) (f a) (f a) R fun _ => True) :
    SameFrom P (x >>= f) (x >>= f) R fun _ => True :=
  SameFrom.bind (Q := fun _ _ => True) ((SameFrom.of_keeps (I := fun _ => True) fun _ _ => trivial).imp
    (fun _ _ => trivial) (fun _ _ h => h) fun _ h => h) hf

/-- An adapter that says that it has connected counts as connected. -/
theorem Adapter.connected_of_connect (url : String) (options : Row) :
    SameFrom (fun _ => True) (connect url options) (connect url options) (fun _ t => t.adapter.connected = true)
      fun _ => True := by
  refine SameFrom.look fun s _ => ?_
  cases s.adapter.kind with
  | stub =>
    refine SameFrom.last fun _ => SameFrom.last fun _ => SameFrom.last fun _ => ?_
    exact SameFrom.change fun _ _ => rfl
  | mysql =>
    refine SameFrom.look fun s _ => ?_
    cases hconnected : s.adapter.connected with
    | true => exact SameFrom.pure fun t ht => ht ▸ hconnected
    | false =>
      refine SameFrom.last fun _ => SameFrom.last fun _ => SameFrom.last fun _ => SameFrom.last fun _ => ?_
      exact SameFrom.change fun _ _ => rfl
  | sqlite =>
    refine SameFrom.look fun s _ => ?_
    cases hconnected : s.adapter.connected with
    | true => exact SameFrom.pure fun t ht => ht ▸ hconnected
    | false =>
      refine SameFrom.locked _ (SameFrom.look fun t _ => ?_)
      cases hconnected : t.adapter.connected with
      | true => exact SameFrom.pure fun u hu => hu ▸ hconnected
      | false =>
        refine SameFrom.last fun _ => SameFrom.last fun _ => SameFrom.last fun _ => SameFrom.last fun _ =>
          SameFrom.last fun _ => ?_
        exact SameFrom.change fun _ _ => rfl

/-- The library's adapters may be relied on. -/
theorem AdapterCalls.library_lawful : library.Lawful := by
  have hstatements (c : Client) : UndisturbedByStatements (fun _ => True) fun s => s.client = c :=
    ⟨fun _ _ hs => hs, fun _ hs => hs⟩
  have hclient (c : Client) : Undisturbed (fun _ => True) fun s => s.client = c :=
    ⟨hstatements c, Keeps.bind Keeps.system fun _ => Keeps.bind (Keeps.change fun _ hs => hs) fun _ =>
      Keeps.failWith? _, fun _ _ hs => hs⟩
  have hconnected : UndisturbedByStatements (fun _ => True) fun s => s.adapter.connected = true :=
    ⟨fun _ _ hs => hs, fun _ hs => hs⟩
  exact {
    connects := fun url options s t h => by
      have hends := (Adapter.connected_of_connect url options s trivial).2
      have hperform : (Adapter.connect url options).perform s = (.ok (), t) := h
      rw [hperform] at hends
      cases hends with
      | ok h => exact h
    connect_client := fun url options c => Adapter.keeps_connect (hclient c) (fun _ _ => trivial) url options
    disconnect_client := fun c => Adapter.keeps_disconnect (hclient c) fun _ _ => trivial
    execute_client := fun sql params c => Adapter.keeps_execute (hstatements c) (fun _ _ => trivial) sql params
    ping_client := fun c => Adapter.keeps_ping (hstatements c) (fun _ _ => trivial) fun _ hs => hs
    poolStats_client := fun c => Adapter.keeps_poolStats
    execute_connected := fun sql params => Adapter.keeps_execute hconnected (fun _ _ => trivial) sql params
    ping_connected := Adapter.keeps_ping hconnected (fun _ _ => trivial) fun _ hs => hs
    poolStats_connected := Adapter.keeps_poolStats }

/-- A client made of settings, over any adapter that may be relied on, and any run of calls with any turns of the store.
At every point of the run a client that counts as connected has a connected adapter. Whatever the adapter would do if it
were to connect for a client that counts as connected, or to run a statement while it is not connected, makes no
difference to the run, nor to the outcome of the next call: so neither ever happens. And if the next call is to
disconnect, then however it ends, the client is not connected after it. -/
theorem connection_flags_agree {a : AdapterCalls} (ha : a.Lawful) (m : Misuse) {c : Config} {client : Client}
    (hclient : Client.ofConfig c = .ok client) (adapter : Adapter) (store : Store) (issued : Nat)
    (moves : List Move) :
    let start : System := ⟨client, adapter, store, issued⟩
    let s := runMoves (ClientCall.through a) moves start
    (s.client.connected = true → s.adapter.connected = true) ∧
      runMoves (ClientCall.through (a.guarded m)) moves start = s ∧
      (∀ call : ClientCall, (call.through (a.guarded m)).perform s = (call.through a).perform s) ∧
      Client.isConnected ((ClientCall.disconnect.through a).perform s).2 = false := by
  intro start s
  obtain ⟨hretries, hclear⟩ := Client.fresh_of_ofConfig hclient
  have hstart : MayConnect start := ⟨hretries, hclear⟩
  obtain ⟨hsame, hs⟩ := runMoves_guarded ha m moves start hstart.flagsAgree
  refine ⟨hs.flag, hsame, fun call => (AdapterCalls.same_through ha m call s hs).1, ?_⟩
  have hcleared : MayConnect ((ClientCall.disconnect.through a).perform s).2 :=
    (AdapterCalls.same_disconnectClient ha m s hs).2.holds
  rw [Client.isConnected, hcleared.clear]
  rfl

/-- A client that is connected, whose probe then fails, and whose store will not let it disconnect. -/
def shakyMoves : List Move :=
  let gone : Error := .plain (.ofMessage .connectionReset "gone")
  [.call .launch, .turn { Store.quiet with pingError := some gone, connectErrors := [gone] }, .call .probe,
   .call (.execute "SELECT 1" []), .turn { Store.quiet with disconnectError := some gone }]

/-- A client of the settings that are there without any. -/
def plainClient : Client := ⟨{}, ({} : Config).toUrl, "mysql", false, .off⟩

/-- This client after these moves. -/
def shaken : System := runMoves ClientCall.operation shakyMoves ⟨plainClient, .fresh .stub, .quiet, 0⟩

/-- The client counts as connected with a connected adapter, and not once disconnecting has failed. -/
theorem shaken_flags_agree :
    shaken.client.connected = true ∧ shaken.adapter.connected = true ∧
      (ClientCall.disconnect.operation.perform shaken).1.toOption.isNone = true ∧
      Client.isConnected (ClientCall.disconnect.operation.perform shaken).2 = false := by
  have hfresh : Client.ofConfig {} = .ok plainClient := rfl
  have hconnected : shaken.client.connected = true := rfl
  obtain ⟨hflag, -, -, hdisconnect⟩ := connection_flags_agree AdapterCalls.library_lawful
    ⟨fun _ _ => throw Client.notConnected, fun _ _ => throw Client.notConnected⟩ hfresh (.fresh .stub) .quiet 0
    shakyMoves
  exact ⟨hconnected, hflag hconnected, rfl, hdisconnect⟩

end RecordMapper
