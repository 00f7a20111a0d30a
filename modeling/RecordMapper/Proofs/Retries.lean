import RecordMapper.Proofs.Sent
import RecordMapper.Proofs.Statement
import RecordMapper.Proofs.Waits

/-!
Statements that are tried again. `Client.Tries` is what attempts from a number on have come to, and what the client
slept between them. Main statement: whatever the store does, a statement is tried until the first attempt whose
outcome may not pass, and that outcome is reported; or, if there is none within the budget, exactly as often as the
budget allows, and then the exhaustion is reported with the last error. Between two attempts there is one delay, and
all other waits are for connections.
-/
namespace RecordMapper

/-- The failure is a fault. -/
def Failure.IsFault (e : Failure) : Prop := ∃ f, e.error = .fault f

namespace Config

/-- What of settings within bounds attempts and their delays depend on. -/
structure Bounded (c : Config) : Prop where
  retryAttempts : 1 ≤ c.retryAttempts
  connectRetries : 1 ≤ c.connectRetries
  retryBaseDelay : c.retryBaseDelay.lt (.whole 0) = false
  retryMaxDelay : c.retryMaxDelay.lt (.whole 0) = false

theorem checkDelay_eq_ok {key : String} {delay : Number} (h : checkDelay key delay = .ok ()) :
    delay.lt (.whole 0) = false := by
  rw [checkDelay] at h
  split at h
  · cases h
  · rename_i hlt
    exact Bool.eq_false_iff.2 hlt

/-- Settings that are refused under a condition are accepted only if it does not hold. -/
theorem refuse_eq_ok {p : Prop} [Decidable p] {key reason : String} {next : Unit → Except Failure Unit} :
    (if p then refuse key reason >>= next else next ()) = .ok () ↔ ¬p ∧ next () = .ok () := by
  split
  · rename_i hp
    exact ⟨nofun, fun h => absurd hp h.1⟩
  · rename_i hp
    exact ⟨fun h => ⟨hp, h⟩, And.right⟩

theorem bounded_of_validate {c : Config} (h : c.validate = .ok ()) : c.Bounded := by
  rw [validate] at h
  obtain ⟨driver, -, h⟩ := bind_eq_ok.1 h
  obtain ⟨-, -, h⟩ := bind_eq_ok.1 h
  obtain ⟨-, h⟩ := refuse_eq_ok.1 h
  obtain ⟨-, -, h⟩ := bind_eq_ok.1 h
  obtain ⟨hattempts, h⟩ := refuse_eq_ok.1 h
  obtain ⟨hretries, h⟩ := refuse_eq_ok.1 h
  obtain ⟨-, -, h⟩ := bind_eq_ok.1 h
  obtain ⟨-, -, h⟩ := bind_eq_ok.1 h
  obtain ⟨_, hbase, h⟩ := bind_eq_ok.1 h
  obtain ⟨_, hmax, _⟩ := bind_eq_ok.1 h
  exact ⟨Int.not_lt.1 hattempts, Int.not_lt.1 hretries, checkDelay_eq_ok hbase, checkDelay_eq_ok hmax⟩

/-- A delay that cannot be told is no fault. -/
theorem backoffDelay_eq_error {c : Config} {attempt : Int} {e : Failure} (h : c.backoffDelay attempt = .error e) :
    ¬ e.IsFault := by
  rw [backoffDelay] at h
  cases hdelay : c.retryBaseDelay.mul (Number.twoPow (attempt - 1)) with
  | ok d =>
    rw [hdelay] at h
    cases h
  | error problem =>
    rw [hdelay] at h
    cases h
    rintro ⟨f, hf⟩
    cases problem <;> cases hf

end Config

namespace Client

open Operation

/-- What is reported of a failure that may not pass: a fault as it is, any other error as one that is permanent. -/
def reported (e : Failure) : Failure :=
  match e.error with
  | .fault _ => e
  | .plain cause => .chained (.permanent (Error.plain cause).reason cause.details) (.plain cause)

/-- Attempts from number `n` on, and the delays between them: each but the last has failed in a way that may pass. -/
inductive Tries (c : Config) (sql : String) (params : List Value) :
    Nat → System → List (Except Failure Answer) → List Number → System → Prop
  | last {n : Nat} {s t : System} {outcome : Except Failure Answer}
      (hlast : (attempt sql params).perform s = (outcome, t)) : Tries c sql params n s [outcome] [] t
  | again {n : Nat} {s s' t : System} {e : Failure} {d : Number} {outcomes : List (Except Failure Answer)}
      {delays : List Number} (hfailed : (attempt sql params).perform s = (.error e, s'))
      (hpasses : e.error.isTransient = true) (hdelay : c.backoffDelay n = .ok d)
      (hrest : Tries c sql params (n + 1) ((sleep d).perform s').2 outcomes delays t) :
      Tries c sql params n s (.error e :: outcomes) (d :: delays) t

/-- What is waited for during attempts of which each waits some times for its connection, with delays between them. -/
def woven (d : Number) : List Nat → List Number → List Number
  | [], _ => []
  | k :: _, [] => List.replicate k d
  | k :: rest, delay :: delays => List.replicate k d ++ delay :: woven d rest delays

/-- What attempts from number `n` on end with, of which `left` were left after the first. -/
inductive Ends (c : Config) (sql : String) (n left : Nat) (outcomes : List (Except Failure Answer)) :
    Except Failure Answer → Prop
  | answered {answer : Answer} (hlast : outcomes.getLast? = some (.ok answer)) : Ends c sql n left outcomes (.ok answer)
  | refused {e : Failure} (hlast : outcomes.getLast? = some (.error e)) (hfinal : e.error.isTransient = false) :
      Ends c sql n left outcomes (.error (reported e))
  | exhausted {e : Failure} (hlast : outcomes.getLast? = some (.error e)) (hpasses : e.error.isTransient = true)
      (hlength : outcomes.length = left + 1) :
      Ends c sql n left outcomes (.error (exhausted c.retryAttempts sql e.error))
  | noDelay {e problem : Failure} {m : Nat} (hlast : outcomes.getLast? = some (.error e))
      (hpasses : e.error.isTransient = true) (hlength : outcomes.length ≤ left) (hnumber : m + 1 = n + outcomes.length)
      (hdelay : c.backoffDelay m = .error problem) : Ends c sql n left outcomes (.error problem)

variable {c : Config} {sql : String} {params : List Value}

/-- A failure is tried again if its error may pass; else it is reported. -/
theorem judge_eq (e : Failure) :
    judge e = if e.error.isTransient then .again e.error else .final (reported e) := by
  rw [judge, reported]
  cases h : e.error with
  | fault f => rfl
  | plain cause =>
    cases htransient : cause.isTransient <;> simp [Error.isTransient, Error.classify, htransient] <;> rfl

/-- One more attempt before the others ends as they do. -/
theorem Ends.cons {n left : Nat} {outcomes : List (Except Failure Answer)} {result : Except Failure Answer}
    (h : Ends c sql (n + 1) left outcomes result) (first : Except Failure Answer) :
    Ends c sql n (left + 1) (first :: outcomes) result := by
  have hlast {o : Except Failure Answer} (h : outcomes.getLast? = some o) :
      (first :: outcomes).getLast? = some o := by
    rw [List.getLast?_cons, h]
    rfl
  cases h with
  | answered h => exact .answered (hlast h)
  | refused h hfinal => exact .refused (hlast h) hfinal
  | exhausted h hpasses hlength => exact .exhausted (hlast h) hpasses (congrArg (· + 1) hlength)
  | noDelay h hpasses hlength hnumber hdelay =>
    refine .noDelay (hlast h) hpasses (Nat.succ_le_succ hlength) ?_ hdelay
    rw [List.length_cons]
    omega

/-! ### One attempt -/

section
variable {s s' : System} {e : Failure}

theorem perform_attempts_answered {answer : Answer} (h : (attempt sql params).perform s = (.ok answer, s'))
    (n left : Nat) : (attempts c sql params n left).perform s = (.ok answer, s') := by
  cases left with
  | zero | succ =>
    rw [attempts, AdapterCalls.attempts, perform_bind, perform_outcome, h]
    rfl

theorem perform_attempts_refused (h : (attempt sql params).perform s = (.error e, s'))
    (hfinal : e.error.isTransient = false) (n left : Nat) :
    (attempts c sql params n left).perform s = (.error (reported e), s') := by
  cases left with
  | zero | succ =>
    rw [attempts, AdapterCalls.attempts, perform_bind, perform_outcome, h]
    dsimp only
    rw [judge_eq, hfinal]
    rfl

theorem perform_attempts_exhausted (h : (attempt sql params).perform s = (.error e, s'))
    (hpasses : e.error.isTransient = true) (n : Nat) :
    (attempts c sql params n 0).perform s = (.error (exhausted c.retryAttempts sql e.error), s') := by
  rw [attempts, AdapterCalls.attempts, perform_bind, perform_outcome, h]
  dsimp only
  rw [judge_eq, hpasses]
  rfl

/-- After a failure that may pass the client sleeps, if there is a delay, and goes on. -/
theorem perform_attempts_again (h : (attempt sql params).perform s = (.error e, s'))
    (hpasses : e.error.isTransient = true) (n left : Nat) :
    (attempts c sql params n (left + 1)).perform s =
      match c.backoffDelay n with
      | .ok d => (attempts c sql params (n + 1) left).perform ((sleep d).perform s').2
      | .error problem => (.error problem, s') := by
  rw [attempts, AdapterCalls.attempts, perform_bind, perform_outcome, h]
  dsimp only
  rw [judge_eq, hpasses, if_pos rfl]
  dsimp only
  rw [perform_bind, perform_ofResult]
  cases c.backoffDelay n with
  | error problem => rfl
  | ok d =>
    dsimp only
    rw [perform_bind]
    rfl

end

/-! ### All attempts -/

/-- Whatever the store does, attempts are made one after another until they end. -/
theorem tries_attempts (c : Config) (sql : String) (params : List Value) : ∀ (left n : Nat) (s : System),
    ∃ outcomes delays, Tries c sql params n s outcomes delays ((attempts c sql params n left).perform s).2 ∧
      outcomes.length ≤ left + 1 ∧ Ends c sql n left outcomes ((attempts c sql params n left).perform s).1
  | left, n, s => by
    obtain ⟨first, s', h⟩ : ∃ first s', (attempt sql params).perform s = (first, s') := ⟨_, _, rfl⟩
    have hone : [first].length ≤ left + 1 := Nat.succ_le_succ (Nat.zero_le left)
    cases first with
    | ok answer =>
      rw [perform_attempts_answered h]
      exact ⟨_, _, .last h, hone, .answered rfl⟩
    | error e =>
      cases hpasses : e.error.isTransient with
      | false =>
        rw [perform_attempts_refused h hpasses]
        exact ⟨_, _, .last h, hone, .refused rfl hpasses⟩
      | true =>
        cases left with
        | zero =>
          rw [perform_attempts_exhausted h hpasses]
          exact ⟨_, _, .last h, hone, .exhausted rfl hpasses rfl⟩
        | succ left =>
          rw [perform_attempts_again h hpasses]
          cases hdelay : c.backoffDelay n with
          | error problem =>
            exact ⟨_, _, .last h, hone, .noDelay rfl hpasses (Nat.succ_le_succ (Nat.zero_le left)) rfl hdelay⟩
          | ok d =>
            obtain ⟨outcomes, delays, htries, hlength, hends⟩ :=
              tries_attempts c sql params left (n + 1) ((sleep d).perform s').2
            exact ⟨_, _, .again h hpasses hdelay htries, Nat.succ_le_succ hlength, hends.cons _⟩

theorem Tries.passed {n : Nat} {s t : System} {outcomes : List (Except Failure Answer)} {delays : List Number}
    (h : Tries c sql params n s outcomes delays t) :
    ∀ o ∈ outcomes.dropLast, ∃ e, o = .error e ∧ e.error.isTransient = true := by
  induction h with
  | last _ => exact fun o ho => absurd ho List.not_mem_nil
  | again hfailed hpasses hdelay hrest ih =>
    rename_i outcomes delays
    cases outcomes with
    | nil => cases hrest
    | cons next rest =>
      intro o ho
      rcases List.mem_cons.1 ho with rfl | ho
      · exact ⟨_, rfl, hpasses⟩
      · exact ih o ho

/-- There is one delay between two attempts, that of the attempt before it. -/
theorem Tries.delays_eq {n : Nat} {s t : System} {outcomes : List (Except Failure Answer)} {delays : List Number}
    (h : Tries c sql params n s outcomes delays t) :
    delays.length + 1 = outcomes.length ∧
      ∀ (i : Nat) (d : Number), delays[i]? = some d → c.backoffDelay (n + i : Nat) = .ok d := by
  induction h with
  | last _ => exact ⟨rfl, nofun⟩
  | @again n _ _ _ _ d _ _ _ _ hdelay _ ih =>
    obtain ⟨hlength, hdelays⟩ := ih
    refine ⟨congrArg (· + 1) hlength, fun i d' hd => ?_⟩
    cases i with
    | zero =>
      cases hd
      exact hdelay
    | succ i =>
      rw [← Nat.add_assoc, Nat.add_right_comm]
      exact hdelays i d' hd

/-- Apart from the delays, attempts wait for connections only. -/
theorem Tries.waits_eq {n : Nat} {s t : System} {outcomes : List (Except Failure Answer)} {delays : List Number}
    (h : Tries c sql params n s outcomes delays t) (hconfig : s.client.config = c) (hretries : 1 ≤ c.connectRetries) :
    ∃ connecting : List Nat, connecting.length = outcomes.length ∧ (∀ k ∈ connecting, (k : Int) < c.connectRetries) ∧
      t.store.waits = s.store.waits ++ woven c.connectRetryDelay connecting delays := by
  have hattempt {s s' : System} {o : Except Failure Answer} (hs : s.client.config = c)
      (ho : (attempt sql params).perform s = (o, s')) : s'.client.config = c ∧ ∃ k : Nat, (k : Int) < c.connectRetries ∧
        s'.store.waits = s.store.waits ++ List.replicate k c.connectRetryDelay := by
    obtain ⟨hkept, k, hk, hwaits⟩ := waited_attempt (hs ▸ hretries : 1 ≤ s.client.config.connectRetries) sql params
    rw [ho] at hkept hwaits
    rw [hs] at hk hwaits
    exact ⟨hkept.trans hs, k, by omega, hwaits⟩
  induction h with
  | last hlast =>
    obtain ⟨-, k, hk, hwaits⟩ := hattempt hconfig hlast
    refine ⟨[k], rfl, fun j hj => ?_, hwaits⟩
    rw [List.mem_singleton.1 hj]
    exact hk
  | again hfailed _ _ _ ih =>
    obtain ⟨hkept, k, hk, hwaits⟩ := hattempt hconfig hfailed
    obtain ⟨connecting, hlength, hmost, hrest⟩ := ih hkept
    refine ⟨k :: connecting, congrArg (· + 1) hlength, fun j hj => ?_, ?_⟩
    · rcases List.mem_cons.1 hj with rfl | hj
      · exact hk
      · exact hmost j hj
    · rw [hrest, sleep, perform_emit]
      simp [hwaits, woven, Event.wait?]

/-- Whatever the store does, a statement is tried as `tries_attempts` says. -/
theorem tries_execute (hbounded : c.Bounded) {s : System} (hs : s.client.config = c) (sql : String)
    (params : List Value) :
    ∃ outcomes delays, Tries c sql params 1 s outcomes delays ((execute sql params).perform s).2 ∧
      (outcomes.length : Int) ≤ c.retryAttempts ∧
      Ends c sql 1 (c.retryAttempts.toNat - 1) outcomes ((execute sql params).perform s).1 := by
  obtain ⟨outcomes, delays, htries, hlength, hends⟩ :=
    tries_attempts c sql params (c.retryAttempts.toNat - 1) 1 s
  have hexecute : (execute sql params).perform s = (attempts c sql params 1 (c.retryAttempts.toNat - 1)).perform s := by
    rw [execute, AdapterCalls.run, perform_bind, perform_system]
    dsimp only
    rw [hs]
  have hattempts := hbounded.retryAttempts
  rw [hexecute]
  exact ⟨outcomes, delays, htries, by omega, hends⟩

/-- If nothing but faults can be the end, either the last outcome is reported, or the attempts are exhausted. -/
theorem Ends.of_faults {outcomes : List (Except Failure Answer)} {result : Except Failure Answer}
    (h : Ends c sql 1 (c.retryAttempts.toNat - 1) outcomes result) (hbounded : c.Bounded)
    (hlength : (outcomes.length : Int) ≤ c.retryAttempts) (hfaults : ∀ e, result = .error e → e.IsFault) :
    (outcomes.length : Int) ≤ c.retryAttempts ∧
        ((∃ answer, outcomes.getLast? = some (.ok answer) ∧ result = .ok answer) ∨
          ∃ e, outcomes.getLast? = some (.error e) ∧ e.error.isTransient = false ∧ result = .error (reported e)) ∨
      (outcomes.length : Int) = c.retryAttempts ∧
        ∃ e, outcomes.getLast? = some (.error e) ∧ e.error.isTransient = true ∧
          result = .error (Client.exhausted c.retryAttempts sql e.error) := by
  have hattempts := hbounded.retryAttempts
  cases h with
  | answered hlast => exact .inl ⟨hlength, .inl ⟨_, hlast, rfl⟩⟩
  | refused hlast hfinal => exact .inl ⟨hlength, .inr ⟨_, hlast, hfinal, rfl⟩⟩
  | exhausted hlast hpasses hall => exact .inr ⟨by omega, _, hlast, hpasses, rfl⟩
  | noDelay _ _ _ _ hdelay => exact absurd (hfaults _ rfl) (Config.backoffDelay_eq_error hdelay)

/-- What is sent during a run: beyond what had been sent, the statement as the adapter makes it, and what opens a
file. -/
theorem sent_execute (sql : String) (params : List Value) (s : System) :
    ∀ x ∈ ((execute sql params).perform s).2.store.requests, x ∈ s.store.requests ∨ x = openingRequest ∨
      s.adapter.kind.request sql params = .ok x :=
  (keeps_execute (.inr (.inl rfl)) (fun _ hx => .inr (.inr hx)) s ⟨rfl, fun _ hx => .inl hx⟩).requests

/-- A run of a statement with settings within bounds that returns or ends with a fault. There are attempts with the
same statement and the same parameters, all of which but the last failed in a way that may pass. Either the last one
ended otherwise, and its outcome is the result: its answer, its fault, or else the error as a permanent fault. Or
there were as many as the settings allow, and the result is the fault of exhaustion with the last error. Between two
attempts there is the delay of the first of them, and there are no other waits but those for connections, less than
the attempts to connect each time; a connection that fails as a fault may pass. -/
theorem execute_trace {s : System} {sql : String} {params : List Value}
    (hvalid : s.client.config.validate = .ok ())
    (hends : ∀ e, ((execute sql params).perform s).1 = .error e → e.IsFault) :
    let c := s.client.config
    let result := (execute sql params).perform s
    ∃ (outcomes : List (Except Failure Answer)) (delays : List Number) (connecting : List Nat),
      Tries c sql params 1 s outcomes delays result.2 ∧
      (∀ o ∈ outcomes.dropLast, ∃ e, o = .error e ∧ e.error.isTransient = true) ∧
      ((outcomes.length : Int) ≤ c.retryAttempts ∧
          ((∃ answer, outcomes.getLast? = some (.ok answer) ∧ result.1 = .ok answer) ∨
            ∃ e, outcomes.getLast? = some (.error e) ∧ e.error.isTransient = false ∧
              result.1 = .error (reported e)) ∨
        (outcomes.length : Int) = c.retryAttempts ∧
          ∃ e, outcomes.getLast? = some (.error e) ∧ e.error.isTransient = true ∧
            result.1 = .error (exhausted c.retryAttempts sql e.error)) ∧
      delays.length + 1 = outcomes.length ∧
      (∀ (i : Nat) (d : Number), delays[i]? = some d → c.backoffDelay (i + 1 : Nat) = .ok d) ∧
      connecting.length = outcomes.length ∧ (∀ k ∈ connecting, (k : Int) < c.connectRetries) ∧
      result.2.store.waits = s.store.waits ++ woven c.connectRetryDelay connecting delays ∧
      (∀ x ∈ result.2.store.requests, x ∈ s.store.requests ∨ x = openingRequest ∨
        s.adapter.kind.request sql params = .ok x) ∧
      Fails ConnectionMayPass ensureConnected := by
  intro c result
  have hbounded : c.Bounded := Config.bounded_of_validate hvalid
  obtain ⟨outcomes, delays, htries, hlength, hresult⟩ := tries_execute hbounded rfl sql params
  obtain ⟨hcount, hdelays⟩ := htries.delays_eq
  obtain ⟨connecting, hconnecting, hmost, hwaits⟩ := htries.waits_eq rfl hbounded.connectRetries
  refine ⟨outcomes, delays, connecting, htries, htries.passed,
    hresult.of_faults hbounded hlength hends, hcount, fun i d hd => ?_, hconnecting, hmost, hwaits,
    sent_execute sql params s, fails_ensureConnected⟩
  rw [Nat.add_comm]
  exact hdelays i d hd

/-- A client that is not connected. The first attempt to connect will fail, and so will the first statement. -/
def stumbling : System :=
  let broken : Error := .plain (.ofMessage .connectionReset "")
  ⟨{ (default : Client) with config := {} }, .fresh .stub,
    { Store.quiet with connectErrors := [broken], script := [⟨.fail broken, 0.0⟩] }, 0⟩

/-- It waits for its connection, and then for the second attempt, which has an answer. -/
theorem execute_trace_stumbling :
    let result := (execute "SELECT 1" []).perform stumbling
    result.1 = .ok (.rows []) ∧ result.2.store.waits = [.real 0.5, .real 0.1] ∧
      ∃ outcomes delays, Tries {} "SELECT 1" [] 1 stumbling outcomes delays result.2 ∧
        outcomes.getLast? = some (.ok (.rows [])) := by
  have hanswer : ((execute "SELECT 1" []).perform stumbling).1 = .ok (.rows []) := rfl
  have hfaults : ∀ e, ((execute "SELECT 1" []).perform stumbling).1 = .error e → e.IsFault := fun e he => by
    rw [hanswer] at he
    cases he
  obtain ⟨outcomes, delays, connecting, htries, -, hend, -⟩ :=
    execute_trace (show stumbling.client.config.validate = .ok () from rfl) hfaults
  refine ⟨hanswer, rfl, outcomes, delays, htries, ?_⟩
  rcases hend with ⟨-, ⟨answer, hlast, hresult⟩ | ⟨e, -, -, hresult⟩⟩ | ⟨-, e, -, -, hresult⟩
  · rw [hanswer] at hresult
    cases hresult
    exact hlast
  · rw [hanswer] at hresult
    cases hresult
  · rw [hanswer] at hresult
    cases hresult

end Client

end RecordMapper
