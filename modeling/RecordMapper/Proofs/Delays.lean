import RecordMapper.Proofs.DoubledNumber
import RecordMapper.Proofs.Retries

/-!
The delays between attempts. A delay is the base times a power of two, and at most the greatest delay; but if the base
is a float, then a power beyond the greatest float has no product with it, and from attempt 1025 on there is no delay.
Main statement: a statement fails with anything but a fault exactly if that happens, and the delays never decrease and
are between zero and the greatest delay exactly if neither setting is a NaN, or there are none.
-/
namespace RecordMapper

open Binary64

namespace Number

/-! ### The lesser of two numbers -/

/-- Neither of two numbers is a NaN, and the first is at most the second. -/
def AtMost (x y : Number) : Prop := ∃ u v, x.value? = some u ∧ y.value? = some v ∧ u ≤ v

theorem lt_eq_false_iff {x y : Number} {u v : Extended} (hx : x.value? = some u) (hy : y.value? = some v) :
    x.lt y = false ↔ v ≤ u := by
  rw [← Bool.not_eq_true, lt_iff]
  constructor
  · intro h
    by_contra hlt
    exact h ⟨u, v, hx, hy, not_le.1 hlt⟩
  · rintro hle ⟨u', v', hu, hv, hlt⟩
    obtain rfl := Option.some.inj (hx.symm.trans hu)
    obtain rfl := Option.some.inj (hy.symm.trans hv)
    exact hle.not_gt hlt

theorem value?_min {x y : Number} {u v : Extended} (hx : x.value? = some u) (hy : y.value? = some v) :
    (x.min y).value? = some (Min.min u v) := by
  rw [Number.min]
  cases h : y.lt x with
  | true =>
    obtain ⟨v', u', hv, hu, hlt⟩ := (lt_iff y x).1 h
    obtain rfl := Option.some.inj (hx.symm.trans hu)
    obtain rfl := Option.some.inj (hy.symm.trans hv)
    rw [if_pos rfl, hy, min_eq_right hlt.le]
  | false => rw [if_neg Bool.false_ne_true, hx, min_eq_left ((lt_eq_false_iff hy hx).1 h)]

/-- The lesser of two numbers is the first if that is a NaN. -/
theorem min_eq_left_of_nan {x : Number} (hx : x.value? = none) (y : Number) : x.min y = x := by
  rw [Number.min, if_neg]
  intro h
  obtain ⟨v, u, -, hu, -⟩ := (lt_iff y x).1 h
  rw [hx] at hu
  cases hu

/-- A NaN times a power of two is one. -/
theorem mul_twoPow_of_nan {b d : Number} {k : Nat} (hb : b.value? = none) (hd : b.mul (twoPow k) = .ok d) :
    d.value? = none := by
  cases b with
  | whole n => cases hb
  | real x =>
    rw [real_mul_twoPow] at hd
    split at hd
    · cases hd
      exact value?_mul_eq_none hb
    · cases hd

end Number

namespace Config

/-! ### One delay -/

/-- The delay after an attempt, counted from 0. -/
theorem backoffDelay_succ (c : Config) (i : Nat) :
    c.backoffDelay (i + 1 : Nat) =
      match c.retryBaseDelay.mul (Number.twoPow i) with
      | .ok product => .ok (product.min c.retryMaxDelay)
      | .error problem => .error (Value.numberFailure problem) := by
  have hnumber : ((i + 1 : Nat) : Int) - 1 = i := by omega
  rw [backoffDelay, hnumber]
  cases c.retryBaseDelay.mul (Number.twoPow i) <;> rfl

theorem backoffDelay_eq_ok {c : Config} {i : Nat} {d : Number} (h : c.backoffDelay (i + 1 : Nat) = .ok d) :
    ∃ product, c.retryBaseDelay.mul (Number.twoPow i) = .ok product ∧ d = product.min c.retryMaxDelay := by
  rw [backoffDelay_succ] at h
  cases hproduct : c.retryBaseDelay.mul (Number.twoPow i) with
  | ok product =>
    rw [hproduct] at h
    exact ⟨product, rfl, (Except.ok.inj h).symm⟩
  | error problem =>
    rw [hproduct] at h
    cases h

/-- There is no delay exactly if the base is a float, and the power of two is beyond the greatest float. -/
theorem backoffDelay_eq_error_iff (c : Config) (i : Nat) :
    (∃ e, c.backoffDelay (i + 1 : Nat) = .error e) ↔ (∃ x, c.retryBaseDelay = .real x) ∧ 1024 ≤ i := by
  rw [backoffDelay_succ]
  cases c.retryBaseDelay with
  | whole n =>
    rw [Number.whole_mul_twoPow]
    constructor
    · rintro ⟨e, he⟩
      cases he
    · rintro ⟨⟨x, hx⟩, -⟩
      cases hx
  | real x =>
    rw [Number.real_mul_twoPow]
    by_cases hi : i ≤ 1023
    · rw [if_pos hi]
      constructor
      · rintro ⟨e, he⟩
        cases he
      · rintro ⟨-, hbeyond⟩
        omega
    · rw [if_neg hi]
      constructor
      · rintro -
        exact ⟨⟨x, rfl⟩, by omega⟩
      · rintro -
        exact ⟨_, rfl⟩

/-- With settings within bounds of which none is a NaN, the delays grow from at least zero up to the greatest. -/
theorem Bounded.exists_delays {c : Config} (hbounded : c.Bounded) {base most : Extended}
    (hbase : c.retryBaseDelay.value? = some base) (hmost : c.retryMaxDelay.value? = some most) :
    ∃ delay : Nat → Extended, Monotone delay ∧ (∀ i, Extended.ofRat 0 ≤ delay i ∧ delay i ≤ most) ∧
      ∀ (i : Nat) (d : Number), c.backoffDelay (i + 1 : Nat) = .ok d → d.value? = some (delay i) := by
  have hzero : (Number.whole 0).value? = some (Extended.ofRat 0) := by
    rw [Number.value?, Int.cast_zero]
  have hbase0 : Extended.ofRat 0 ≤ base := (Number.lt_eq_false_iff hbase hzero).1 hbounded.retryBaseDelay
  have hmost0 : Extended.ofRat 0 ≤ most := (Number.lt_eq_false_iff hmost hzero).1 hbounded.retryMaxDelay
  obtain ⟨grown, hgrown, hstart, hproducts⟩ := Number.exists_grown hbase hbase0
  refine ⟨fun i => Min.min (grown i) most, ?_, ?_, ?_⟩
  · intro i j hij
    exact min_le_min_right most (hgrown hij)
  · intro i
    exact ⟨le_min (hstart.trans (hgrown (Nat.zero_le i))) hmost0, min_le_right _ _⟩
  · intro i d hd
    obtain ⟨product, hproduct, rfl⟩ := backoffDelay_eq_ok hd
    exact Number.value?_min (hproducts i product hproduct) hmost

end Config

namespace Client

variable {c : Config} {sql : String} {params : List Value} {s t : System} {outcomes : List (Except Failure Answer)}
  {delays : List Number}

/-! ### All delays -/

/-- What is known of the delays by their numbers, from that of the first attempt on. -/
theorem Tries.delay_eq (h : Tries c sql params 1 s outcomes delays t) {i : Nat} {d : Number}
    (hd : delays[i]? = some d) : c.backoffDelay (i + 1 : Nat) = .ok d := by
  rw [Nat.add_comm]
  exact h.delays_eq.2 i d hd

/-- Delays that keep within the bounds are made of settings that are numbers. -/
theorem Tries.not_nan {d : Number} {rest : List Number} (h : Tries c sql params 1 s outcomes (d :: rest) t)
    (hwithin : d.AtMost c.retryMaxDelay) : c.retryBaseDelay.value? ≠ none ∧ c.retryMaxDelay.value? ≠ none := by
  obtain ⟨value, most, hvalue, hmost, -⟩ := hwithin
  constructor
  · -- a base that is a NaN is the first delay, whatever the greatest delay is
    intro hnan
    obtain ⟨product, hproduct, rfl⟩ := Config.backoffDelay_eq_ok (h.delay_eq List.getElem?_cons_zero)
    have hproductNan := Number.mul_twoPow_of_nan hnan hproduct
    rw [Number.min_eq_left_of_nan hproductNan, hproductNan] at hvalue
    cases hvalue
  · intro hnan
    rw [hnan] at hmost
    cases hmost

/-- Delays that are made of numbers never decrease and keep within the bounds. -/
theorem Tries.delays_bounded (h : Tries c sql params 1 s outcomes delays t) (hbounded : c.Bounded)
    (hbase : c.retryBaseDelay.value? ≠ none) (hmost : c.retryMaxDelay.value? ≠ none) :
    delays.Pairwise Number.AtMost ∧ ∀ d ∈ delays, (Number.whole 0).AtMost d ∧ d.AtMost c.retryMaxDelay := by
  obtain ⟨base, hbase⟩ := Option.ne_none_iff_exists'.1 hbase
  obtain ⟨most, hmost⟩ := Option.ne_none_iff_exists'.1 hmost
  obtain ⟨delay, hmono, hwithin, hdelays⟩ := hbounded.exists_delays hbase hmost
  have hvalue {i : Nat} {d : Number} (hd : delays[i]? = some d) : d.value? = some (delay i) :=
    hdelays i d (h.delay_eq hd)
  constructor
  · rw [List.pairwise_iff_getElem]
    intro i j hi hj hij
    exact ⟨_, _, hvalue (List.getElem?_eq_getElem hi), hvalue (List.getElem?_eq_getElem hj), hmono hij.le⟩
  · intro d hd
    obtain ⟨i, hi⟩ := List.getElem?_of_mem hd
    obtain ⟨hlow, hhigh⟩ := hwithin i
    refine ⟨⟨_, _, ?_, hvalue hi, hlow⟩, _, _, hvalue hi, hmost, hhigh⟩
    rw [Number.value?, Int.cast_zero]

/-- The delays never decrease and keep within the bounds if and only if no setting that they depend on is a NaN. -/
theorem Tries.delays_bounded_iff (h : Tries c sql params 1 s outcomes delays t) (hbounded : c.Bounded) :
    (delays.Pairwise Number.AtMost ∧
        ∀ d ∈ delays, (Number.whole 0).AtMost d ∧ d.AtMost c.retryMaxDelay) ↔
      delays = [] ∨ c.retryBaseDelay.value? ≠ none ∧ c.retryMaxDelay.value? ≠ none := by
  constructor
  · rintro ⟨-, hwithin⟩
    cases delays with
    | nil => exact .inl rfl
    | cons d rest => exact .inr (h.not_nan (hwithin d List.mem_cons_self).2)
  · rintro (rfl | ⟨hbase, hmost⟩)
    · exact ⟨.nil, nofun⟩
    · exact h.delays_bounded hbounded hbase hmost

/-- The first delay that there is none of is that after attempt 1025. -/
theorem Tries.length_of_noDelay (h : Tries c sql params 1 s outcomes delays t) {problem : Failure}
    (hdelay : c.backoffDelay (delays.length + 1 : Nat) = .error problem) :
    (∃ x, c.retryBaseDelay = .real x) ∧ delays.length = 1024 := by
  obtain ⟨hfloat, hbeyond⟩ := (c.backoffDelay_eq_error_iff delays.length).1 ⟨problem, hdelay⟩
  refine ⟨hfloat, le_antisymm ?_ hbeyond⟩
  -- a later attempt would have needed a delay that there is none of either
  by_contra hlong
  obtain ⟨e, he⟩ := (c.backoffDelay_eq_error_iff 1024).2 ⟨hfloat, le_rfl⟩
  have hd := h.delay_eq (List.getElem?_eq_getElem (Nat.lt_of_not_le hlong))
  rw [he] at hd
  cases hd

theorem isFault_reported (e : Failure) : (reported e).IsFault := by
  rw [reported]
  split
  · rename_i f hf
    exact ⟨f, hf⟩
  · exact ⟨_, rfl⟩

/-- Attempts end with something that is no fault exactly if there is no delay after one of them that may pass, which
is number 1025. -/
theorem Ends.not_isFault_iff {result : Except Failure Answer} (htries : Tries c sql params 1 s outcomes delays t)
    (h : Ends c sql 1 (c.retryAttempts.toNat - 1) outcomes result) (hbounded : c.Bounded) :
    (∃ e, result = .error e ∧ ¬ e.IsFault) ↔
      (∃ x, c.retryBaseDelay = .real x) ∧ 1025 < c.retryAttempts ∧ outcomes.length = 1025 ∧
        ∃ e, outcomes.getLast? = some (.error e) ∧ e.error.isTransient = true := by
  have hattempts := hbounded.retryAttempts
  obtain ⟨hcount, -⟩ := htries.delays_eq
  cases h with
  | answered hlast =>
    constructor
    · rintro ⟨e, he, -⟩
      cases he
    · rintro ⟨-, -, -, e, he, -⟩
      rw [hlast] at he
      cases he
  | @refused e hlast hfinal =>
    constructor
    · rintro ⟨_, he, hplain⟩
      cases he
      exact absurd (isFault_reported e) hplain
    · rintro ⟨-, -, -, e', he, hpasses⟩
      rw [hlast] at he
      cases he
      rw [hfinal] at hpasses
      cases hpasses
  | exhausted hlast hpasses hlength =>
    constructor
    · rintro ⟨_, he, hplain⟩
      cases he
      exact absurd ⟨_, rfl⟩ hplain
    · rintro ⟨-, hmore, hmany, -⟩
      omega
  | @noDelay e problem m hlast hpasses hlength hnumber hdelay =>
    obtain rfl : m = delays.length + 1 := by omega
    obtain ⟨hfloat, hmany⟩ := htries.length_of_noDelay hdelay
    constructor
    · rintro -
      exact ⟨hfloat, by omega, by omega, e, hlast, hpasses⟩
    · rintro -
      exact ⟨problem, rfl, Config.backoffDelay_eq_error hdelay⟩

/-- A run of a statement with settings within bounds. It fails with something that is no fault exactly if the base of
the delays is a float and 1025 attempts, which are not all, have failed in a way that may pass. The delays between its
attempts, which apart from the waits for connections are all that is slept, never decrease and are between zero and
the greatest delay, exactly if neither the base nor the greatest delay is a NaN, or there are none. -/
theorem execute_faults_and_delays {s : System} {sql : String} {params : List Value}
    (hvalid : s.client.config.validate = .ok ()) :
    let c := s.client.config
    let result := (execute sql params).perform s
    ∃ (outcomes : List (Except Failure Answer)) (delays : List Number) (connecting : List Nat),
      Tries c sql params 1 s outcomes delays result.2 ∧ connecting.length = outcomes.length ∧
      result.2.store.waits = s.store.waits ++ woven c.connectRetryDelay connecting delays ∧
      ((∃ e, result.1 = .error e ∧ ¬ e.IsFault) ↔
        (∃ x, c.retryBaseDelay = .real x) ∧ 1025 < c.retryAttempts ∧ outcomes.length = 1025 ∧
          ∃ e, outcomes.getLast? = some (.error e) ∧ e.error.isTransient = true) ∧
      ((delays.Pairwise Number.AtMost ∧
          ∀ d ∈ delays, (Number.whole 0).AtMost d ∧ d.AtMost c.retryMaxDelay) ↔
        delays = [] ∨ c.retryBaseDelay.value? ≠ none ∧ c.retryMaxDelay.value? ≠ none) := by
  intro c result
  have hbounded : c.Bounded := Config.bounded_of_validate hvalid
  obtain ⟨outcomes, delays, htries, -, hends⟩ := tries_execute hbounded rfl sql params
  obtain ⟨connecting, hconnecting, -, hwaits⟩ := htries.waits_eq rfl hbounded.connectRetries
  exact ⟨outcomes, delays, connecting, htries, hconnecting, hwaits, hends.not_isFault_iff htries hbounded,
    htries.delays_bounded_iff hbounded⟩

/-- The client that stumbles does not fail with anything but a fault, and its delays are within their bounds. -/
theorem execute_faults_and_delays_stumbling :
    (∀ e, ((execute "SELECT 1" []).perform stumbling).1 = .error e → e.IsFault) ∧
      ∃ outcomes delays, Tries {} "SELECT 1" [] 1 stumbling outcomes delays
          ((execute "SELECT 1" []).perform stumbling).2 ∧
        delays.Pairwise Number.AtMost ∧ ∀ d ∈ delays, (Number.whole 0).AtMost d ∧ d.AtMost (.real 5.0) := by
  obtain ⟨outcomes, delays, connecting, htries, -, -, hfaults, hdelays⟩ :=
    @execute_faults_and_delays stumbling "SELECT 1" [] rfl
  have hbase : (Number.real 0.1).value?.isSome = true := rfl
  have hmost : (Number.real 5.0).value?.isSome = true := rfl
  obtain ⟨hgrow, hwithin⟩ :=
    hdelays.2 (.inr ⟨Option.isSome_iff_ne_none.1 hbase, Option.isSome_iff_ne_none.1 hmost⟩)
  refine ⟨?_, outcomes, delays, htries, hgrow, hwithin⟩
  intro e he
  by_contra hplain
  obtain ⟨-, hmore, -⟩ := hfaults.1 ⟨e, he, hplain⟩
  exact absurd hmore (by decide)

/-! ### More attempts than there are delays -/

/-- The error of a store that is gone. -/
def gone : Failure := .ofPlain .connectionReset ""

/-- A client that is connected to a store that is gone for good, and has one attempt more than there are delays. -/
def deserted (events : List Event) (clock : Float) : System :=
  ⟨{ (default : Client) with config := { retryAttempts := 1026 }, connected := true },
    { Adapter.fresh .stub with connected := true },
    { Store.quiet with lastResort := ⟨.fail gone.error, 0.0⟩, events, clock }, 0⟩

/-- An attempt fails, and the store stays as it is. -/
theorem perform_attempt_deserted (sql : String) (params : List Value) (events : List Event) (clock : Float) :
    ∃ events' clock',
      (attempt sql params).perform (deserted events clock) = (.error gone, deserted events' clock') :=
  ⟨_, _, rfl⟩

theorem Tries.deserted {n : Nat} (h : Tries c sql params n s outcomes delays t) {events : List Event} {clock : Float}
    (hs : s = deserted events clock) : ∀ o ∈ outcomes, o = .error gone := by
  induction h generalizing events clock with
  | last hlast =>
    obtain ⟨events', clock', hattempt⟩ := perform_attempt_deserted sql params events clock
    rw [hs, hattempt] at hlast
    cases hlast
    intro o ho
    exact List.mem_singleton.1 ho
  | @again n s s' t e d outcomes delays hfailed hpasses hdelay hrest ih =>
    obtain ⟨events', clock', hattempt⟩ := perform_attempt_deserted sql params events clock
    rw [hs, hattempt] at hfailed
    cases hfailed
    have hslept : ((Operation.sleep d).perform (Client.deserted events' clock')).2 =
      Client.deserted (events' ++ [.sleep d]) clock' := rfl
    intro o ho
    rcases List.mem_cons.1 ho with rfl | ho
    · rfl
    · exact ih hslept o ho

/-- With the other settings as they are by default, the statement does not end as exhausted, but with the error of a
number that is too large. -/
theorem execute_deserted_fails_plainly :
    (deserted [] 0.0).client.config.validate = .ok () ∧
      ∃ e, ((execute "SELECT 1" []).perform (deserted [] 0.0)).1 = .error e ∧ ¬ e.IsFault := by
  have hvalid : (deserted [] 0.0).client.config.validate = .ok () := rfl
  have hbounded := Config.bounded_of_validate hvalid
  obtain ⟨outcomes, delays, htries, -, hends⟩ := tries_execute hbounded rfl "SELECT 1" []
  have hgone {o : Except Failure Answer} (hlast : outcomes.getLast? = some o) : o = .error gone :=
    htries.deserted rfl o (List.mem_of_getLast? hlast)
  have hpasses : gone.error.isTransient = true := rfl
  refine ⟨hvalid, ?_⟩
  -- the run itself is not to be evaluated
  generalize ((execute "SELECT 1" []).perform (deserted [] 0.0)).1 = result at hends ⊢
  cases hends with
  | answered hlast => cases hgone hlast
  | refused hlast hfinal =>
    cases hgone hlast
    rw [hpasses] at hfinal
    cases hfinal
  | exhausted hlast _ hlength =>
    obtain ⟨hcount, -⟩ := htries.delays_eq
    obtain ⟨e, he⟩ :=
      (Config.backoffDelay_eq_error_iff (deserted [] 0.0).client.config 1024).2 ⟨⟨0.1, rfl⟩, le_rfl⟩
    have hlong : 1024 < delays.length := by
      have hleft : (deserted [] 0.0).client.config.retryAttempts.toNat - 1 = 1025 := rfl
      omega
    have hd := htries.delay_eq (List.getElem?_eq_getElem hlong)
    rw [he] at hd
    cases hd
  | noDelay _ _ _ _ hdelay => exact ⟨_, rfl, Config.backoffDelay_eq_error hdelay⟩

end Client

end RecordMapper
