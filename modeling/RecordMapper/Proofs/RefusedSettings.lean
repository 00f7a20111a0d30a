import RecordMapper.Proofs.HiddenPasswords
import RecordMapper.Proofs.Retries

/-!
Settings that are refused. Each check of a setting refuses it with a fault that names the setting. Two failures are no
such faults: a URL that cannot be read fails by itself, and so does a bound of the pool that has too many digits to be
shown. Main statement: settings are refused by name unless they come to one of these two.
-/
namespace RecordMapper

/-- The fault of a setting, or of a variable, that cannot be; it names it. -/
def Failure.Names (e : Failure) (key : String) : Prop := ∃ reason, e = .ofFault (.configInvalid key reason [])

/-- The fault of some setting or variable. -/
def Failure.NamesSetting (e : Failure) : Prop := ∃ key, e.Names key

/-- A number without a text: an integer with too many digits. -/
def Number.Unshowable (x : Number) : Prop := ∃ n, x = .whole n ∧ Numeral.isTooLong n = true

namespace Config

/-- The failure of a number without a text. -/
def unshowable : Failure := .ofPlain .value Numeral.tooLongToWrite

/-- The URL of the settings cannot be read, and this is the failure. -/
def FailsAtUrl (c : Config) (e : Failure) : Prop :=
  ∃ url problem, given? c.url = some url ∧ Url.parse url = .error problem ∧ e = problem.failure

/-- The settings are checked up to the bounds of the pool; these are wrong, and the greatest cannot be shown. -/
structure FailsAtPool (c : Config) : Prop where
  driver : ∃ name ∈ supportedDrivers, c.resolvedDriver = .ok (.text name)
  atLeastOne : c.poolMax.lt (.whole 1) = false
  outOfBounds : (c.poolMin.lt (.whole 0) || c.poolMax.lt c.poolMin) = true
  unshowable : c.poolMax.Unshowable

/-- What is checked once the driver is known. -/
def checkBounds (c : Config) : Except Failure Unit := do
  if c.poolMax.lt (.whole 1) then refuse "pool_max" "must be at least 1"
  checkPoolMin c.poolMin c.poolMax
  if c.retryAttempts < 1 then refuse "retry_attempts" "must be at least 1"
  if c.connectRetries < 1 then refuse "connect_retries" "must be at least 1"
  checkDelay "connect_timeout" c.connectTimeout
  checkDelay "connect_retry_delay" c.connectRetryDelay
  checkDelay "retry_base_delay" c.retryBaseDelay
  checkDelay "retry_max_delay" c.retryMaxDelay
  checkDelay "keep_alive_interval" c.keepAliveInterval

/-- The settings that have bounds. -/
def boundedSettings : List String :=
  ["pool_max", "pool_min", "retry_attempts", "connect_retries", "connect_timeout", "connect_retry_delay",
   "retry_base_delay", "retry_max_delay", "keep_alive_interval"]

end Config

/-! ### Checks of settings -/

/-- Of two results one after the other there is an error if the first is one, and else if the second is. -/
theorem bind_eq_error {ε α β : Type} {r : Except ε α} {next : α → Except ε β} {e : ε} :
    r >>= next = .error e ↔ r = .error e ∨ ∃ a, r = .ok a ∧ next a = .error e := by
  cases r with
  | error e' =>
    constructor
    · intro h
      exact .inl (congrArg _ (Except.error.inj h))
    · rintro (h | ⟨a, h, -⟩)
      · exact congrArg _ (Except.error.inj h)
      · cases h
  | ok a =>
    constructor
    · intro h
      exact .inr ⟨a, rfl, h⟩
    · rintro (h | ⟨a', h, hnext⟩)
      · cases h
      · cases h
        exact hnext

/-- A name tells two such faults apart. -/
theorem Failure.Names.unique {e : Failure} {key other : String} (h : e.Names key) (hother : e.Names other) :
    key = other := by
  obtain ⟨reason, rfl⟩ := h
  obtain ⟨reason', h⟩ := hother
  injection h with h
  injection h with h
  have hmetadata : Row.value? "key" (Fault.configInvalid key reason []).metadata =
      Row.value? "key" (Fault.configInvalid other reason' []).metadata := by rw [h]
  injection hmetadata with hkey
  injection hkey

theorem Failure.Names.namesSetting {e : Failure} {key : String} (h : e.Names key) : e.NamesSetting := ⟨key, h⟩

theorem Failure.not_namesSetting_plain (kind : ErrorKind) (message : String) :
    ¬ (Failure.ofPlain kind message).NamesSetting := by
  rintro ⟨key, reason, h⟩
  injection h with h
  cases h

namespace Config

/-- Settings that are refused under a condition are refused by name, or go on where it does not hold. -/
theorem refuse_eq_error {p : Prop} [Decidable p] {key reason : String} {next : Unit → Except Failure Unit}
    {e : Failure} (h : (if p then refuse key reason >>= next else next ()) = .error e) :
    e.Names key ∨ ¬p ∧ next () = .error e := by
  split at h
  · exact .inl ⟨reason, (Except.error.inj h).symm⟩
  · rename_i hp
    exact .inr ⟨hp, h⟩

theorem names_checkDelay {key : String} {delay : Number} {e : Failure} (h : checkDelay key delay = .error e) :
    e.Names key := by
  rw [checkDelay] at h
  split at h
  · exact ⟨_, (Except.error.inj h).symm⟩
  · cases h

theorem names_checkDriver {driver : Value} {e : Failure} (h : checkDriver driver = .error e) : e.Names "driver" := by
  rw [checkDriver] at h
  split at h
  · cases h
  · exact ⟨_, (Except.error.inj h).symm⟩

theorem checkDriver_eq_ok {driver : Value} :
    checkDriver driver = .ok () ↔ ∃ name ∈ supportedDrivers, driver = .text name := by
  rw [checkDriver]
  constructor
  · intro h
    split at h
    · rename_i hany
      obtain ⟨name, hname, hsame⟩ := List.any_eq_true.1 hany
      exact ⟨name, hname, eq_text_of_sameKey hsame⟩
    · cases h
  · rintro ⟨name, hname, rfl⟩
    have hsame : (Value.text name).sameKey (.text name) = true := beq_self_eq_true name
    rw [if_pos (List.any_eq_true.2 ⟨name, hname, hsame⟩)]

/-- Only an integer with too many digits has no text. -/
theorem checkShown_ofNumber (x : Number) :
    (∀ problem, (Value.ofNumber x).checkShown 0 = .error problem → problem = .tooLong ∧ x.Unshowable) ∧
      (x.Unshowable → (Value.ofNumber x).checkShown 0 = .error .tooLong) := by
  cases x with
  | real x =>
    constructor
    · intro problem h
      cases h
    · rintro ⟨n, h, -⟩
      cases h
  | whole n =>
    rw [Value.ofNumber, Value.checkShown]
    constructor
    · intro problem h
      split at h
      · rename_i hlong
        exact ⟨(Except.error.inj h).symm, n, rfl, hlong⟩
      · cases h
    · rintro ⟨m, h, hlong⟩
      cases h
      exact if_pos hlong

/-- A smallest pool out of its bounds is refused by name, unless the other bound cannot be shown. -/
theorem checkPoolMin_eq_error {least most : Number} {e : Failure} (h : checkPoolMin least most = .error e) :
    e.Names "pool_min" ∨
      e = unshowable ∧ (least.lt (.whole 0) || most.lt least) = true ∧ most.Unshowable := by
  rw [checkPoolMin] at h
  split at h
  · rename_i hout
    split at h
    · exact .inl ⟨_, (Except.error.inj h).symm⟩
    · rename_i problem hproblem
      obtain ⟨rfl, hmost⟩ := (checkShown_ofNumber most).1 problem hproblem
      exact .inr ⟨(Except.error.inj h).symm, hout, hmost⟩
  · cases h

theorem checkPoolMin_of_unshowable {least most : Number} (hout : (least.lt (.whole 0) || most.lt least) = true)
    (h : most.Unshowable) : checkPoolMin least most = .error unshowable := by
  rw [checkPoolMin, if_pos hout, (checkShown_ofNumber most).2 h]
  rfl

theorem validate_eq (c : Config) :
    c.validate = (c.resolvedDriver.mapError UrlError.failure >>= checkDriver) >>= fun _ => c.checkBounds := by
  rw [validate]
  cases c.resolvedDriver.mapError UrlError.failure <;> rfl

/-- A check of bounds that fails names the setting, or it fails at the pool. -/
theorem checkBounds_eq_error {c : Config} {e : Failure} (h : c.checkBounds = .error e) :
    (∃ key ∈ boundedSettings, e.Names key) ∨
      e = unshowable ∧ c.poolMax.lt (.whole 1) = false ∧
        (c.poolMin.lt (.whole 0) || c.poolMax.lt c.poolMin) = true ∧ c.poolMax.Unshowable := by
  have hnamed {key : String} (hkey : key ∈ boundedSettings) (hnames : e.Names key) :
      ∃ key ∈ boundedSettings, e.Names key := ⟨key, hkey, hnames⟩
  rw [checkBounds] at h
  obtain hmost | ⟨hmost, h⟩ := refuse_eq_error h
  · exact .inl (hnamed (by decide) hmost)
  obtain hpool | ⟨_, -, h⟩ := bind_eq_error.1 h
  · exact (checkPoolMin_eq_error hpool).imp (hnamed (by decide)) fun ⟨he, hrest⟩ =>
      ⟨he, Bool.eq_false_iff.2 hmost, hrest⟩
  refine .inl ?_
  obtain hattempts | ⟨-, h⟩ := refuse_eq_error h
  · exact hnamed (by decide) hattempts
  obtain hretries | ⟨-, h⟩ := refuse_eq_error h
  · exact hnamed (by decide) hretries
  obtain htimeout | ⟨_, -, h⟩ := bind_eq_error.1 h
  · exact hnamed (by decide) (names_checkDelay htimeout)
  obtain hretry | ⟨_, -, h⟩ := bind_eq_error.1 h
  · exact hnamed (by decide) (names_checkDelay hretry)
  obtain hbase | ⟨_, -, h⟩ := bind_eq_error.1 h
  · exact hnamed (by decide) (names_checkDelay hbase)
  obtain hgreatest | ⟨_, -, h⟩ := bind_eq_error.1 h
  · exact hnamed (by decide) (names_checkDelay hgreatest)
  · exact hnamed (by decide) (names_checkDelay h)

theorem resolvedDriver_eq_error {c : Config} {problem : UrlError} :
    c.resolvedDriver = .error problem ↔ ∃ url, given? c.url = some url ∧ Url.parse url = .error problem := by
  rw [resolvedDriver]
  cases given? c.url with
  | none =>
    constructor
    · intro h
      cases h
    · rintro ⟨url, h, -⟩
      cases h
  | some url =>
    dsimp only
    rw [bind_eq_error]
    constructor
    · rintro (h | ⟨u, -, h⟩)
      · exact ⟨url, rfl, h⟩
      · cases h
    · rintro ⟨_, ⟨⟩, h⟩
      exact .inl h

/-- Settings that are accepted have a driver that there is an adapter for. -/
theorem driver_of_validate {c : Config} (h : c.validate = .ok ()) :
    ∃ name ∈ supportedDrivers, c.resolvedDriver = .ok (.text name) := by
  rw [validate_eq] at h
  obtain ⟨_, hchecked, -⟩ := bind_eq_ok.1 h
  obtain ⟨driver, hdriver, hsupported⟩ := bind_eq_ok.1 hchecked
  obtain ⟨name, hname, rfl⟩ := checkDriver_eq_ok.1 hsupported
  exact ⟨name, hname, UrlError.mapError_eq_ok.1 hdriver⟩

/-- Settings are refused by name, unless they fail at the URL or at the pool. -/
theorem refused_unnamed_iff {c : Config} {e : Failure} :
    c.validate = .error e ∧ ¬ e.NamesSetting ↔ c.FailsAtUrl e ∨ c.FailsAtPool ∧ e = unshowable := by
  rw [validate_eq]
  constructor
  · rintro ⟨h, hunnamed⟩
    obtain hdriver | ⟨_, hchecked, hbounds⟩ := bind_eq_error.1 h
    · refine .inl ?_
      obtain hurl | ⟨driver, -, hdriver⟩ := bind_eq_error.1 hdriver
      · cases hresolved : c.resolvedDriver with
        | ok driver =>
          rw [hresolved] at hurl
          cases hurl
        | error problem =>
          rw [hresolved] at hurl
          obtain ⟨url, hgiven, hparse⟩ := resolvedDriver_eq_error.1 hresolved
          exact ⟨url, problem, hgiven, hparse, (Except.error.inj hurl).symm⟩
      · exact absurd (names_checkDriver hdriver).namesSetting hunnamed
    · refine .inr ?_
      obtain ⟨driver, hdriver, hsupported⟩ := bind_eq_ok.1 hchecked
      obtain ⟨name, hname, rfl⟩ := checkDriver_eq_ok.1 hsupported
      obtain ⟨key, -, hnames⟩ | ⟨he, hmost, hout, hlong⟩ := checkBounds_eq_error hbounds
      · exact absurd hnames.namesSetting hunnamed
      · exact ⟨⟨⟨name, hname, UrlError.mapError_eq_ok.1 hdriver⟩, hmost, hout, hlong⟩, he⟩
  · rintro (⟨url, problem, hgiven, hparse, rfl⟩ | ⟨⟨⟨name, hname, hresolved⟩, hmost, hout, hlong⟩, rfl⟩)
    · rw [resolvedDriver_eq_error.2 ⟨url, hgiven, hparse⟩]
      exact ⟨rfl, Failure.not_namesSetting_plain _ _⟩
    · refine ⟨?_, Failure.not_namesSetting_plain _ _⟩
      have hsupported : checkDriver (.text name) = .ok () := checkDriver_eq_ok.2 ⟨name, hname, rfl⟩
      have hchecked : (c.resolvedDriver.mapError UrlError.failure >>= checkDriver) = .ok () := by
        rw [hresolved]
        exact hsupported
      rw [hchecked, ok_bind, checkBounds, if_neg (by simp [hmost]), checkPoolMin_of_unshowable hout hlong]
      rfl

end Config

end RecordMapper
