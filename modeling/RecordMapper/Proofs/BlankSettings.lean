import Mathlib.Data.List.TakeWhile
import RecordMapper.Proofs.SettingTexts

/-!
Settings from variables that are blank. A blank text is no text, and a setting without text is set to none, whatever
its default is. Since the settings are read independently of each other, that is all that a blank variable does. Main
statement: a blank variable does the same as none for the settings that are not given by default; the host and the
driver, which have a text by default, lose it.
-/
namespace RecordMapper

namespace Config

/-- Settings if they are within bounds. -/
def validated (c : Config) : Except Failure Config := do
  c.validate
  return c

/-- No URL names the driver: it is the one that is set. -/
def GoesByDriver (c : Config) : Prop := ∀ d, { c with driver := d }.resolvedDriver = .ok d

/-! ### Settings without a driver -/

/-- Either the driver counts that is set, or it does not matter. -/
theorem goesByDriver_or (c : Config) :
    c.GoesByDriver ∨ ∀ d, { c with driver := d }.resolvedDriver = c.resolvedDriver := by
  simp only [GoesByDriver, resolvedDriver]
  cases given? c.url with
  | none => exact .inl fun d => rfl
  | some url =>
    dsimp only
    cases Url.parse url with
    | error problem => exact .inr fun d => rfl
    | ok u =>
      simp only [ok_bind]
      split
      · exact .inl fun d => rfl
      · exact .inr fun d => rfl

theorem validated_eq_error {c : Config} {e : Failure} : c.validated = .error e ↔ c.validate = .error e := by
  rw [validated, bind_eq_error]
  exact or_iff_left fun ⟨_, _, h⟩ => nomatch h

/-- Settings that are checked alike are the same outcome if they are the same or refused. -/
theorem validated_eq_iff {c d : Config} (h : c.validate = d.validate) :
    c.validated = d.validated ↔ c = d ∨ ∃ e, d.validated = .error e := by
  rw [validated, validated, h]
  cases d.validate with
  | error e => exact iff_of_true rfl (.inr ⟨e, rfl⟩)
  | ok u =>
    constructor
    · intro h
      exact .inl (Except.ok.inj h)
    · rintro (rfl | ⟨e, h⟩)
      · rfl
      · cases h

/-- Settings that go by the driver are refused without one, whatever else is wrong with them. -/
theorem validated_ne_of_goesByDriver {c : Config} (hgoes : c.GoesByDriver) (hdriver : c.driver = .text "mysql") :
    { c with driver := .null }.validated ≠ c.validated := by
  have hrefused : { c with driver := .null }.validate = refuse "driver" "unsupported driver 'None'" := by
    rw [validate_eq, hgoes .null]
    rfl
  have hbounds : c.validate = c.checkBounds := by
    rw [validate_eq, show c.resolvedDriver = .ok (.text "mysql") from hdriver ▸ hgoes c.driver]
    rfl
  intro hsame
  have hfails := validated_eq_error.1 (hsame.symm.trans (validated_eq_error.2 hrefused))
  rw [hbounds] at hfails
  obtain ⟨key, hkey, hnames⟩ | ⟨hlong, -⟩ := checkBounds_eq_error hfails
  · rw [← Failure.Names.unique ⟨_, rfl⟩ hnames] at hkey
    exact absurd hkey (by decide)
  · injection hlong with hlong
    cases hlong

/-- Without a host settings are the same outcome if they are refused. -/
theorem validated_without_host_iff {c : Config} (hhost : c.host = .text "localhost") :
    { c with host := .null }.validated = c.validated ↔ ∃ e, c.validated = .error e := by
  have hsame : { c with host := .null }.validate = c.validate := rfl
  have hother : { c with host := .null } ≠ c := by
    intro h
    cases (congrArg host h).trans hhost
  rw [validated_eq_iff hsame, or_iff_right hother]

/-- Without a driver settings are the same outcome if they are refused and have another driver from their URL. -/
theorem validated_without_driver_iff {c : Config} (hdriver : c.driver = .text "mysql") :
    { c with driver := .null }.validated = c.validated ↔ (∃ e, c.validated = .error e) ∧ ¬ c.GoesByDriver := by
  by_cases hgoes : c.GoesByDriver
  · exact iff_of_false (validated_ne_of_goesByDriver hgoes hdriver) fun h => h.2 hgoes
  · have hsame : { c with driver := .null }.validate = c.validate := by
      rw [validate_eq, validate_eq, c.goesByDriver_or.resolve_left hgoes .null]
      rfl
    have hother : { c with driver := .null } ≠ c := by
      intro h
      cases (congrArg driver h).trans hdriver
    rw [validated_eq_iff hsame, or_iff_right hother, and_iff_left hgoes]

end Config

namespace Environment

/-- The settings that are texts. -/
inductive TextField where
  | url | driver | host | user | password | database
  deriving DecidableEq

namespace TextField

/-- Sets the setting to a text, or to none. -/
def put : TextField → Option String → Config → Config
  | url, v, c => { c with url := v }
  | driver, v, c => { c with driver := v.elim .null .text }
  | host, v, c => { c with host := v.elim .null .text }
  | user, v, c => { c with user := v }
  | password, v, c => { c with password := v }
  | database, v, c => { c with database := v.elim .null .text }

/-- How the setting is read. -/
def setting : TextField → Setting
  | url => .ofText "URL" fun v c => { c with url := v }
  | driver => .ofAny "DRIVER" .null fun v c => { c with driver := v }
  | host => .ofAny "HOST" .null fun v c => { c with host := v }
  | user => .ofText "USER" fun v c => { c with user := v }
  | password => .ofText "PASSWORD" fun v c => { c with password := v }
  | database => .ofAny "DATABASE" .null fun v c => { c with database := v }

/-- What the setting is by default. -/
def default? : TextField → Option String
  | driver => some "mysql"
  | host => some "localhost"
  | _ => none

/-- The variable of the setting. -/
def key (pre : String) (f : TextField) : String := pre ++ f.setting.suffix

end TextField

/-- The variables without those of a name. -/
def unset (name : String) (vars : Variables) : Variables := vars.filter fun entry => entry.1 != name

/-- The settings can be read, and no URL names the driver. -/
def GoesByDriver (pre : String) (vars : Variables) : Prop :=
  ∃ c, readAll pre vars settings {} = .ok c ∧ c.GoesByDriver

variable {pre : String} {vars : Variables}

/-! ### Variables that are not there -/

theorem value?_unset_self (name : String) (vars : Variables) : value? name (unset name vars) = none := by
  rw [value?, unset, ← List.filter_reverse, List.lookup_eq_none_iff]
  intro entry hentry
  have hother := (List.mem_filter.1 hentry).2
  rw [bne_iff_ne] at hother ⊢
  exact hother.symm

theorem value?_unset_of_ne {other name : String} (h : other ≠ name) (vars : Variables) :
    value? other (unset name vars) = value? other vars := by
  rw [value?, unset, ← List.filter_reverse, value?]
  induction vars.reverse with
  | nil => rfl
  | cons entry rest ih =>
    obtain ⟨key, v⟩ := entry
    by_cases hkey : key = name
    · subst hkey
      rw [List.filter_cons_of_neg (by simp), ih, List.lookup_cons, beq_false_of_ne h]
    · rw [List.filter_cons_of_pos (by simpa using hkey), List.lookup_cons, List.lookup_cons, ih]

/-! ### Settings that are read independently of each other -/

namespace Setting

/-- The setting is read alike before and after a change. -/
def Commutes (s : Setting) (g : Config → Config) : Prop := ∀ v c, s.set? v (g c) = (s.set? v c).map g

variable {suffix : String} {sample : Value} {g : Config → Config}

theorem commutes_ofAny {set : Value → Config → Config} (h : ∀ v c, set v (g c) = g (set v c)) :
    (ofAny suffix sample set).Commutes g := fun v c => congrArg some (h v c)

theorem commutes_ofText {set : Option String → Config → Config} (h : ∀ v c, set v (g c) = g (set v c)) :
    (ofText suffix set).Commutes g := by
  intro v c
  cases v with
  | text | null => exact congrArg some (h _ c)
  | _ => rfl

theorem commutes_ofWhole {set : Int → Config → Config} (h : ∀ n c, set n (g c) = g (set n c)) :
    (ofWhole suffix set).Commutes g := by
  intro v c
  simp only [ofWhole]
  split
  · exact congrArg some (h _ c)
  · rfl

theorem commutes_ofNumber {set : Number → Config → Config} (h : ∀ x c, set x (g c) = g (set x c)) :
    (ofNumber suffix sample set).Commutes g := by
  intro v c
  simp only [ofNumber, Option.map_map]
  exact Option.map_congr fun x _ => h x c

end Setting

theorem change_commutes {s : Setting} {g : Config → Config} (h : s.Commutes g) (key : String) (raw : Value)
    (c : Config) : change s key raw (g c) = (change s key raw c).map g := by
  rw [change, change]
  cases (coerce key raw s.sample).mapError Failure.ofFault with
  | error e => rfl
  | ok v =>
    simp only [ok_bind, h v c]
    cases s.set? v c <;> rfl

/-- Each setting is that of the field, or it has another variable and nothing to do with the field. -/
theorem own_or_other (f : TextField) : ∀ s ∈ settings,
    s = f.setting ∨ s.suffix ≠ f.setting.suffix ∧ ∀ v, s.Commutes (f.put v) := by
  rw [settings]
  simp only [List.forall_mem_cons]
  refine ⟨?_, ?_, ?_, ?_, ?_, ?_, ?_, ?_, ?_, ?_, ?_, ?_, ?_, ?_, ?_, ?_, List.forall_mem_nil _⟩
  -- a table of sixteen settings by six fields, in which each field has one setting of its own
  all_goals
    cases f <;>
    first
    | exact .inl rfl
    | refine .inr ⟨by decide, fun v => ?_⟩
      first
      | exact Setting.commutes_ofText fun _ _ => rfl
      | exact Setting.commutes_ofAny fun _ _ => rfl
      | exact Setting.commutes_ofNumber fun _ _ => rfl
      | exact Setting.commutes_ofWhole fun _ _ => rfl

/-! ### What a blank variable does -/

/-- A blank text is no text. -/
theorem readText_blank {raw : String} (h : raw.toList.all Text.isBlank = true) : readText raw = none := by
  have hdropped : raw.toList.dropWhile Text.isBlank = [] := List.dropWhile_eq_nil_iff.2 (List.all_eq_true.1 h)
  rw [readText, Text.trim, Text.trimWhile, hdropped]
  rfl

/-- The field is set to what its variable is read as. -/
theorem change_setting (f : TextField) (key raw : String) (c : Config) :
    change f.setting key (.text raw) c = .ok (f.put (readText raw) c) := by
  cases f with
  | url | user | password => exact change_ofText _ _ key raw c
  | driver | host | database => rfl

/-- One variable that is read. -/
def readOne (pre : String) (vars : Variables) (s : Setting) (c : Config) : Except Failure Config :=
  (value? (pre ++ s.suffix) vars).elim (.ok c) fun raw => change s (pre ++ s.suffix) raw c

theorem readAll_cons (pre : String) (vars : Variables) (s : Setting) (rest : List Setting) (c : Config) :
    readAll pre vars (s :: rest) c = readOne pre vars s c >>= readAll pre vars rest := by
  rw [readAll, readOne]
  cases value? (pre ++ s.suffix) vars <;> rfl

section
variable {f : TextField}

theorem readOne_unset (c : Config) : readOne pre (unset (f.key pre) vars) f.setting c = .ok c := by
  rw [readOne, show pre ++ f.setting.suffix = f.key pre from rfl, value?_unset_self]
  rfl

/-- Another variable is read alike without that of the field. -/
theorem readOne_other {s : Setting} (h : s.suffix ≠ f.setting.suffix) :
    readOne pre vars s = readOne pre (unset (f.key pre) vars) s := by
  have hkey : pre ++ s.suffix ≠ f.key pre := fun hkey => h (String.append_right_inj pre |>.1 hkey)
  funext c
  rw [readOne, readOne, value?_unset_of_ne hkey]

theorem readOne_commutes {s : Setting} {g : Config → Config} (h : s.Commutes g) (c : Config) :
    readOne pre vars s (g c) = (readOne pre vars s c).map g := by
  rw [readOne, readOne]
  cases value? (pre ++ s.suffix) vars with
  | none => rfl
  | some raw => exact change_commutes h (pre ++ s.suffix) raw c

/-- Without its variable the field is left alone: it may be set before or afterwards. -/
theorem readAll_put {l : List Setting} (hl : ∀ s ∈ l, s ∈ settings) (v : Option String) (c : Config) :
    readAll pre (unset (f.key pre) vars) l (f.put v c) =
      (readAll pre (unset (f.key pre) vars) l c).map (f.put v) := by
  induction l generalizing c with
  | nil => rfl
  | cons s l ih =>
    obtain ⟨hs, hrest⟩ := List.forall_mem_cons.1 hl
    rw [readAll_cons, readAll_cons]
    obtain rfl | ⟨-, hcommutes⟩ := own_or_other f s hs
    · rw [readOne_unset, readOne_unset]
      exact ih hrest c
    · rw [readOne_commutes (hcommutes v)]
      cases readOne pre (unset (f.key pre) vars) s c with
      | error e => rfl
      | ok c' => exact ih hrest c'

variable {raw : String} (hset : value? (f.key pre) vars = some (.text raw)) (hblank : readText raw = none)
include hset hblank

theorem readOne_blank (c : Config) : readOne pre vars f.setting c = .ok (f.put none c) := by
  rw [readOne, show pre ++ f.setting.suffix = f.key pre from rfl, hset, Option.elim_some, change_setting, hblank]

/-- Once the field is set to none, a blank variable is as good as none. -/
theorem readAll_of_none {l : List Setting} (hl : ∀ s ∈ l, s ∈ settings) (c : Config) :
    readAll pre vars l (f.put none c) = (readAll pre (unset (f.key pre) vars) l c).map (f.put none) := by
  induction l generalizing c with
  | nil => rfl
  | cons s l ih =>
    obtain ⟨hs, hrest⟩ := List.forall_mem_cons.1 hl
    rw [readAll_cons, readAll_cons]
    obtain rfl | ⟨hother, hcommutes⟩ := own_or_other f s hs
    · have htwice : f.put none (f.put none c) = f.put none c := by cases f <;> rfl
      rw [readOne_blank hset hblank, readOne_unset, htwice]
      exact ih hrest c
    · rw [readOne_other hother, readOne_commutes (hcommutes none)]
      cases readOne pre (unset (f.key pre) vars) s c with
      | error e => rfl
      | ok c' => exact ih hrest c'

/-- The settings that are read from there on are those without the variable, but with the field set to none. -/
theorem readAll_of_mem {l : List Setting} (hl : ∀ s ∈ l, s ∈ settings) (hmem : f.setting ∈ l) (c : Config) :
    readAll pre vars l c = (readAll pre (unset (f.key pre) vars) l c).map (f.put none) := by
  induction l generalizing c with
  | nil => cases hmem
  | cons s l ih =>
    obtain ⟨hs, hrest⟩ := List.forall_mem_cons.1 hl
    rw [readAll_cons, readAll_cons]
    obtain rfl | ⟨hother, -⟩ := own_or_other f s hs
    · rw [readOne_blank hset hblank, readOne_unset]
      exact readAll_of_none hset hblank hrest c
    · have hlater : f.setting ∈ l := by
        refine (List.mem_cons.1 hmem).resolve_left ?_
        rintro rfl
        exact hother rfl
      rw [readOne_other hother]
      cases readOne pre (unset (f.key pre) vars) s c with
      | error e => rfl
      | ok c' => exact ih hrest hlater c'

end

/-! ### Blank or not there -/

variable {f : TextField}

/-- Without its variable the field is as it is by default. -/
theorem put_default {c : Config} (h : readAll pre (unset (f.key pre) vars) settings {} = .ok c) :
    f.put f.default? c = c := by
  have hput : readAll pre (unset (f.key pre) vars) settings (f.put f.default? {}) = _ :=
    readAll_put (List.Subset.refl settings) f.default? {}
  have hdefault : f.put f.default? {} = {} := by cases f <;> rfl
  rw [hdefault, h] at hput
  exact (Except.ok.inj hput).symm

/-- The settings of a blank variable are those without it, but with the field set to none. -/
theorem configOf_blank {raw : String} (hset : value? (f.key pre) vars = some (.text raw))
    (hblank : raw.toList.all Text.isBlank = true) : configOf pre vars =
      (readAll pre (unset (f.key pre) vars) settings {} >>= fun c => (f.put none c).validated) := by
  have hmem : f.setting ∈ settings := by cases f <;> simp [settings, TextField.setting]
  rw [show configOf pre vars = readAll pre vars settings {} >>= Config.validated from rfl,
    readAll_of_mem hset (readText_blank hblank) (List.Subset.refl settings) hmem]
  cases readAll pre (unset (f.key pre) vars) settings {} <;> rfl

/-- A blank variable does what setting its field to none does, which is the same as no such variable, except for the
host and the driver: these have a text by default. Without the host nothing is refused that is not refused anyway, and
without the driver everything is that goes by it. -/
theorem blank_as_unset_iff {raw : String} (hset : value? (f.key pre) vars = some (.text raw))
    (hblank : raw.toList.all Text.isBlank = true) :
    configOf pre vars =
        (readAll pre (unset (f.key pre) vars) settings {} >>= fun c => (f.put none c).validated) ∧
      (configOf pre vars = configOf pre (unset (f.key pre) vars) ↔ match f with
        | .host => ∃ e, configOf pre (unset (f.key pre) vars) = .error e
        | .driver => (∃ e, configOf pre (unset (f.key pre) vars) = .error e) ∧
            ¬ GoesByDriver pre (unset (f.key pre) vars)
        | _ => True) := by
  refine ⟨configOf_blank hset hblank, ?_⟩
  rw [configOf_blank hset hblank, show configOf pre (unset (f.key pre) vars) =
    readAll pre (unset (f.key pre) vars) settings {} >>= Config.validated from rfl, GoesByDriver]
  cases hunset : readAll pre (unset (f.key pre) vars) settings {} with
  | error e =>
    refine iff_of_true rfl ?_
    cases f with
    | host => exact ⟨e, rfl⟩
    | driver => exact ⟨⟨e, rfl⟩, fun ⟨_, h, _⟩ => nomatch h⟩
    | _ => trivial
  | ok c =>
    have hdefault := put_default hunset
    have hgoes : (∃ d, Except.ok c = (.ok d : Except Failure Config) ∧ d.GoesByDriver) ↔ c.GoesByDriver :=
      ⟨fun ⟨_, h, hgoes⟩ => Except.ok.inj h ▸ hgoes, fun hgoes => ⟨c, rfl, hgoes⟩⟩
    rw [hgoes, ok_bind, ok_bind]
    cases f with
    | url | user | password | database => exact iff_of_true (congrArg Config.validated hdefault) trivial
    | host => exact Config.validated_without_host_iff (congrArg Config.host hdefault).symm
    | driver => exact Config.validated_without_driver_iff (congrArg Config.driver hdefault).symm

/-- A user of nothing but white space is no user. -/
theorem blank_user_as_unset :
    value? (TextField.user.key "DB_") (ofTexts [("DB_USER", " \t"), ("DB_HOST", "db")]) = some (.text " \t") ∧
      " \t".toList.all Text.isBlank = true ∧
      configOf "DB_" (ofTexts [("DB_USER", " \t"), ("DB_HOST", "db")]) =
        configOf "DB_" (ofTexts [("DB_HOST", "db")]) := by
  have hset : value? (TextField.user.key "DB_") (ofTexts [("DB_USER", " \t"), ("DB_HOST", "db")]) =
      some (.text " \t") := rfl
  have hblank : " \t".toList.all Text.isBlank = true := by decide
  exact ⟨hset, hblank, (blank_as_unset_iff hset hblank).2.2 trivial⟩

/-- A blank host is shown as the word for nothing, and a blank driver is refused as that; neither is so without the
variable. -/
theorem blank_host_shown :
    configOf "DB_" (ofTexts [("DB_HOST", "")]) = .ok { host := .null } ∧
      configOf "DB_" (unset "DB_HOST" (ofTexts [("DB_HOST", "")])) = .ok {} ∧
      ({ host := .null } : Config) ≠ {} ∧ ({ host := .null } : Config).toUrl = "mysql://None:3306/" ∧
      configOf "DB_" (ofTexts [("DB_DRIVER", " ")]) =
        .error (.ofFault (.configInvalid "driver" "unsupported driver 'None'" [])) ∧
      configOf "DB_" (unset "DB_DRIVER" (ofTexts [("DB_DRIVER", " ")])) = .ok {} := by
  refine ⟨rfl, rfl, fun h => ?_, rfl, rfl, rfl⟩
  cases congrArg Config.host h

end Environment

end RecordMapper
