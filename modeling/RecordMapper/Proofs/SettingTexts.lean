import RecordMapper.Config.Environment
import RecordMapper.Proofs.IntegerTexts
import RecordMapper.Proofs.RefusedSettings

/-!
Settings from variables that are texts. Whatever a text is read as, its setting can have, so a variable that cannot be
read is refused with a fault that names it, and the settings that are read are checked. An integer that is read has
few enough digits to be shown. Main statement: settings are accepted with a driver that there is an adapter for, or they
are refused by name, unless there is a URL that cannot be read.
-/
namespace RecordMapper

namespace Environment

/-- Variables that are texts. -/
def ofTexts (texts : List (String × String)) : Variables := texts.map fun (name, text) => (name, .text text)

/-- The text of a variable; of two of one name the later counts. -/
def text? (name : String) (texts : List (String × String)) : Option String := texts.reverse.lookup name

/-- The names of a file that have a value, and behind them the variables of the environment. -/
def allTexts (file : List (String × Option String)) (texts : List (String × String)) : List (String × String) :=
  (file.filterMap fun (name, value) => value.map fun text => (name, text)) ++ texts

/-- The variable of a setting can be read, if it is there. -/
def Reads (pre : String) (texts : List (String × String)) (s : Setting) : Prop :=
  ∀ raw, text? (pre ++ s.suffix) texts = some raw → ∃ v, coerce (pre ++ s.suffix) (.text raw) s.sample = .ok v

/-- All variables can be read, but there is a URL that is none, and this is the failure. -/
def FailsAtUrl (pre : String) (texts : List (String × String)) (e : Failure) : Prop :=
  (∀ s ∈ settings, Reads pre texts s) ∧ ∃ raw url problem,
    text? (pre ++ "URL") texts = some raw ∧ readText raw = some url ∧ Url.parse url = .error problem ∧
      e = problem.failure

variable {pre : String} {texts : List (String × String)}

/-! ### Texts that are read -/

theorem value?_ofTexts (name : String) (texts : List (String × String)) :
    value? name (ofTexts texts) = (text? name texts).map .text := by
  rw [value?, ofTexts, text?, ← List.map_reverse]
  induction texts.reverse with
  | nil => rfl
  | cons entry rest ih =>
    obtain ⟨other, text⟩ := entry
    rw [List.map_cons, List.lookup_cons, List.lookup_cons]
    split
    · rfl
    · exact ih

theorem configOver_ofTexts (pre : String) (file : List (String × Option String)) (texts : List (String × String)) :
    configOver pre file (ofTexts texts) = configOf pre (ofTexts (allTexts file texts)) := by
  rw [configOver, fileVariables, allTexts, ofTexts, ofTexts, List.map_append, List.map_filterMap]
  simp only [Option.map_map, Function.comp_def]

section
variable {α : Type} {r : Except Fault α} {g : α → Value}

theorem map_eq_ok {v : Value} : r.map g = .ok v ↔ ∃ a, r = .ok a ∧ g a = v := by
  cases r <;> simp [Except.map]

theorem map_eq_error {f : Fault} : r.map g = .error f ↔ r = .error f := by
  cases r <;> simp [Except.map]

end

theorem names_readWhole {key raw : String} {f : Fault} (h : readWhole key raw = .error f) :
    (Failure.ofFault f).Names key := by
  rw [readWhole] at h
  split at h
  · cases h
  · exact ⟨_, congrArg _ (Except.error.inj h).symm⟩

theorem names_readReal {key raw : String} {f : Fault} (h : readReal key raw = .error f) :
    (Failure.ofFault f).Names key := by
  rw [readReal] at h
  split at h
  · cases h
  · exact ⟨_, congrArg _ (Except.error.inj h).symm⟩

theorem names_readTruth {key raw : String} {f : Fault} (h : readTruth key raw = .error f) :
    (Failure.ofFault f).Names key := by
  rw [readTruth] at h
  split at h
  · cases h
  · split at h
    · cases h
    · exact ⟨_, congrArg _ (Except.error.inj h).symm⟩

/-- A text that cannot be read is refused by the name of its variable. -/
theorem names_coerce {key raw : String} {sample : Value} {f : Fault} (h : coerce key (.text raw) sample = .error f) :
    (Failure.ofFault f).Names key := by
  cases sample with
  | bool b => exact names_readTruth (map_eq_error.1 (show (readTruth key raw).map Value.bool = .error f from h))
  | int n => exact names_readWhole (map_eq_error.1 (show (readWhole key raw).map Value.int = .error f from h))
  | real x => exact names_readReal (map_eq_error.1 (show (readReal key raw).map Value.real = .error f from h))
  | _ => cases h

namespace Setting

/-- Whatever a text is read as, the setting can have. -/
def TakesTexts (s : Setting) : Prop :=
  ∀ key raw v c, coerce key (.text raw) s.sample = .ok v → ∃ c', s.set? v c = some c'

/-- No text that is read for the setting takes the property away. -/
def Keeps (s : Setting) (P : Config → Prop) : Prop :=
  ∀ key raw v c c', coerce key (.text raw) s.sample = .ok v → s.set? v c = some c' → P c → P c'

variable {suffix : String} {sample : Value} {P : Config → Prop}

theorem coerce_null {key raw : String} {v : Value} (h : coerce key (.text raw) .null = .ok v) :
    v = (readText raw).elim .null .text := (Except.ok.inj h).symm

theorem coerce_int {key raw : String} {n : Int} {v : Value} (h : coerce key (.text raw) (.int n) = .ok v) :
    ∃ m, v = .int m ∧ readWhole key raw = .ok m := by
  obtain ⟨m, hm, rfl⟩ := map_eq_ok.1 (show (readWhole key raw).map Value.int = .ok v from h)
  exact ⟨m, rfl, hm⟩

theorem coerce_real {key raw : String} {x : Float} {v : Value} (h : coerce key (.text raw) (.real x) = .ok v) :
    ∃ y, v = .real y := by
  obtain ⟨y, -, rfl⟩ := map_eq_ok.1 (show (readReal key raw).map Value.real = .ok v from h)
  exact ⟨y, rfl⟩

theorem takesTexts_ofAny (set : Value → Config → Config) : (ofAny suffix sample set).TakesTexts :=
  fun _ _ _ _ _ => ⟨_, rfl⟩

theorem takesTexts_ofText (set : Option String → Config → Config) : (ofText suffix set).TakesTexts := by
  intro key raw v c h
  rw [coerce_null h]
  cases readText raw with
  | none => exact ⟨_, rfl⟩
  | some text => exact ⟨_, rfl⟩

theorem takesTexts_ofWhole (set : Int → Config → Config) : (ofWhole suffix set).TakesTexts := by
  intro key raw v c h
  obtain ⟨n, rfl, -⟩ := coerce_int h
  exact ⟨_, rfl⟩

theorem takesTexts_ofInteger (n : Int) (set : Number → Config → Config) :
    (ofNumber suffix (.int n) set).TakesTexts := by
  intro key raw v c h
  obtain ⟨m, rfl, -⟩ := coerce_int h
  exact ⟨_, rfl⟩

theorem takesTexts_ofSeconds (x : Float) (set : Number → Config → Config) :
    (ofNumber suffix (.real x) set).TakesTexts := by
  intro key raw v c h
  obtain ⟨y, rfl⟩ := coerce_real h
  exact ⟨_, rfl⟩

theorem keeps_ofAny {set : Value → Config → Config} (h : ∀ v c, P c → P (set v c)) :
    (ofAny suffix sample set).Keeps P := by
  intro key raw v c c' _ hset hc
  cases hset
  exact h v c hc

theorem keeps_ofText {set : Option String → Config → Config} (h : ∀ v c, P c → P (set v c)) :
    (ofText suffix set).Keeps P := by
  intro key raw v c c' _ hset hc
  cases v with
  | text | null =>
    cases hset
    exact h _ c hc
  | _ => cases hset

theorem keeps_ofWhole {set : Int → Config → Config} (h : ∀ n c, P c → P (set n c)) : (ofWhole suffix set).Keeps P := by
  intro key raw v c c' hv hset hc
  obtain ⟨n, rfl, -⟩ := coerce_int hv
  cases hset
  exact h n c hc

theorem keeps_ofNumber {set : Number → Config → Config} (h : ∀ x c, P c → P (set x c)) :
    (ofNumber suffix sample set).Keeps P := by
  intro key raw v c c' _ hset hc
  obtain ⟨x, -, rfl⟩ := Option.map_eq_some_iff.1 hset
  exact h x c hc

end Setting

theorem takesTexts_settings : ∀ s ∈ settings, s.TakesTexts := by
  rw [settings]
  simp only [List.forall_mem_cons]
  exact ⟨Setting.takesTexts_ofText _, Setting.takesTexts_ofAny _, Setting.takesTexts_ofAny _,
    Setting.takesTexts_ofAny _, Setting.takesTexts_ofText _, Setting.takesTexts_ofText _, Setting.takesTexts_ofAny _,
    Setting.takesTexts_ofInteger _ _, Setting.takesTexts_ofInteger _ _, Setting.takesTexts_ofSeconds _ _,
    Setting.takesTexts_ofWhole _, Setting.takesTexts_ofSeconds _ _, Setting.takesTexts_ofWhole _,
    Setting.takesTexts_ofSeconds _ _, Setting.takesTexts_ofSeconds _ _, Setting.takesTexts_ofSeconds _ _,
    List.forall_mem_nil _⟩

/-- One variable more: it can be read, and then the others follow, or it is refused by its name. -/
theorem readAll_cons_texts (pre : String) (texts : List (String × String)) {s : Setting} (h : s.TakesTexts)
    (rest : List Setting) (c : Config) :
    (∃ c', readAll pre (ofTexts texts) (s :: rest) c = readAll pre (ofTexts texts) rest c' ∧ Reads pre texts s ∧
        ∀ P : Config → Prop, s.Keeps P → P c → P c') ∨
      ∃ e, readAll pre (ofTexts texts) (s :: rest) c = .error e ∧ e.Names (pre ++ s.suffix) ∧ ¬ Reads pre texts s := by
  rw [readAll, value?_ofTexts]
  cases hraw : text? (pre ++ s.suffix) texts with
  | none =>
    refine .inl ⟨c, rfl, ?_, fun _ _ hc => hc⟩
    intro raw h
    rw [hraw] at h
    cases h
  | some raw =>
    rw [Option.map_some]
    dsimp only
    rw [change]
    cases hv : coerce (pre ++ s.suffix) (.text raw) s.sample with
    | error f =>
      refine .inr ⟨.ofFault f, rfl, names_coerce hv, fun hreads => ?_⟩
      obtain ⟨v, hread⟩ := hreads raw hraw
      rw [hv] at hread
      cases hread
    | ok v =>
      obtain ⟨c', hset⟩ := h _ raw v c hv
      refine .inl ⟨c', ?_, ?_, fun P hP => hP _ raw v c c' hv hset⟩
      · rw [show Except.mapError Failure.ofFault (.ok v : Except Fault Value) = .ok v from rfl, ok_bind, hset]
        rfl
      · intro raw' h
        rw [hraw] at h
        cases h
        exact ⟨v, hv⟩

/-- Either all variables can be read, or one is refused by its name. -/
theorem readAll_texts (pre : String) (texts : List (String × String)) {l : List Setting} (h : ∀ s ∈ l, s.TakesTexts)
    (c : Config) :
    (∃ c', readAll pre (ofTexts texts) l c = .ok c' ∧ (∀ s ∈ l, Reads pre texts s) ∧
        ∀ P : Config → Prop, (∀ s ∈ l, s.Keeps P) → P c → P c') ∨
      ∃ e, readAll pre (ofTexts texts) l c = .error e ∧ (∃ s ∈ l, e.Names (pre ++ s.suffix)) ∧
        ¬ ∀ s ∈ l, Reads pre texts s := by
  induction l generalizing c with
  | nil => exact .inl ⟨c, rfl, List.forall_mem_nil _, fun _ _ hc => hc⟩
  | cons s l ih =>
    obtain ⟨hs, hl⟩ := List.forall_mem_cons.1 h
    obtain ⟨c₁, hread, hreads, hkeeps⟩ | ⟨e, hfailed, hnames, hnot⟩ :=
      readAll_cons_texts pre texts hs l c
    · rw [hread]
      obtain ⟨c₂, hrest, hall, hkept⟩ | ⟨e, hrest, ⟨t, ht, hnames⟩, hnot⟩ := ih hl c₁
      · refine .inl ⟨c₂, hrest, List.forall_mem_cons.2 ⟨hreads, hall⟩, fun P hP hc => ?_⟩
        obtain ⟨hfirst, hothers⟩ := List.forall_mem_cons.1 hP
        exact hkept P hothers (hkeeps P hfirst hc)
      · exact .inr ⟨e, hrest, ⟨t, List.mem_cons_of_mem _ ht, hnames⟩, fun hall =>
          hnot (List.forall_mem_cons.1 hall).2⟩
    · exact .inr ⟨e, hfailed, ⟨s, List.mem_cons_self, hnames⟩, fun hall => hnot (List.forall_mem_cons.1 hall).1⟩

/-- The pool of settings that are read can be shown: the digits of an integer that is read are not too many. -/
theorem keeps_poolMax : ∀ s ∈ settings, s.Keeps fun c => ¬ c.poolMax.Unshowable := by
  have hsize : (Setting.ofNumber "POOL_SIZE" (.int 1) fun v c => { c with poolMax := v }).Keeps
      fun c => ¬ c.poolMax.Unshowable := by
    rintro key raw v c c' hv hset -
    obtain ⟨n, rfl, hread⟩ := Setting.coerce_int hv
    cases hset
    rintro ⟨m, hm, hlong⟩
    cases hm
    rw [readWhole, Value.toInt] at hread
    cases hint : Numeral.readInt (Text.trim raw).toList with
    | error problem =>
      rw [hint] at hread
      cases hread
    | ok k =>
      rw [hint] at hread
      cases hread
      rw [Numeral.isTooLong_of_readInt hint] at hlong
      cases hlong
  rw [settings]
  simp only [List.forall_mem_cons]
  refine ⟨Setting.keeps_ofText ?_, Setting.keeps_ofAny ?_, Setting.keeps_ofAny ?_, Setting.keeps_ofAny ?_,
    Setting.keeps_ofText ?_, Setting.keeps_ofText ?_, Setting.keeps_ofAny ?_, Setting.keeps_ofNumber ?_, hsize,
    Setting.keeps_ofNumber ?_, Setting.keeps_ofWhole ?_, Setting.keeps_ofNumber ?_, Setting.keeps_ofWhole ?_,
    Setting.keeps_ofNumber ?_, Setting.keeps_ofNumber ?_, Setting.keeps_ofNumber ?_, List.forall_mem_nil _⟩
  all_goals exact fun _ _ hc => hc

/-- The settings behind the URL leave it alone. -/
theorem keeps_url (url : Option String) : ∀ s ∈ settings.tail, s.Keeps fun c => c.url = url := by
  rw [settings, List.tail_cons]
  simp only [List.forall_mem_cons]
  refine ⟨Setting.keeps_ofAny ?_, Setting.keeps_ofAny ?_, Setting.keeps_ofAny ?_, Setting.keeps_ofText ?_,
    Setting.keeps_ofText ?_, Setting.keeps_ofAny ?_, Setting.keeps_ofNumber ?_, Setting.keeps_ofNumber ?_,
    Setting.keeps_ofNumber ?_, Setting.keeps_ofWhole ?_, Setting.keeps_ofNumber ?_, Setting.keeps_ofWhole ?_,
    Setting.keeps_ofNumber ?_, Setting.keeps_ofNumber ?_, Setting.keeps_ofNumber ?_, List.forall_mem_nil _⟩
  all_goals exact fun _ _ hc => hc

/-- A setting that is a text is changed to what its variable says, unless that is blank. -/
theorem change_ofText (suffix : String) (set : Option String → Config → Config) (key raw : String) (c : Config) :
    change (.ofText suffix set) key (.text raw) c = .ok (set (readText raw) c) := by
  rw [change]
  cases hread : readText raw <;> simp only [Setting.ofText, coerce, hread] <;> rfl

/-- The URL that is read is the text of its variable, unless that is blank. -/
theorem url_of_readAll {c : Config} (h : readAll pre (ofTexts texts) settings {} = .ok c) :
    c.url = (text? (pre ++ "URL") texts).bind readText := by
  have hrest {c₀ : Config} (h : readAll pre (ofTexts texts) settings.tail c₀ = .ok c) : c.url = c₀.url := by
    obtain ⟨c', hread, -, hkeeps⟩ | ⟨e, hfailed, -⟩ :=
      readAll_texts pre texts (fun s hs => takesTexts_settings s (List.mem_of_mem_tail hs)) c₀
    · rw [h] at hread
      cases hread
      exact hkeeps _ (keeps_url c₀.url) rfl
    · rw [h] at hfailed
      cases hfailed
  have hfirst : settings = .ofText "URL" (fun v c => { c with url := v }) :: settings.tail := rfl
  rw [hfirst, readAll, value?_ofTexts, show (Setting.ofText "URL" _).suffix = "URL" from rfl] at h
  cases hraw : text? (pre ++ "URL") texts with
  | none =>
    rw [hraw] at h
    exact hrest h
  | some raw =>
    rw [hraw, Option.map_some] at h
    dsimp only at h
    rw [change_ofText, ok_bind] at h
    exact hrest h

/-- A text that is read is not empty. -/
theorem given?_readText (raw : String) : Config.given? (readText raw) = readText raw := by
  rw [readText]
  split
  · rfl
  · rename_i h
    exact Config.given?_some fun hempty => h (by rw [hempty]; rfl)

/-- Settings that are read from texts are refused by name, unless there is a URL that is none. -/
theorem configOf_unnamed_iff {e : Failure} :
    configOf pre (ofTexts texts) = .error e ∧ ¬ e.NamesSetting ↔ FailsAtUrl pre texts e := by
  obtain ⟨c, hread, hall, hkeeps⟩ | ⟨e', hfailed, ⟨s, -, hnames⟩, hnot⟩ :=
    readAll_texts pre texts takesTexts_settings {}
  · have hurl : Config.given? c.url = (text? (pre ++ "URL") texts).bind readText := by
      rw [url_of_readAll hread]
      cases text? (pre ++ "URL") texts with
      | none => rfl
      | some raw => exact given?_readText raw
    have hshown : ¬ c.poolMax.Unshowable := by
      refine hkeeps _ keeps_poolMax ?_
      rintro ⟨n, hn, hlong⟩
      cases hn
      exact absurd hlong (by decide)
    have hvalidate : configOf pre (ofTexts texts) = .error e ↔ c.validate = .error e := by
      rw [configOf, hread, ok_bind, bind_eq_error]
      exact or_iff_left fun ⟨_, _, h⟩ => nomatch h
    rw [hvalidate, Config.refused_unnamed_iff, or_iff_left fun h => hshown h.1.unshowable, Config.FailsAtUrl, hurl]
    constructor
    · rintro ⟨url, problem, hgiven, hparse, he⟩
      obtain ⟨raw, hraw, htext⟩ := Option.bind_eq_some_iff.1 hgiven
      exact ⟨hall, raw, url, problem, hraw, htext, hparse, he⟩
    · rintro ⟨-, raw, url, problem, hraw, htext, hparse, he⟩
      exact ⟨url, problem, Option.bind_eq_some_iff.2 ⟨raw, hraw, htext⟩, hparse, he⟩
  · constructor
    · rintro ⟨h, hunnamed⟩
      rw [configOf, hfailed] at h
      cases h
      exact absurd hnames.namesSetting hunnamed
    · rintro ⟨hall, -⟩
      exact absurd hall hnot

/-- Settings that are read from texts are accepted, if they are. -/
theorem configOf_ok {c : Config} (h : configOf pre (ofTexts texts) = .ok c) : c.validate = .ok () := by
  rw [configOf] at h
  obtain ⟨c', -, h⟩ := bind_eq_ok.1 h
  obtain ⟨⟨⟩, hvalid, h⟩ := bind_eq_ok.1 h
  cases h
  exact hvalid

end Environment

/-! ### Accepted, or refused by name -/

/-- Settings of an environment, and of whatever names and values a file has, are accepted with a driver that there is
an adapter for, or they are refused by the name of a setting or a variable, unless their URL cannot be read. Settings
that are made by hand are refused by name too, unless their URL cannot be read or the greatest pool, which is too small
for the smallest, cannot be shown. -/
theorem settings_accepted_or_refused (pre : String) (file : List (String × Option String))
    (texts : List (String × String)) (made : Config) (e : Failure) :
    let read := Environment.configOver pre file (Environment.ofTexts texts)
    (∀ c, read = .ok c →
        c.validate = .ok () ∧ ∃ name ∈ Config.supportedDrivers, c.resolvedDriver = .ok (.text name)) ∧
      (read = .error e ∧ ¬ e.NamesSetting ↔
        Environment.FailsAtUrl pre (Environment.allTexts file texts) e) ∧
      (made.validate = .error e ∧ ¬ e.NamesSetting ↔ made.FailsAtUrl e ∨ made.FailsAtPool ∧ e = Config.unshowable) := by
  intro read
  have hread : read = Environment.configOf pre (Environment.ofTexts (Environment.allTexts file texts)) :=
    Environment.configOver_ofTexts ..
  rw [hread]
  refine ⟨fun c hc => ?_, Environment.configOf_unnamed_iff, Config.refused_unnamed_iff⟩
  have hvalid := Environment.configOf_ok hc
  exact ⟨hvalid, Config.driver_of_validate hvalid⟩

/-- A host with a bracket that is not closed is refused without a name, from a variable and from a setting alike. -/
theorem open_bracket_refused_unnamed :
    Environment.configOver "DB_" [] (Environment.ofTexts [("DB_URL", "mysql://[::1/d")]) =
        .error (.ofPlain .value "Invalid IPv6 URL") ∧
      ({ url := some "mysql://[::1/d" } : Config).validate = .error (.ofPlain .value "Invalid IPv6 URL") ∧
      ¬ (Failure.ofPlain .value "Invalid IPv6 URL").NamesSetting :=
  ⟨rfl, rfl, Failure.not_namesSetting_plain _ _⟩

end RecordMapper
