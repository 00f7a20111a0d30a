import RecordMapper.Proofs.CastRows

/-!
Values that casts cannot convert. A cast means to refuse such a value with a fault that names the column and the cast,
but some conversions fail before the cast looks at what has failed: octets that are not UTF-8, numbers without a float
or a moment, integers too long to be written, and values nested too deep. Main statement: casts return or refuse exactly
if the first value that is not converted is none of these.
-/
namespace RecordMapper

/-- Integers in the value are too long to be written, or lists and dictionaries are nested too deep. -/
def Value.Unshowable (v : Value) : Prop := v.checkShown maxDepth ≠ .ok ()

/-- The text is JSON up to an integer that is too long or to nesting that is too deep. -/
def Json.Overflows (s : String) : Prop := read s = .error .tooDeep ∨ ∃ digits, read s = .error (.tooLong digits)

namespace Cast

/-- The conversion of the value fails, but not with the fault of the cast. -/
def Escapes : Cast → Direction → Value → Prop
  | json, .toStorage, v => Json.write v = .error .tooDeep
  | json, .fromStorage, .bytes octets => ∀ s, Text.Utf8.decode? octets = some s → Json.Overflows s
  | json, .fromStorage, .text s => Json.Overflows s
  | json, .fromStorage, .fragment points => Json.Overflows (Value.fragment points).shown
  | json, .fromStorage, _ => False
  | boolean, _, _ => False
  | date, .toStorage, _ => False
  | date, .fromStorage, .int n => n < -62135596800 ∨ 253402300799 < n
  | date, .fromStorage, .real x => ∀ t, Moment.ofEpochFloat x ≠ .ok t
  | date, .fromStorage, v => v.Unshowable
  | number, _, .int _ => False
  | number, _, v => v.Unshowable
  | float, _, .int n => Binary64.isFinite (Binary64.ofInt n) = false
  | float, _, v => v.Unshowable
  | string, _, .bytes octets => Text.Utf8.decode? octets = none
  | string, _, v => v.Unshowable

/-- How a conversion ends: with a value, with the fault of the cast, or with an error that is no fault. -/
inductive Outcome (cast : Cast) (column : String) (escapes : Prop) : Except Failure Value → Prop where
  | converted (w : Value) (h : ¬ escapes) : Outcome cast column escapes (.ok w)
  | refused (reason : String) (h : ¬ escapes) : Outcome cast column escapes (.error (refuse column cast reason))
  | escaped (kind : ErrorKind) (message : String) (h : escapes) :
    Outcome cast column escapes (.error (.ofPlain kind message))

end Cast

/-! ### Moments of the calendar -/

/-- The years of the calendar have the days 1 to 3652059. -/
theorem Date.year_yearAndDay (ordinal : Int) :
    (1 ≤ (yearAndDay ordinal).1 ↔ 1 ≤ ordinal) ∧ ((yearAndDay ordinal).1 ≤ 9999 ↔ ordinal ≤ 3652059) := by
  have hdiv (a : Int) {b : Int} (h : 0 ≤ b) : a.fdiv b = a / b := Int.fdiv_eq_ediv_of_nonneg a h
  have hmod (a : Int) {b : Int} (h : 0 ≤ b) : a.fmod b = a % b := Int.fmod_eq_emod_of_nonneg a h
  simp only [yearAndDay, hdiv _ (show (0 : Int) ≤ 146097 by decide), hmod _ (show (0 : Int) ≤ 146097 by decide),
    hdiv _ (show (0 : Int) ≤ 36524 by decide), hdiv _ (show (0 : Int) ≤ 1461 by decide),
    hmod _ (show (0 : Int) ≤ 1461 by decide), hdiv _ (show (0 : Int) ≤ 365 by decide)]
  -- the 25th era of 400 years is the last, and lacks its last year
  obtain hera | hera | hera :
      (ordinal - 1) / 146097 < 24 ∨ (ordinal - 1) / 146097 = 24 ∨ 24 < (ordinal - 1) / 146097 := by omega
  · constructor <;> omega
  · rw [hera]
    constructor <;> omega
  · constructor <;> omega

theorem Date.isSome_ofOrdinal? (ordinal : Int) : (ofOrdinal? ordinal).isSome ↔ 1 ≤ ordinal ∧ ordinal ≤ 3652059 := by
  obtain ⟨hfirst, hlast⟩ := year_yearAndDay ordinal
  rw [← hfirst, ← hlast, ofOrdinal?]
  by_cases hyear : 1 ≤ (yearAndDay ordinal).1 ∧ (yearAndDay ordinal).1 ≤ 9999
  · simp [hyear]
  · simp [hyear]

namespace Moment

/-- The seconds of the calendar. -/
theorem ofEpoch_cases (seconds : Int) (micro : Nat) :
    (¬ (seconds < -62135596800 ∨ 253402300799 < seconds) ∧ ∃ t, ofEpoch seconds micro = .ok t) ∨
      (seconds < -62135596800 ∨ 253402300799 < seconds) ∧ ∃ problem, ofEpoch seconds micro = .error problem := by
  have hclock : pow2 63 = 9223372036854775808 := rfl
  have hday := Date.isSome_ofOrdinal? (epochDay + seconds.fdiv 86400)
  rw [epochDay, Int.fdiv_eq_ediv_of_nonneg _ (by decide)] at hday
  simp only [ofEpoch, hclock, epochDay, Int.fdiv_eq_ediv_of_nonneg seconds (show (0 : Int) ≤ 86400 by decide)]
  cases hdate : Date.ofOrdinal? (719163 + seconds / 86400) with
  | none =>
    rw [hdate] at hday
    simp only [Option.isSome_none, Bool.false_eq_true, false_iff] at hday
    refine .inr ⟨by omega, ?_⟩
    split
    · exact ⟨_, rfl⟩
    · dsimp only
      split <;> exact ⟨_, rfl⟩
  | some d =>
    rw [hdate] at hday
    simp only [Option.isSome_some, true_iff] at hday
    refine .inl ⟨by omega, ?_⟩
    rw [if_neg (by simp; omega)]
    exact ⟨_, rfl⟩

end Moment

namespace Cast

variable {cast : Cast} {direction : Direction} {column : String} {v : Value}

/-! ### Conversions -/

/-- A value has a text or getting it fails with an error that is no fault. -/
theorem checkText_cases (v : Value) : ¬ v.Unshowable ∧ checkText v = .ok () ∨
    v.Unshowable ∧ ∃ kind message, checkText v = .error (.ofPlain kind message) := by
  rw [Value.Unshowable, checkText]
  cases v.checkShown Value.maxDepth with
  | ok _ => exact .inl ⟨fun h => h rfl, rfl⟩
  | error problem =>
    refine .inr ⟨nofun, ?_⟩
    cases problem with
    | tooLong => exact ⟨.value, _, rfl⟩
    | tooDeep => exact ⟨.recursion, _, rfl⟩

/-- A value that is no number is refused, if the refusal can show it. -/
theorem outcome_refuseNumber (cast : Cast) (column : String) (v : Value) :
    Outcome cast column v.Unshowable (refuseNumber column cast v) := by
  rw [refuseNumber]
  obtain ⟨hshown, htext⟩ | ⟨hshown, kind, message, htext⟩ := checkText_cases v
  · rw [htext, ok_bind]
    exact .refused _ hshown
  · rw [htext]
    exact .escaped kind message hshown

theorem outcome_writeJson (column : String) (v : Value) :
    Outcome json column (Json.write v = .error .tooDeep) (writeJson column v) := by
  rw [writeJson]
  split
  · rename_i hwrite
    exact .converted _ (by rw [hwrite]; nofun)
  · rename_i hwrite
    exact .escaped _ _ hwrite
  · rename_i problem hdeep hwrite
    exact .refused _ fun h => hdeep (Except.error.inj (hwrite.symm.trans h))

theorem outcome_readJsonText (column s : String) : Outcome json column (Json.Overflows s) (readJsonText column s) := by
  rw [readJsonText]
  split
  · rename_i hread
    exact .converted _ (by rw [Json.Overflows, hread]; nofun)
  · rename_i digits hread
    exact .escaped _ _ (.inr ⟨digits, hread⟩)
  · rename_i hread
    exact .escaped _ _ (.inl hread)
  · rename_i problem hlong hdeep hread
    refine .refused _ fun h => ?_
    obtain h | ⟨digits, h⟩ := h
    · exact hdeep (Except.error.inj (hread.symm.trans h))
    · exact hlong digits (Except.error.inj (hread.symm.trans h))

theorem outcome_readJson (column : String) (v : Value) :
    Outcome json column (Escapes json .fromStorage v) (readJson column v) := by
  cases v with
  | bytes octets =>
    rw [readJson, decodeText]
    cases hdecode : Text.Utf8.decode? octets with
    | none => exact .escaped _ _ (by rw [Escapes, hdecode]; nofun)
    | some s =>
      have hescapes : Escapes json .fromStorage (.bytes octets) ↔ Json.Overflows s := by
        rw [Escapes, hdecode]
        exact ⟨fun h => h s rfl, fun h _ hs => Option.some.inj hs ▸ h⟩
      rw [hescapes]
      exact outcome_readJsonText column s
  | text s => exact outcome_readJsonText column s
  | fragment points => exact outcome_readJsonText column _
  | _ => exact .converted _ not_false

theorem outcome_castNumber (direction : Direction) (column : String) (v : Value) :
    Outcome number column (Escapes number direction v) (castNumber column v) := by
  have hread {v : Value} {x? : Option Float} (hfloat : toFloat v = .ok x?) (hshown : x?.isSome → ¬ v.Unshowable)
      (hbool : ∀ b, v = .bool b → False) (hint : ∀ n, v = .int n → False) :
      Outcome number column v.Unshowable (castNumber column v) := by
    rw [castNumber, hfloat, ok_bind]
    · cases x? with
      | none => exact outcome_refuseNumber number column v
      | some x =>
        dsimp only
        split
        · exact .converted _ (hshown rfl)
        · exact .converted _ (hshown rfl)
    · exact hbool
    · exact hint
  cases v with
  | bool b => exact .converted _ fun h => h rfl
  | int n => exact .converted _ not_false
  | real x => exact hread (v := .real x) rfl (fun _ h => h rfl) nofun nofun
  | text s => exact hread (v := .text s) rfl (fun _ h => h rfl) nofun nofun
  | bytes octets => exact hread (v := .bytes octets) rfl (fun _ h => h rfl) nofun nofun
  | _ => exact outcome_refuseNumber number column _

theorem outcome_castFloat (direction : Direction) (column : String) (v : Value) :
    Outcome float column (Escapes float direction v) (castFloat column v) := by
  have hread {v : Value} {x? : Option Float} (hfloat : toFloat v = .ok x?) (hshown : x?.isSome → ¬ v.Unshowable) :
      Outcome float column v.Unshowable (castFloat column v) := by
    rw [castFloat, hfloat, ok_bind]
    cases x? with
    | none => exact outcome_refuseNumber float column v
    | some x => exact .converted _ (hshown rfl)
  cases v with
  | int n =>
    rw [castFloat, toFloat, Number.floatOfInt]
    cases hfinite : Binary64.isFinite (Binary64.ofInt n) with
    | false => exact .escaped _ _ hfinite
    | true => exact .converted _ (by rw [Escapes, hfinite]; nofun)
  | bool b => exact hread (v := .bool b) rfl fun _ h => h rfl
  | real x => exact hread (v := .real x) rfl fun _ h => h rfl
  | text s => exact hread (v := .text s) rfl fun _ h => h rfl
  | bytes octets => exact hread (v := .bytes octets) rfl fun _ h => h rfl
  | _ => exact outcome_refuseNumber float column _

theorem outcome_castString (direction : Direction) (column : String) (v : Value) :
    Outcome string column (Escapes string direction v) (castString v) := by
  have hshown {v : Value} : Outcome string column v.Unshowable ((shownText v).map .text) := by
    rw [shownText]
    obtain ⟨hshown, htext⟩ | ⟨hshown, kind, message, htext⟩ := checkText_cases v
    · rw [htext]
      exact .converted _ hshown
    · rw [htext]
      exact .escaped kind message hshown
  cases v with
  | bytes octets =>
    rw [castString, decodeText, Escapes]
    cases Text.Utf8.decode? octets with
    | none => exact .escaped _ _ rfl
    | some s => exact .converted _ nofun
  | fragment points => exact .converted _ fun h => h rfl
  | _ => exact hshown

/-- A number of seconds that is no moment is no fault. -/
theorem epochFailure_eq (problem : Moment.EpochError) :
    ∃ kind message, epochFailure problem = .ofPlain kind message := by
  cases problem <;> exact ⟨_, _, rfl⟩

theorem outcome_readDate (column : String) (v : Value) :
    Outcome date column (Escapes date .fromStorage v) (readDate column v) := by
  have hepoch {r : Except Moment.EpochError Moment} {escapes : Prop}
      (h : (¬ escapes ∧ ∃ t, r = .ok t) ∨ escapes ∧ ∃ problem, r = .error problem) :
      Outcome date column escapes ((r.mapError epochFailure).map .moment) := by
    obtain ⟨hinside, t, rfl⟩ | ⟨houtside, problem, rfl⟩ := h
    · exact .converted _ hinside
    · obtain ⟨kind, message, hfailure⟩ := epochFailure_eq problem
      rw [Except.mapError, hfailure]
      exact .escaped kind message houtside
  have htext {v : Value} (hmoment : ∀ t, v = .moment t → False) (hdate : ∀ d, v = .date d → False)
      (hint : ∀ n, v = .int n → False) (hreal : ∀ x, v = .real x → False) :
      Outcome date column v.Unshowable (readDate column v) := by
    rw [readDate, shownText]
    · obtain ⟨hshown, htext⟩ | ⟨hshown, kind, message, htext⟩ := checkText_cases v
      · rw [htext, Except.map, ok_bind]
        split
        · exact .converted _ hshown
        · exact .refused _ hshown
      · rw [htext]
        exact .escaped kind message hshown
    all_goals assumption
  cases v with
  | moment t => exact .converted _ fun h => h rfl
  | date d => exact .converted _ fun h => h rfl
  | int n => exact hepoch (Moment.ofEpoch_cases n 0)
  | real x =>
    refine hepoch ?_
    rw [Escapes]
    cases Moment.ofEpochFloat x with
    | ok t => exact .inl ⟨fun h => h t rfl, t, rfl⟩
    | error problem => exact .inr ⟨nofun, problem, rfl⟩
  | _ => exact htext nofun nofun nofun nofun

/-- A conversion has a result, or the cast refuses the value, or the value escapes. -/
theorem outcome_convert (cast : Cast) (direction : Direction) (column : String) (v : Value) :
    Outcome cast column (cast.Escapes direction v) (cast.convert direction column v) := by
  cases cast with
  | json =>
    cases direction with
    | toStorage => exact outcome_writeJson column v
    | fromStorage => exact outcome_readJson column v
  | boolean => cases direction <;> exact .converted _ not_false
  | date =>
    cases direction with
    | toStorage => exact .converted _ not_false
    | fromStorage => exact outcome_readDate column v
  | number => exact outcome_castNumber direction column v
  | float => exact outcome_castFloat direction column v
  | string => exact outcome_castString direction column v

/-- The conversion of a value that escapes fails with an error that is no fault. -/
theorem Escapes.convert_eq_error (h : cast.Escapes direction v) (column : String) :
    ∃ kind message, cast.convert direction column v = .error (.ofPlain kind message) := by
  have houtcome := outcome_convert cast direction column v
  generalize cast.convert direction column v = r at *
  cases houtcome with
  | converted w hinside => exact absurd h hinside
  | refused reason hinside => exact absurd h hinside
  | escaped kind message _ => exact ⟨kind, message, rfl⟩

/-- The conversion of any other value fails with the fault of the cast, if it fails. -/
theorem refuse_of_not_escapes (h : ¬ cast.Escapes direction v) {e : Failure}
    (he : cast.convert direction column v = .error e) : ∃ reason, e = refuse column cast reason := by
  have houtcome := outcome_convert cast direction column v
  rw [he] at houtcome
  cases houtcome with
  | refused reason _ => exact ⟨reason, rfl⟩
  | escaped kind message hescapes => exact absurd hescapes h

/-- Nulls do not escape. -/
theorem not_escapes_null (cast : Cast) (direction : Direction) : ¬ cast.Escapes direction .null := by
  cases cast <;> cases direction <;> intro h <;> first | exact h | exact h rfl | cases h

theorem name_of_ofName? {tag : String} (h : ofName? tag = some cast) : tag = cast.name := by
  have hfound := List.find?_some h
  exact (beq_iff_eq.1 hfound).symm

theorem ofName?_name (cast : Cast) : ofName? cast.name = some cast := by
  cases cast <;> rfl

end Cast

namespace Casts

/-- The casts fail with a fault that names a column and its cast, which cannot convert what the column has. -/
def Refuse (direction : Direction) (casts : Casts) (row : Row) : Prop :=
  ∃ column cast reason, (column, Cast.name cast) ∈ casts ∧
    cast.convert direction column (row.value column) = .error (Cast.refuse column cast reason) ∧
    apply direction casts row = .error (Cast.refuse column cast reason)

/-- Casts of different columns return or refuse exactly if the first value that they do not convert does not escape. -/
theorem returns_or_refuses_iff (direction : Direction) {casts : Casts} (hcasts : (casts.map Prod.fst).Nodup)
    (hnames : ∀ p ∈ casts, ∃ cast, Cast.ofName? p.2 = some cast) (row : Row) :
    ((∃ result, apply direction casts row = .ok result) ∨ Refuse direction casts row) ↔
      ∀ before column cast after, casts = before ++ (column, Cast.name cast) :: after →
        (∀ q ∈ before, ∃ v, convertNamed direction q.1 q.2 (row.value q.1) = .ok v) →
          ¬ cast.Escapes direction (row.value column) := by
  constructor
  · intro h before column cast after hshape hbefore hescapes
    have hthere : (row.value column).isNull = false := by
      cases hvalue : row.value column with
      | null => exact absurd (hvalue ▸ hescapes) (cast.not_escapes_null direction)
      | _ => rfl
    obtain ⟨kind, message, hconvert⟩ := hescapes.convert_eq_error column
    have happly : apply direction casts row = .error (.ofPlain kind message) :=
      (apply_eq_error_iff hcasts).2 ⟨(column, cast.name), before, after, hshape, hbefore,
        (convertNamed_of_cast cast.ofName?_name hthere).trans hconvert⟩
    obtain ⟨result, hresult⟩ | ⟨other, otherCast, reason, -, -, hrefused⟩ := h
    · cases hresult.symm.trans happly
    · cases hrefused.symm.trans happly
  · intro h
    cases happly : apply direction casts row with
    | ok result => exact .inl ⟨result, rfl⟩
    | error e =>
      obtain ⟨⟨column, tag⟩, before, after, hshape, hbefore, hfails⟩ := (apply_eq_error_iff hcasts).1 happly
      obtain ⟨cast, hcast⟩ : ∃ cast, Cast.ofName? tag = some cast := hnames (column, tag) (by rw [hshape]; simp)
      obtain rfl := Cast.name_of_ofName? hcast
      have hthere : (row.value column).isNull = false := by
        by_contra hnull
        rw [convertNamed, if_pos (by simpa using hnull)] at hfails
        cases hfails
      rw [convertNamed_of_cast hcast hthere] at hfails
      obtain ⟨reason, rfl⟩ := Cast.refuse_of_not_escapes (h before column cast after hshape hbefore) hfails
      exact .inr ⟨column, cast, reason, by rw [hshape]; simp, hfails, happly⟩

/-- A list in a number column is refused, before the octets behind it can escape. -/
theorem list_of_ages_refused :
    let casts := [("age", "number"), ("name", "string")]
    let row : Row := [("name", .bytes [255]), ("age", .list [.int 7])]
    ((casts.map Prod.fst).Nodup ∧ ∀ p ∈ casts, ∃ cast, Cast.ofName? p.2 = some cast) ∧
      ((∃ result, apply .fromStorage casts row = .ok result) ∨ Refuse .fromStorage casts row) := by
  intro casts row
  have hcasts : (casts.map Prod.fst).Nodup := by decide
  have hnames : ∀ p ∈ casts, ∃ cast, Cast.ofName? p.2 = some cast := by
    simp only [casts, List.forall_mem_cons]
    exact ⟨⟨.number, rfl⟩, ⟨.string, rfl⟩, nofun⟩
  refine ⟨⟨hcasts, hnames⟩, (returns_or_refuses_iff .fromStorage hcasts hnames row).2 ?_⟩
  intro before column cast after hshape hbefore
  cases before with
  | nil =>
    obtain ⟨rfl, hname⟩ := Prod.mk.inj (List.cons.inj hshape).1
    have hcast : Cast.ofName? "number" = some cast := hname ▸ cast.ofName?_name
    cases hcast
    exact fun h => h rfl
  | cons p rest =>
    obtain ⟨rfl, -⟩ := List.cons.inj hshape
    obtain ⟨v, hv⟩ := hbefore _ List.mem_cons_self
    cases hv

/-- Octets that are no text leave a text column with another error than the fault. -/
theorem broken_octets_not_refused :
    let casts := [("name", "string")]
    let row : Row := [("name", .bytes [255])]
    ((casts.map Prod.fst).Nodup ∧ ∀ p ∈ casts, ∃ cast, Cast.ofName? p.2 = some cast) ∧
      ¬ ((∃ result, apply .fromStorage casts row = .ok result) ∨ Refuse .fromStorage casts row) := by
  intro casts row
  have hnames : ∀ p ∈ casts, ∃ cast, Cast.ofName? p.2 = some cast := by
    simp only [casts, List.forall_mem_cons]
    exact ⟨⟨.string, rfl⟩, nofun⟩
  have happly : apply .fromStorage casts row = .error (.ofPlain .decode "the octets are not UTF-8") := rfl
  refine ⟨⟨by decide, hnames⟩, ?_⟩
  rintro (⟨result, h⟩ | ⟨column, cast, reason, -, -, h⟩)
  · cases happly.symm.trans h
  · cases happly.symm.trans h

end Casts

end RecordMapper
