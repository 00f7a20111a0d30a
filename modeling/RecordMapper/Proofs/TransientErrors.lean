import RecordMapper.Fault.Transient

/-!
Which errors may pass. A code can be found in three places of an error: one that it was given, the number of a system
error, and a number among its arguments. Main statement: an error may pass if its kind, its number or a phrase of its
text says so, or a listed code in any of the three places; but only a code that it was given counts if it was given
one. So an error that may pass by its leading number does not pass any more once it is given a code of another list.
-/
namespace RecordMapper

namespace Text

theorem isSome_after?_iff {start s : List Char} : (after? start s).isSome = true ↔ start <+: s := by
  induction start generalizing s with
  | nil => exact iff_of_true rfl List.nil_prefix
  | cons p start ih =>
    cases s with
    | nil => exact iff_of_false Bool.false_ne_true nofun
    | cons c s =>
      rw [after?, List.cons_prefix_cons]
      by_cases h : p = c
      · rw [if_pos (beq_iff_eq.2 h), ih, and_iff_right h]
      · rw [if_neg (mt beq_iff_eq.1 h)]
        exact iff_of_false Bool.false_ne_true fun hc => h hc.1

theorem hasInfix_iff {part s : List Char} : hasInfix part s = true ↔ part <:+: s := by
  induction s with
  | nil => rw [hasInfix, List.isEmpty_iff, List.infix_nil]
  | cons c rest ih => rw [hasInfix, Bool.or_eq_true, isSome_after?_iff, ih, List.infix_cons_iff]

end Text

/-- A code on one of the two lists: a number, or a name in letters of any case. -/
inductive Value.IsListedCode : Value → Prop
  | number {n : Int} (h : n ∈ PlainError.transientCodes) : IsListedCode (.int n)
  | name {s : String} (h : Text.toCapitals s ∈ PlainError.transientNames) : IsListedCode (.text s)

theorem Value.IsListedCode.ne_null {v : Value} (h : v.IsListedCode) : v ≠ .null := by
  rintro rfl
  cases h

theorem Value.isNull_of_ne {v : Value} (h : v ≠ .null) : v.isNull = false := by
  cases v with
  | null => exact absurd rfl h
  | _ => rfl

/-- Where a code of an error may be found. -/
inductive CodeSource where
  | given
  | system
  | leading
  deriving DecidableEq

namespace PlainError

/-- What is found there, `null` if nothing is. -/
def codeAt (e : PlainError) : CodeSource → Value
  | .given => e.code.getD .null
  | .system => e.number
  | .leading => e.leadingNumber

/-- What an error may pass for, whatever its codes are. -/
inductive Ground (e : PlainError) : Prop
  | connection (h : e.kind.isConnection = true)
  | timeout (h : e.kind = .timeout)
  | number {n : Int} (hkind : e.kind.isSystem = true) (hn : n ∈ transientNumbers)
      (h : Value.sameKey (.int n) e.number = true)
  | phrase {p : String} (hp : p ∈ transientPhrases) (h : p.toList <:+: (Text.toSmall e.text).toList)

theorem isTransientCode_iff {v : Value} : isTransientCode v = true ↔ v.IsListedCode := by
  constructor
  · intro h
    cases v with
    | int n => exact .number (List.contains_iff_mem.1 h)
    | text s => exact .name (List.contains_iff_mem.1 h)
    | _ => cases h
  · rintro (h | h)
    · exact List.contains_iff_mem.2 h
    · exact List.contains_iff_mem.2 h

theorem hasTransientPhrase_iff {text : String} :
    hasTransientPhrase text = true ↔ ∃ p ∈ transientPhrases, p.toList <:+: (Text.toSmall text).toList := by
  simp only [hasTransientPhrase, List.any_eq_true, Text.hasInfix_iff]

theorem hasTransientNumber_iff {e : PlainError} :
    e.hasTransientNumber = true ↔
      e.kind.isSystem = true ∧ ∃ n ∈ transientNumbers, Value.sameKey (.int n) e.number = true := by
  rw [hasTransientNumber, Bool.and_eq_true, List.any_eq_true]

theorem isTransient_iff {e : PlainError} : e.isTransient = true ↔ e.Ground ∨ e.errorCode.IsListedCode := by
  simp only [isTransient, Bool.or_eq_true, beq_iff_eq, hasTransientNumber_iff, hasTransientPhrase_iff,
    isTransientCode_iff]
  constructor
  · rintro ((((h | h) | ⟨hkind, n, hn, h⟩) | h) | ⟨p, hp, h⟩)
    · exact .inl (.connection h)
    · exact .inl (.timeout h)
    · exact .inl (.number hkind hn h)
    · exact .inr h
    · exact .inl (.phrase hp h)
  · rintro ((h | h | ⟨hkind, hn, h⟩ | ⟨hp, h⟩) | h)
    · exact .inl (.inl (.inl (.inl h)))
    · exact .inl (.inl (.inl (.inr h)))
    · exact .inl (.inl (.inr ⟨hkind, _, hn, h⟩))
    · exact .inr ⟨_, hp, h⟩
    · exact .inl (.inr h)

/-! ### Codes -/

/-- The number of a system error is its first argument. -/
theorem args_of_number {e : PlainError} (h : e.number ≠ .null) : ∃ rest, e.args = e.number :: rest := by
  obtain ⟨kind, args, code, files⟩ := e
  cases args with
  | nil => exact absurd rfl h
  | cons n args =>
    cases args with
    | nil => exact absurd rfl h
    | cons t rest =>
      rw [number, numbered?] at h ⊢
      split at h
      · rename_i hkind
        rw [if_pos hkind]
        exact ⟨t :: rest, rfl⟩
      · exact absurd rfl h

/-- If an error with a number has a listed code in the lead, that is the number. -/
theorem number_eq_leadingNumber {e : PlainError} (h : e.number ≠ .null) (hlead : e.leadingNumber.IsListedCode) :
    e.number = e.leadingNumber := by
  obtain ⟨rest, hargs⟩ := args_of_number h
  rw [leadingNumber, hargs] at hlead ⊢
  cases hn : e.number with
  | null => exact absurd hn h
  | int | bool => rfl
  | _ =>
    rw [hn] at hlead
    cases hlead

theorem errorCode_of_given {e : PlainError} (h : e.codeAt .given ≠ .null) : e.errorCode = e.codeAt .given := by
  have hsome : (e.codeAt .given).isNull = false := Value.isNull_of_ne h
  simp only [codeAt] at hsome ⊢
  rw [errorCode, hsome, Bool.not_false, if_pos rfl]

theorem errorCode_of_number {e : PlainError} (hgiven : e.codeAt .given = .null) (h : e.number ≠ .null) :
    e.errorCode = e.number := by
  simp only [codeAt] at hgiven
  rw [errorCode, hgiven, Value.isNull_of_ne h]
  rfl

theorem errorCode_of_leading {e : PlainError} (hgiven : e.codeAt .given = .null) (h : e.number = .null) :
    e.errorCode = e.leadingNumber := by
  simp only [codeAt] at hgiven
  rw [errorCode, hgiven, h]
  rfl

/-- The code of an error is listed if a listed one is found in some place, where only a code that the error was given
hides those in other places. -/
theorem isListedCode_errorCode {e : PlainError} :
    e.errorCode.IsListedCode ↔
      ∃ source, (e.codeAt source).IsListedCode ∧ (source = .given ∨ e.codeAt .given = .null) := by
  constructor
  · intro h
    by_cases hgiven : e.codeAt .given = .null
    · by_cases hnumber : e.number = .null
      · rw [errorCode_of_leading hgiven hnumber] at h
        exact ⟨.leading, h, .inr hgiven⟩
      · rw [errorCode_of_number hgiven hnumber] at h
        exact ⟨.system, h, .inr hgiven⟩
    · rw [errorCode_of_given hgiven] at h
      exact ⟨.given, h, .inl rfl⟩
  · rintro ⟨source, h, hshown⟩
    by_cases hgiven : e.codeAt .given = .null
    · cases source with
      | given =>
        rw [hgiven] at h
        cases h
      | system =>
        rw [errorCode_of_number hgiven h.ne_null]
        exact h
      | leading =>
        by_cases hnumber : e.number = .null
        · rw [errorCode_of_leading hgiven hnumber]
          exact h
        -- The number goes first, but it can only be the same code.
        · rw [errorCode_of_number hgiven hnumber, number_eq_leadingNumber hnumber h]
          exact h
    · obtain rfl := hshown.resolve_right hgiven
      rw [errorCode_of_given hgiven]
      exact h

/-! ### Another code -/

/-- What an error passes for apart from its codes does not depend on the code that it was given. -/
theorem Ground.withCode {e : PlainError} (h : e.Ground) (code : Option Value) : ({ e with code } : PlainError).Ground :=
  match h with
  | .connection h => .connection h
  | .timeout h => .timeout h
  | .number hkind hn h => .number hkind hn h
  | .phrase hp h => .phrase hp h

/-- Any error that is no fault. It may pass exactly if it has a ground apart from its codes or a listed code in one of
the three places, where a code that it was given hides those in the other two. Hence, with a code given to it, it may
pass exactly if it has a ground apart from its codes or that code is listed, whatever it did before. -/
theorem transient_iff_ground_or_code (e : PlainError) :
    ((Error.plain e).isTransient = true ↔
        e.Ground ∨ ∃ source, (e.codeAt source).IsListedCode ∧ (source = .given ∨ e.codeAt .given = .null)) ∧
      ∀ c, c ≠ .null →
        ((Error.plain { e with code := some c }).isTransient = true ↔ e.Ground ∨ c.IsListedCode) := by
  refine ⟨isTransient_iff.trans (or_congr Iff.rfl isListedCode_errorCode), fun c hc => ?_⟩
  have hcode : ({ e with code := some c } : PlainError).errorCode = c := errorCode_of_given hc
  have hground : ({ e with code := some c } : PlainError).Ground ↔ e.Ground :=
    ⟨fun h => h.withCode e.code, fun h => h.withCode (some c)⟩
  exact isTransient_iff.trans (or_congr hground (by rw [hcode]))

/-- An error of a driver that says by its number that the server has gone. -/
def gone : PlainError := ⟨.driver, [.int 2006, .text "gone"], none, []⟩

/-- It may pass, and still may with the name of a broken connection for a code, in small letters. -/
theorem gone_isTransient :
    (Error.plain gone).isTransient = true ∧
      Value.text "econnreset" ≠ .null ∧
      (Error.plain { gone with code := some (.text "econnreset") }).isTransient = true := by
  have hnumber : (gone.codeAt .leading).IsListedCode := .number (by decide)
  have hname : (Value.text "econnreset").IsListedCode := .name (by decide)
  obtain ⟨halone, hcoded⟩ := transient_iff_ground_or_code gone
  exact ⟨halone.2 (.inr ⟨.leading, hnumber, .inr rfl⟩), hname.ne_null, (hcoded _ hname.ne_null).2 (.inr hname)⟩

/-- Given the code of a state, it does not pass any more, though its number is listed as before. -/
theorem gone_hidden_by_code :
    (Error.plain gone).isTransient = true ∧
      (Error.plain { gone with code := some (.text "HY000") }).isTransient = false ∧
      ({ gone with code := some (.text "HY000") } : PlainError).leadingNumber.IsListedCode :=
  ⟨by decide, by decide, .number (by decide)⟩

end PlainError

end RecordMapper
