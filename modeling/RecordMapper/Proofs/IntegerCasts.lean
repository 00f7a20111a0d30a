import RecordMapper.Proofs.CastRows
import RecordMapper.Proofs.IntegerTexts
import RecordMapper.Proofs.NearestNumber

/-!
Integers in number columns. An integer stays what it is. The text of an integer is read as a float: the digits are taken
as they stand (`Numeral.readFloat?_toString`), and the float nearest to them is made an integer again. Main statement:
what comes out is the integer that the text writes exactly if it is one that floats have, 53 bits and a power of two.
-/
namespace RecordMapper

open Binary64

namespace Numeral

open Text

/-! ### Integers read as floats -/

theorem dropUnderscores?_eq_self : ∀ {s : List Char} {previous : Char}, previous ≠ '_' → '_' ∉ s →
    dropUnderscores? previous s = some s
  | [], previous, hprevious, _ => by simp [dropUnderscores?, hprevious]
  | c :: rest, previous, hprevious, hs => by
    obtain ⟨hc, hrest⟩ := not_or.1 (List.mem_cons.not.1 hs)
    simp [dropUnderscores?, Ne.symm hc, hprevious, dropUnderscores?_eq_self (Ne.symm hc) hrest]

theorem spanDigits_of_isDigit {s : List Char} (hs : ∀ c ∈ s, c.isDigit = true) :
    spanDigits s = (s.map fun c => c.toNat - 48, []) := by
  have hdigits : s.filterMap asciiDigit? = s.map fun c => c.toNat - 48 := by
    rw [← List.filterMap_eq_map]
    refine List.filterMap_congr fun c hc => ?_
    rw [asciiDigit?, if_pos (hs c hc)]
    rfl
  rw [spanDigits, List.takeWhile_eq_self_iff.2 hs, List.dropWhile_eq_nil_iff.2 hs, hdigits]

/-- Digits alone are a decimal without a fraction and an exponent. -/
theorem readMagnitude?_of_isDigit (negative : Bool) {s : List Char} (hs : ∀ c ∈ s, c.isDigit = true) (hne : s ≠ []) :
    readMagnitude? negative s = some (scientific negative (s.map fun c => c.toNat - 48) 0) := by
  have hmap : (s.map fun c => c.toNat - 48).isEmpty = false := by simpa using hne
  simp [readMagnitude?, spanDigits_of_isDigit hs, hmap, readExponent?]

/-- The digits of a number begin with the digit zero only if it is zero. -/
theorem dropWhile_toDigits {n : Nat} (hn : 0 < n) :
    ((Nat.toDigits 10 n).map fun c => c.toNat - 48).dropWhile (· == 0) =
      (Nat.toDigits 10 n).map fun c => c.toNat - 48 := by
  obtain ⟨c, rest, hdigits, hc⟩ := toDigits_eq_cons n
  have hne : c ≠ '0' := by
    rintro rfl
    exact head?_toDigits hn (by rw [hdigits, List.head?_cons])
  have hrange := toNat_of_isDigit hc
  have hcode : c.toNat ≠ 48 := fun h => hne (Char.toNat_inj.1 h)
  rw [hdigits, List.map_cons, List.dropWhile_cons_of_neg]
  simp only [beq_iff_eq]
  omega

/-- The digits of a number are worth the number, unless it is beyond all floats anyway. -/
theorem scientific_toDigits (negative : Bool) (n : Nat) :
    scientific negative ((Nat.toDigits 10 n).map fun c => c.toNat - 48) 0 =
      if (Nat.toDigits 10 n).length ≤ 400 then nearest negative n 1 else infinity negative := by
  rcases n.eq_zero_or_pos with rfl | hn
  · have hzero : Nat.toDigits 10 0 = ['0'] := rfl
    have hnone : (['0'].map fun c : Char => c.toNat - 48).dropWhile (· == 0) = [] := rfl
    rw [hzero, scientific, hnone, if_pos (by decide), if_pos (by decide)]
  · have hvalue : ofDigits ((Nat.toDigits 10 n).map fun c => c.toNat - 48) * pow10 (0 : Int).toNat = n := by
      rw [ofDigits_map, Nat.ofDigitChars_ten_toDigits]
      exact Nat.mul_one n
    have hdigits : ((Nat.toDigits 10 n).map fun c => c.toNat - 48).isEmpty = false := by
      simp
    have hsmall : ¬ (0 + ((Nat.toDigits 10 n).length : Int) < -400) := by omega
    simp only [scientific, dropWhile_toDigits hn, hdigits, List.length_map, hsmall, decide_false, Bool.or_self,
      Bool.false_eq_true, if_false, hvalue]
    by_cases hlong : (Nat.toDigits 10 n).length ≤ 400
    · rw [if_pos hlong, if_neg (by omega), if_pos (by decide)]
    · rw [if_neg hlong, if_pos (by omega)]

/-- The text of an integer is digits, behind a dash or not. -/
theorem mem_signed {n : Int} {c : Char} (h : c ∈ signOf n ++ Nat.toDigits 10 n.natAbs) :
    c = '-' ∨ c.isDigit = true := by
  rcases List.mem_append.1 h with h | h
  · rw [signOf] at h
    split at h
    · exact .inl (List.mem_singleton.1 h)
    · cases h
  · exact .inr (isDigit_of_mem_toDigits h)

/-- The text of an integer is read as it stands. -/
theorem cleaned_signed (n : Int) :
    dropUnderscores? ' ' (trimWhile isSpace (narrow (signOf n ++ Nat.toDigits 10 n.natAbs))) =
      some (signOf n ++ Nat.toDigits 10 n.natAbs) := by
  have hascii : (signOf n ++ Nat.toDigits 10 n.natAbs).all (·.toNat < 128) = true := by
    refine List.all_eq_true.2 fun c hc => decide_eq_true ?_
    rcases mem_signed hc with rfl | hdigit
    · decide
    · exact lt_of_isDigit hdigit
  have hspace : ∀ c ∈ signOf n ++ Nat.toDigits 10 n.natAbs, isSpace c = false := by
    intro c hc
    rcases mem_signed hc with rfl | hdigit
    · rfl
    · exact isSpace_of_isDigit hdigit
  have hplain : '_' ∉ signOf n ++ Nat.toDigits 10 n.natAbs := by
    intro h
    rcases mem_signed h with h | h
    · cases h
    · cases h
  rw [narrow, if_pos hascii, trimWhile_eq_self (fun c hc => hspace c (List.mem_of_mem_head? hc))
    fun c hc => hspace c (List.mem_of_mem_getLast? hc)]
  exact dropUnderscores?_eq_self (by decide) hplain

theorem takeSign_signed (n : Int) :
    takeSign (signOf n ++ Nat.toDigits 10 n.natAbs) = (decide (n < 0), Nat.toDigits 10 n.natAbs) := by
  obtain ⟨c, rest, hdigits, hc⟩ := toDigits_eq_cons n.natAbs
  rw [signOf, hdigits]
  split
  · rename_i hsign
    rw [decide_eq_true hsign]
    rfl
  · rename_i hsign
    rw [decide_eq_false hsign, List.nil_append, takeSign]
    · rintro rest' ⟨⟩
      cases hc
    · rintro rest' ⟨⟩
      cases hc

theorem not_isUpper_of_isDigit {c : Char} (h : c.isDigit = true) : ¬ c.isUpper = true := by
  simp only [Char.isUpper, decide_eq_true_eq, not_and]
  intro hlow
  have hletter : 65 ≤ c.toNat := UInt32.le_iff_toNat_le.1 hlow
  have := toNat_of_isDigit h
  omega

/-- Digits spell no word. -/
theorem ofList_map_toLower_ne {s : List Char} (hs : ∀ c ∈ s, c.isDigit = true) (hne : s ≠ []) (d : Char)
    (rest : List Char) (hd : d.isDigit = false) :
    (String.ofList (s.map Char.toLower) == String.ofList (d :: rest)) = false := by
  cases s with
  | nil => exact absurd rfl hne
  | cons c tail =>
    have hc := hs c List.mem_cons_self
    have hlower : c.toLower = c := Char.toLower_eq_of_not_isUpper (not_isUpper_of_isDigit hc)
    refine beq_false_of_ne fun h => ne_of_isDigit hc hd ?_
    rw [String.ofList_inj, List.map_cons, hlower] at h
    exact (List.cons.inj h).1

/-- The float that is read from the text of an integer. -/
def floatRead (n : Int) : Float :=
  if (Nat.toDigits 10 n.natAbs).length ≤ 400 then ofInt n else infinity (n < 0)

theorem readFloat?_toString (n : Int) : readFloat? (toString n).toList = some (floatRead n) := by
  have hs : ∀ c ∈ Nat.toDigits 10 n.natAbs, c.isDigit = true := fun c hc => isDigit_of_mem_toDigits hc
  have hne : Nat.toDigits 10 n.natAbs ≠ [] := Nat.toDigits_ne_nil
  have hinf := ofList_map_toLower_ne hs hne 'i' ['n', 'f'] rfl
  have hinfinity := ofList_map_toLower_ne hs hne 'i' ['n', 'f', 'i', 'n', 'i', 't', 'y'] rfl
  have hnan := ofList_map_toLower_ne hs hne 'n' ['a', 'n'] rfl
  rw [toList_toString, readFloat?, cleaned_signed]
  dsimp only
  rw [takeSign_signed]
  simp only [hinf, hinfinity, hnan, Bool.or_self, Bool.false_eq_true, if_false, readMagnitude?_of_isDigit _ hs hne,
    scientific_toDigits, floatRead, ofInt]

end Numeral

namespace Binary64

/-! ### Integers that floats have -/

/-- A natural number is representable exactly if it is 53 bits and a power of two. -/
theorem representable_natCast_iff (n : ℕ) : Representable n ↔ ∃ m k : ℕ, m < 2 ^ 53 ∧ n = m * 2 ^ k := by
  constructor
  · rintro ⟨m, e, hcanonical, hvalue⟩
    rcases le_or_gt 0 e with he | he
    · lift e to ℕ using he
      refine ⟨m, e, hcanonical.fits, ?_⟩
      rw [zpow_natCast] at hvalue
      exact_mod_cast hvalue.symm
    · -- a number with a negative exponent is at most its mantissa
      refine ⟨n, 0, lt_of_le_of_lt ?_ hcanonical.fits, (Nat.mul_one n).symm⟩
      have hle : (n : ℚ) ≤ m := by
        rw [← hvalue]
        exact mul_le_of_le_one_right (Nat.cast_nonneg m) (zpow_le_one_of_nonpos₀ one_le_two he.le)
      exact_mod_cast hle
  · rintro ⟨m, k, hm, rfl⟩
    have := representable_of_lt hm (show -1074 ≤ (k : ℤ) by omega)
    rw [zpow_natCast] at this
    exact_mod_cast this

/-- The integer is one that floats have: 53 bits and a power of two, and not beyond the greatest float. -/
def HasInteger (n : Int) : Prop :=
  (∃ m k : ℕ, m < 2 ^ 53 ∧ n.natAbs = m * 2 ^ k) ∧ n.natAbs < 2 ^ 1024

/-- An integer is rounded to itself exactly if it is one that floats have. -/
theorem value?_ofInt_iff (n : Int) : value? (ofInt n) = some (Extended.ofRat n) ↔ HasInteger n := by
  have hsign (r : ℚ) : (if decide (n < 0) = true then -r else r) = n ↔ r = n.natAbs := by
    rw [Nat.cast_natAbs, Int.cast_abs]
    split
    · rename_i h
      have : (n : ℚ) < 0 := by exact_mod_cast of_decide_eq_true h
      rw [abs_of_neg this, neg_eq_iff_eq_neg]
    · rename_i h
      have : (0 : ℚ) ≤ n := by exact_mod_cast Int.not_lt.1 fun hn => h (decide_eq_true hn)
      rw [abs_of_nonneg this]
  have hkept : rounded n.natAbs 1 = n.natAbs ↔ ∃ m k : ℕ, m < 2 ^ 53 ∧ n.natAbs = m * 2 ^ k := by
    rw [← representable_natCast_iff]
    refine ⟨fun h => h ▸ representable_rounded n.natAbs Nat.one_pos, fun h => ?_⟩
    simpa using @rounded_eq n.natAbs 1 Nat.one_pos (by simpa using h)
  rw [ofInt, value?_nearest _ _ Nat.one_pos, Option.some.injEq, HasInteger, ← hkept]
  constructor
  · intro h
    split at h
    · rename_i hlimit
      have hround := (hsign _).1 (Extended.ofRat_inj.1 h)
      rw [hround] at hlimit
      exact ⟨hround, by exact_mod_cast hlimit⟩
    · exact absurd h (Extended.unbounded_ne_ofRat _ _)
  · rintro ⟨hround, hlimit⟩
    rw [hround, if_pos (by exact_mod_cast hlimit), Extended.ofRat_inj, hsign]

theorem rounded_twoPow (k : Nat) : rounded (pow2 k) 1 = 2 ^ k := by
  have hpower := representable_of_lt (show 1 < 2 ^ 53 by decide) (show -1074 ≤ (k : ℤ) by omega)
  rw [Nat.cast_one, one_mul, zpow_natCast] at hpower
  have hquotient : ((pow2 k : ℕ) / (1 : ℕ) : ℚ) = 2 ^ k := by simp [pow2_eq]
  rw [rounded_eq Nat.one_pos (hquotient ▸ hpower), hquotient]

/-- The infinities are beyond all integers. -/
theorem value?_infinity_ne (negative : Bool) (n : Int) : value? (infinity negative) ≠ some (Extended.ofRat n) := by
  have hbeyond : ¬ rounded (pow2 2000) 1 < 2 ^ 1024 := by
    rw [rounded_twoPow]
    exact (pow_le_pow_right₀ one_le_two (by decide)).not_gt
  rw [infinity, value?_nearest _ _ Nat.one_pos, if_neg hbeyond, Ne, Option.some.injEq]
  exact Extended.unbounded_ne_ofRat negative n

end Binary64

namespace Numeral

/-- The float that is read from the text of an integer is this integer exactly if floats have it. -/
theorem toInt?_floatRead (n : Int) : toInt? (floatRead n) = some n ↔ HasInteger n := by
  rw [toInt?_eq_some_iff, floatRead]
  split
  · exact value?_ofInt_iff n
  · rename_i hlong
    have hlength {k : Nat} (hk : 0 < k) (h : n.natAbs < 10 ^ k) : (Nat.toDigits 10 n.natAbs).length ≤ k :=
      (Nat.length_toDigits_le_iff (by decide) hk).2 h
    have hlimit : 2 ^ 1024 ≤ 10 ^ 400 := by
      rw [show 1024 = 64 * 16 from rfl, show 400 = 25 * 16 from rfl, Nat.pow_mul, Nat.pow_mul]
      exact Nat.pow_le_pow_left (by decide) 16
    exact iff_of_false (value?_infinity_ne _ n) fun h => hlong (hlength (by decide) (h.2.trans_le hlimit))

end Numeral

namespace Casts

/-- A number column has what the cast makes of the value in it. -/
theorem apply_number {direction : Direction} {column : String} {v w : Value} (hv : v.isNull = false)
    (h : Cast.castNumber column v = .ok w) :
    apply direction [(column, "number")] [(column, v)] = .ok [(column, w)] := by
  have hcolumn : Row.value [(column, v)] column = v := by simp [Row.value, Row.value?]
  have hset : Row.set column w [(column, v)] = [(column, w)] := by simp [Row.set]
  have hconvert : Cast.number.convert direction column v = .ok w := by rw [Cast.convert, h]
  have hcast : Cast.ofName? "number" = some Cast.number := rfl
  rw [apply, applyOne, hcolumn, if_neg (by simp [hv]), hcast]
  dsimp only
  rw [hconvert, Except.map, hset]
  rfl

/-- The text of an integer is a number, an integer if the float that is read from it is one. -/
theorem castNumber_toString (column : String) (n : Int) :
    Cast.castNumber column (.text (toString n)) =
      .ok (match toInt? (Numeral.floatRead n) with | some r => .int r | none => .real (Numeral.floatRead n)) := by
  rw [Cast.castNumber, Cast.toFloat, Numeral.readFloat?_toString, ok_bind]
  · dsimp only
    cases toInt? (Numeral.floatRead n) <;> rfl
  · nofun
  · nofun

/-- A number column keeps every integer. From the text of one it always gets a number, and the integer that the text
writes exactly if it is one that floats have. -/
theorem apply_number_integer (direction : Direction) (column : String) (n : Int) :
    apply direction [(column, "number")] [(column, .int n)] = .ok [(column, .int n)] ∧
      ∃ v, apply direction [(column, "number")] [(column, .text (toString n))] = .ok [(column, v)] ∧
        (v = .int n ↔ HasInteger n) := by
  refine ⟨apply_number rfl rfl, _, apply_number rfl (castNumber_toString column n), ?_⟩
  rw [← Numeral.toInt?_floatRead]
  cases toInt? (Numeral.floatRead n) with
  | none => simp
  | some r => simp

/-- The first integer that no float has: its text loses a unit. -/
theorem odd_text_loses_unit :
    apply .fromStorage [("id", "number")] [("id", .int 9007199254740993)] = .ok [("id", .int 9007199254740993)] ∧
      apply .fromStorage [("id", "number")] [("id", .text (toString (9007199254740993 : Int)))] =
        .ok [("id", .int 9007199254740992)] := by
  have hread : toInt? (Numeral.floatRead 9007199254740993) = some 9007199254740992 := by decide +kernel
  refine ⟨apply_number rfl rfl, apply_number rfl ?_⟩
  rw [castNumber_toString, hread]

end Casts

end RecordMapper
