import RecordMapper.Proofs.DoubledNumber

/-!
The float nearest to a quotient. `Binary64.rounded` is the quotient rounded to the multiple of a power of two that its
size allows, and the nearest float stands for it, or is an infinity beyond the greatest float
(`Binary64.parts_nearest`). Main statements: rounding does not pass by a number that is itself a float
(`Binary64.le_rounded`, `Binary64.rounded_le`), so it keeps each such number (`Binary64.rounded_eq`).
-/
namespace RecordMapper

open Float.Model Float.Model.UnpackedFloat

namespace Binary64

/-! ### Quotients scaled by a power of two -/

theorem pow2_eq (k : Nat) : pow2 k = 2 ^ k := rfl

/-- Scaling divides the quotient by the power of two, and keeps the denominator positive. -/
theorem scaled_quotient (num : Nat) {den : Nat} (hden : 0 < den) (q : Int) :
    0 < (scaled num den q).2 ∧ ((scaled num den q).1 / (scaled num den q).2 : ℚ) = num / den / 2 ^ q := by
  rw [scaled]
  split
  · rename_i hq
    lift q to ℕ using hq
    refine ⟨Nat.mul_pos hden (Nat.two_pow_pos _), ?_⟩
    simp only [pow2_eq, Int.toNat_natCast, Nat.cast_mul, Nat.cast_pow, Nat.cast_ofNat, zpow_natCast]
    exact (div_div _ _ _).symm
  · rename_i hq
    obtain ⟨k, rfl⟩ : ∃ k : ℕ, q = -k := ⟨(-q).toNat, by omega⟩
    refine ⟨hden, ?_⟩
    simp only [pow2_eq, neg_neg, Int.toNat_natCast, Nat.cast_mul, Nat.cast_pow, Nat.cast_ofNat, zpow_neg, zpow_natCast,
      div_inv_eq_mul]
    ring

/-- A power of two is at most the whole part of a scaled quotient exactly if it is at most the quotient itself. -/
theorem pow2_le_scaled_iff (num : Nat) {den : Nat} (hden : 0 < den) (q : Int) (k : Nat) :
    pow2 k ≤ (scaled num den q).1 / (scaled num den q).2 ↔ (2 : ℚ) ^ (q + k) ≤ num / den := by
  obtain ⟨hpos, hquotient⟩ := scaled_quotient num hden q
  have hpos' : (0 : ℚ) < (scaled num den q).2 := by exact_mod_cast hpos
  have hscale : (0 : ℚ) < 2 ^ q := by positivity
  calc pow2 k ≤ (scaled num den q).1 / (scaled num den q).2
      ↔ (2 : ℚ) ^ k ≤ (scaled num den q).1 / (scaled num den q).2 := by
        rw [pow2_eq, Nat.le_div_iff_mul_le hpos, le_div_iff₀ hpos']
        norm_cast
    _ ↔ (2 : ℚ) ^ (q + k) ≤ num / den := by
        rw [hquotient, le_div_iff₀ hscale, zpow_add₀ two_ne_zero, zpow_natCast, mul_comm]

/-- The size of a natural number by its binary logarithm. -/
theorem log2_bounds {n : Nat} (hn : 0 < n) : (2 : ℚ) ^ (n.log2 : ℤ) ≤ n ∧ (n : ℚ) < 2 ^ ((n.log2 : ℤ) + 1) := by
  have hlow : 2 ^ n.log2 ≤ n := Nat.log2_self_le hn.ne'
  have hhigh : n < 2 ^ (n.log2 + 1) := Nat.lt_log2_self
  exact ⟨by exact_mod_cast hlow, by exact_mod_cast hhigh⟩

/-- The size of a quotient by the binary logarithms of its terms. -/
theorem quotient_bounds {num den : Nat} (hnum : 0 < num) (hden : 0 < den) :
    (2 : ℚ) ^ ((num.log2 : ℤ) - den.log2 - 1) ≤ num / den ∧ (num / den : ℚ) < 2 ^ ((num.log2 : ℤ) - den.log2 + 1) := by
  obtain ⟨hnumLow, hnumHigh⟩ := log2_bounds hnum
  obtain ⟨hdenLow, hdenHigh⟩ := log2_bounds hden
  have hden' : (0 : ℚ) < den := by exact_mod_cast hden
  constructor
  · rw [le_div_iff₀ hden']
    calc (2 : ℚ) ^ ((num.log2 : ℤ) - den.log2 - 1) * den
        ≤ 2 ^ ((num.log2 : ℤ) - den.log2 - 1) * 2 ^ ((den.log2 : ℤ) + 1) := by gcongr
      _ = 2 ^ (num.log2 : ℤ) := by rw [← zpow_add₀ two_ne_zero]; congr 1; ring
      _ ≤ num := hnumLow
  · rw [div_lt_iff₀ hden']
    calc (num : ℚ) < 2 ^ ((num.log2 : ℤ) + 1) := hnumHigh
      _ = 2 ^ ((num.log2 : ℤ) - den.log2 + 1) * 2 ^ (den.log2 : ℤ) := by
        rw [← zpow_add₀ two_ne_zero]; congr 1; ring
      _ ≤ 2 ^ ((num.log2 : ℤ) - den.log2 + 1) * den := by gcongr

/-- The exponent of a quotient leaves 53 bits, fewer only at the least exponent. -/
theorem exponentOf_spec {num den : Nat} (hnum : 0 < num) (hden : 0 < den) :
    -1074 ≤ exponentOf num den ∧ (num / den : ℚ) < 2 ^ (exponentOf num den + 53) ∧
      ((2 : ℚ) ^ (exponentOf num den + 52) ≤ num / den ∨ exponentOf num den = -1074) := by
  obtain ⟨hlow, hhigh⟩ := quotient_bounds hnum hden
  have hmono {a b : ℤ} (h : a ≤ b) : (2 : ℚ) ^ a ≤ 2 ^ b := zpow_le_zpow_right₀ one_le_two h
  -- the guess is the exponent or one too large
  obtain ⟨e, hexponent, hbelow, habove⟩ : ∃ e : ℤ, exponentOf num den = max (-1074) e ∧
      (num / den : ℚ) < 2 ^ (e + 53) ∧ (2 : ℚ) ^ (e + 52) ≤ num / den := by
    set guess : ℤ := (num.log2 : ℤ) - den.log2 - 52 with hguess
    have hfits : ¬ pow2 53 ≤ (scaled num den guess).1 / (scaled num den guess).2 := by
      rw [pow2_le_scaled_iff num hden]
      exact (hhigh.trans_le (hmono (by omega))).not_ge
    have hbits := pow2_le_scaled_iff num hden guess 52
    simp only [exponentOf, ← hguess, ge_iff_le, if_neg hfits]
    by_cases hfull : pow2 52 ≤ (scaled num den guess).1 / (scaled num den guess).2
    · rw [if_neg hfull.not_gt]
      exact ⟨guess, rfl, hhigh.trans_le (hmono (by omega)), hbits.1 hfull⟩
    · rw [if_pos (Nat.lt_of_not_le hfull)]
      refine ⟨guess - 1, rfl, (lt_of_not_ge (mt hbits.2 hfull)).trans_le (hmono ?_), (hmono ?_).trans hlow⟩ <;> omega
  rw [hexponent]
  refine ⟨le_max_left _ _, hbelow.trans_le (hmono (by omega)), ?_⟩
  rcases le_total e (-1074) with he | he
  · exact .inr (max_eq_left he)
  · rw [max_eq_right he]
    exact .inl habove

/-! ### Rounding to a whole number -/

/-- What is rounded to a whole number lies at most a half away from it. -/
theorem roundDiv_near (num : Nat) {den : Nat} (hden : 0 < den) :
    |(roundDiv num den : ℚ) - num / den| ≤ 1 / 2 := by
  have hden' : (0 : ℚ) < den := by exact_mod_cast hden
  have hdivision : den * (num / den) + num % den = num := Nat.div_add_mod num den
  have hmod : num % den < den := Nat.mod_lt _ hden
  have htwice : 2 * (den * roundDiv num den) ≤ 2 * num + den ∧ 2 * num ≤ 2 * (den * roundDiv num den) + den := by
    rw [roundDiv]
    split
    · rename_i hup
      have : den ≤ 2 * (num % den) := by
        simp only [Bool.or_eq_true, Bool.and_eq_true, decide_eq_true_eq, beq_iff_eq] at hup
        omega
      rw [Nat.mul_add, Nat.mul_one]
      omega
    · rename_i hdown
      have : 2 * (num % den) ≤ den := by
        simp only [Bool.or_eq_true, Bool.and_eq_true, decide_eq_true_eq, beq_iff_eq] at hdown
        omega
      omega
  obtain ⟨hle, hge⟩ := htwice
  have hle' : 2 * (den * roundDiv num den : ℚ) ≤ 2 * num + den := by exact_mod_cast hle
  have hge' : (2 * num : ℚ) ≤ 2 * (den * roundDiv num den) + den := by exact_mod_cast hge
  rw [abs_le]
  constructor
  · rw [neg_le_sub_iff_le_add, div_le_iff₀ hden']
    linarith
  · rw [sub_le_iff_le_add, ← sub_le_iff_le_add', le_div_iff₀ hden']
    linarith

/-- Rounding does not go below a whole number that the quotient is not below. -/
theorem le_roundDiv {k : ℕ} {num den : Nat} (hden : 0 < den) (h : (k : ℚ) ≤ num / den) : k ≤ roundDiv num den := by
  have hnear := (abs_le.1 (roundDiv_near num hden)).1
  have : (k : ℚ) < roundDiv num den + 1 := by linarith
  exact Nat.le_of_lt_succ (by exact_mod_cast this)

/-- Rounding does not go above a whole number that the quotient is not above. -/
theorem roundDiv_le {k : ℕ} {num den : Nat} (hden : 0 < den) (h : (num / den : ℚ) ≤ k) : roundDiv num den ≤ k := by
  have hnear := (abs_le.1 (roundDiv_near num hden)).2
  have : (roundDiv num den : ℚ) < k + 1 := by linarith
  exact Nat.le_of_lt_succ (by exact_mod_cast this)

/-- Rounding goes above a whole number from which the quotient is more than a half away. -/
theorem lt_roundDiv {k : ℕ} {num den : Nat} (hden : 0 < den) (h : (k + 1 / 2 : ℚ) < num / den) :
    k < roundDiv num den := by
  have hnear := (abs_le.1 (roundDiv_near num hden)).1
  have : (k : ℚ) < roundDiv num den := by linarith
  exact_mod_cast this

/-! ### Bits and parts -/

/-- The parts of an unpacked float. -/
def partsOf : UnpackedFloat → Parts
  | .notANumber => .nan
  | .infinity s => .infinite (s matches .negative)
  | .zero s => .finite (s matches .negative) 0 (-1074)
  | .finite s m e _ => .finite (s matches .negative) m e

theorem partsOf_ofFields (negative : Bool) (exponent fraction : Nat) :
    partsOf (ofFields (signOf negative) exponent fraction) =
      if exponent = 2047 then if fraction = 0 then .infinite negative else .nan
      else if exponent = 0 then .finite negative fraction (-1074)
      else .finite negative (2 ^ 52 + fraction) (exponent - 1075) := by
  rw [ofFields]
  split
  · split
    · cases negative <;> rfl
    · rfl
  · split
    · split
      · rename_i hzero
        rw [hzero]
        cases negative <;> rfl
      · cases negative <;> rfl
    · cases negative <;> rfl

/-- A float is taken apart into what operations take it for. -/
theorem parts_eq_partsOf (x : Float) : parts x = partsOf x.toModel.unpack := by
  rw [parts_eq, unpack_eq, partsOf_ofFields]

/-- The first bit of a float, which is its sign. -/
def signBit (negative : Bool) : Nat := if negative then pow2 63 else 0

/-- The parts of the float of given fields. -/
theorem parts_ofBits (negative : Bool) {exponent fraction : Nat} (hexponent : exponent < 2 ^ 11)
    (hfraction : fraction < 2 ^ 52) :
    parts (Float.ofBits (signBit negative + (exponent * pow2 52 + fraction)).toUInt64) =
      if exponent = 2047 then if fraction = 0 then .infinite negative else .nan
      else if exponent = 0 then .finite negative fraction (-1074)
      else .finite negative (2 ^ 52 + fraction) (exponent - 1075) := by
  obtain ⟨sign, hsign, hnegative⟩ : ∃ sign : Nat, signBit negative = sign * 2 ^ 63 ∧
      (negative = true ∧ sign = 1 ∨ negative = false ∧ sign = 0) := by
    cases negative
    · exact ⟨0, rfl, .inr ⟨rfl, rfl⟩⟩
    · exact ⟨1, (Nat.one_mul _).symm, .inl ⟨rfl, rfl⟩⟩
  have hbits : (signBit negative + (exponent * pow2 52 + fraction)).toUInt64.toNat =
      sign * 2 ^ 63 + (exponent * 2 ^ 52 + fraction) := by
    rw [Nat.toUInt64, UInt64.toNat_ofNat', hsign, pow2_eq, Nat.mod_eq_of_lt]
    omega
  have hfirst : decide (2 ^ 63 ≤ sign * 2 ^ 63 + (exponent * 2 ^ 52 + fraction)) = negative := by
    rcases hnegative with ⟨rfl, rfl⟩ | ⟨rfl, rfl⟩
    · exact decide_eq_true (by omega)
    · exact decide_eq_false (by omega)
  have hmiddle : (sign * 2 ^ 63 + (exponent * 2 ^ 52 + fraction)) / 2 ^ 52 % 2 ^ 11 = exponent := by omega
  have hlast : (sign * 2 ^ 63 + (exponent * 2 ^ 52 + fraction)) % 2 ^ 52 = fraction := by omega
  rw [parts_eq_partsOf, unpack_ofBits, unpack_eq_ofFields, toNat_unpackExponent, toNat_unpackMantissa,
    ofBitVec_unpackSign, UInt64.toNat_toBitVec, hbits, hfirst, hmiddle, hlast, partsOf_ofFields]

/-- The bits of a canonical number without its sign, those of an infinity beyond the greatest float. -/
def magnitudeOf (m : Nat) (e : Int) : Nat :=
  if m < pow2 52 then m else if e > 971 then 2047 * pow2 52 else (e + 1075).toNat * pow2 52 + (m - pow2 52)

/-- A canonical number is written into bits and read back. -/
theorem parts_magnitudeOf (negative : Bool) {m : Nat} {e : Int} (h : Canonical m e) :
    parts (Float.ofBits (signBit negative + magnitudeOf m e).toUInt64) =
      if e ≤ 971 then .finite negative m e else .infinite negative := by
  obtain ⟨hfits, hleast, hfull⟩ := h
  by_cases hsmall : m < pow2 52
  · have hread := parts_ofBits negative (Nat.two_pow_pos 11) hsmall
    obtain rfl : e = -1074 := hfull.resolve_left hsmall.not_ge
    rw [Nat.zero_mul, Nat.zero_add, if_neg (by decide), if_pos rfl] at hread
    rw [magnitudeOf, if_pos hsmall, hread, if_pos (by decide)]
  · obtain ⟨fraction, rfl⟩ : ∃ fraction, m = pow2 52 + fraction := Nat.exists_eq_add_of_le (Nat.le_of_not_lt hsmall)
    rw [pow2_eq] at hfits
    rw [magnitudeOf, if_neg hsmall]
    by_cases hwithin : e ≤ 971
    · obtain ⟨biased, rfl⟩ : ∃ biased : ℕ, e = (biased : ℤ) - 1075 := ⟨(e + 1075).toNat, by omega⟩
      have hread := @parts_ofBits negative biased fraction (by omega) (by omega)
      rw [if_neg (by omega), if_neg (by omega)] at hread
      rw [if_neg hwithin.not_gt, if_pos hwithin, Int.sub_add_cancel, Int.toNat_natCast, Nat.add_sub_cancel_left, hread]
      rfl
    · have hread := @parts_ofBits negative 2047 0 (by decide) (Nat.two_pow_pos 52)
      rw [Nat.add_zero, if_pos rfl, if_pos rfl] at hread
      rw [if_pos (not_le.1 hwithin), if_neg hwithin, hread]

/-! ### Rounding to a float -/

/-- The whole number of units that a quotient is rounded to, the unit being as small as its size allows. -/
def unitsOf (num den : Nat) : Nat :=
  roundDiv (scaled num den (exponentOf num den)).1 (scaled num den (exponentOf num den)).2

/-- A quotient rounded to a whole number of units. -/
def rounded (num den : Nat) : ℚ := unitsOf num den * 2 ^ exponentOf num den

theorem unitsOf_zero (den : Nat) : unitsOf 0 den = 0 := by
  have hnum : (scaled 0 den (exponentOf 0 den)).1 = 0 := by
    rw [scaled]
    split
    · rfl
    · exact Nat.zero_mul _
  simp [unitsOf, hnum, roundDiv]

/-- The units fill 53 bits, or the next power of two, and fewer bits only at the least exponent. -/
theorem unitsOf_spec {num den : Nat} (hnum : 0 < num) (hden : 0 < den) :
    unitsOf num den ≤ 2 ^ 53 ∧ (2 ^ 52 ≤ unitsOf num den ∨ exponentOf num den = -1074) := by
  obtain ⟨-, hbelow, habove⟩ := exponentOf_spec hnum hden
  obtain ⟨hpos, hquotient⟩ := scaled_quotient num hden (exponentOf num den)
  have hscale : (0 : ℚ) < 2 ^ exponentOf num den := by positivity
  have hsum (k : ℕ) : (2 : ℚ) ^ (exponentOf num den + k) = 2 ^ k * 2 ^ exponentOf num den := by
    rw [zpow_add₀ two_ne_zero, zpow_natCast, mul_comm]
  refine ⟨roundDiv_le hpos ?_, habove.imp_left fun hfull => le_roundDiv hpos ?_⟩
  · rw [hquotient, div_le_iff₀ hscale]
    exact_mod_cast (hsum 53 ▸ hbelow).le
  · rw [hquotient, le_div_iff₀ hscale]
    exact_mod_cast hsum 52 ▸ hfull

/-- The nearest float in bits: a full carry of the units goes into the exponent. -/
theorem nearest_eq (negative : Bool) {num : Nat} (hnum : 0 < num) (den : Nat) :
    nearest negative num den =
      Float.ofBits (signBit negative +
        if unitsOf num den = pow2 53 then magnitudeOf (pow2 52) (exponentOf num den + 1)
        else magnitudeOf (unitsOf num den) (exponentOf num den)).toUInt64 := by
  have hpos : (num == 0) = false := beq_false_of_ne hnum.ne'
  simp only [nearest, hpos, Bool.false_eq_true, if_false, ← unitsOf.eq_1, beq_iff_eq]
  by_cases hcarry : unitsOf num den = pow2 53
  · simp only [if_pos hcarry, magnitudeOf, signBit]
  · simp only [if_neg hcarry, magnitudeOf, signBit]

theorem nearest_zero (negative : Bool) (den : Nat) :
    nearest negative 0 den = Float.ofBits (signBit negative + magnitudeOf 0 (-1074)).toUInt64 := by
  have hsmall : 0 < pow2 52 := Nat.two_pow_pos 52
  rw [magnitudeOf, if_pos hsmall]
  rfl

/-- The nearest float stands for the rounded quotient, or is an infinity if this is beyond the greatest float. -/
theorem parts_nearest (negative : Bool) (num : Nat) {den : Nat} (hden : 0 < den) :
    ∃ m e, Canonical m e ∧ (m * 2 ^ e : ℚ) = rounded num den ∧
      parts (nearest negative num den) = if e ≤ 971 then .finite negative m e else .infinite negative := by
  rcases num.eq_zero_or_pos with rfl | hnum
  · have hcanonical : Canonical 0 (-1074) := ⟨Nat.two_pow_pos 53, le_rfl, .inr rfl⟩
    refine ⟨0, -1074, hcanonical, by simp [rounded, unitsOf_zero], ?_⟩
    rw [nearest_zero, parts_magnitudeOf negative hcanonical]
  · obtain ⟨hunits, hfull⟩ := unitsOf_spec hnum hden
    have hleast := (exponentOf_spec hnum hden).1
    rw [nearest_eq negative hnum]
    by_cases hcarry : unitsOf num den = pow2 53
    · have hnext : Canonical (pow2 52) (exponentOf num den + 1) := by
        rw [pow2_eq]
        exact ⟨by decide, by omega, .inl le_rfl⟩
      refine ⟨_, _, hnext, ?_, ?_⟩
      · rw [rounded, hcarry, zpow_add_one₀ two_ne_zero, pow2_eq, pow2_eq]
        push_cast
        ring
      · rw [if_pos hcarry, parts_magnitudeOf negative hnext]
    · have hsame : Canonical (unitsOf num den) (exponentOf num den) :=
        ⟨lt_of_le_of_ne hunits (pow2_eq 53 ▸ hcarry), hleast, hfull⟩
      refine ⟨_, _, hsame, rfl, ?_⟩
      rw [if_neg hcarry, parts_magnitudeOf negative hsame]

/-- The number that the nearest float stands for. -/
theorem value?_nearest (negative : Bool) (num : Nat) {den : Nat} (hden : 0 < den) :
    value? (nearest negative num den) =
      some (if rounded num den < 2 ^ 1024 then Extended.ofRat (if negative then -rounded num den else rounded num den)
        else if negative then ⊥ else ⊤) := by
  obtain ⟨m, e, hcanonical, hrounded, hparts⟩ := parts_nearest negative num hden
  rw [value?, hparts, ← hrounded]
  simp only [hcanonical.lt_limit_iff]
  split
  · cases negative <;> simp [Parts.value?]
  · rfl

theorem isFinite_nearest (negative : Bool) (num : Nat) {den : Nat} (hden : 0 < den) :
    isFinite (nearest negative num den) = true ↔ rounded num den < 2 ^ 1024 := by
  obtain ⟨m, e, hcanonical, hrounded, hparts⟩ := parts_nearest negative num hden
  rw [isFinite, hparts, ← hrounded, hcanonical.lt_limit_iff]
  by_cases he : e ≤ 971
  · simp [he]
  · simp [he]

/-! ### Numbers that are kept -/

/-- The number is one that floats have, were there no greatest. -/
def Representable (r : ℚ) : Prop := ∃ m e, Canonical m e ∧ (m * 2 ^ e : ℚ) = r

theorem representable_rounded (num : Nat) {den : Nat} (hden : 0 < den) : Representable (rounded num den) := by
  obtain ⟨m, e, hcanonical, hrounded, -⟩ := parts_nearest false num hden
  exact ⟨m, e, hcanonical, hrounded⟩

/-- What fits into 53 bits is representable at every exponent that floats have. -/
theorem representable_of_lt {m : Nat} {e : Int} (hfits : m < 2 ^ 53) (hleast : -1074 ≤ e) :
    Representable (m * 2 ^ e) := by
  rcases m.eq_zero_or_pos with rfl | hm
  · exact ⟨0, -1074, ⟨hfits, le_rfl, .inr rfl⟩, by simp⟩
  · have hstart : Canonical m (-1074) := ⟨hfits, le_rfl, .inr rfl⟩
    obtain ⟨d, -, hdoubled⟩ := hstart.doubled hm (e + 1074).toNat
    have hexponent : -1074 + ((e + 1074).toNat : ℤ) - d = e - d := by omega
    rw [hexponent] at hdoubled
    refine ⟨_, _, hdoubled, ?_⟩
    rw [zpow_sub₀ two_ne_zero, zpow_natCast]
    push_cast
    field_simp

/-- A natural number is representable as long as it needs no more than 53 bits. -/
theorem representable_natCast {k : ℕ} (h : k ≤ 2 ^ 53) : Representable k := by
  rcases h.lt_or_eq with hlt | rfl
  · simpa using representable_of_lt hlt (show -1074 ≤ (0 : ℤ) by decide)
  · have := representable_of_lt (show 1 < 2 ^ 53 by decide) (show -1074 ≤ (53 : ℤ) by decide)
    norm_num at this ⊢
    exact this

/-- Rounding does not pass by a whole number of units from below. -/
theorem units_le_rounded {k : ℕ} {num den : Nat} (hden : 0 < den)
    (h : (k * 2 ^ exponentOf num den : ℚ) ≤ num / den) : (k * 2 ^ exponentOf num den : ℚ) ≤ rounded num den := by
  obtain ⟨hpos, hquotient⟩ := scaled_quotient num hden (exponentOf num den)
  have hscale : (0 : ℚ) < 2 ^ exponentOf num den := by positivity
  have hunits : k ≤ unitsOf num den := by
    refine le_roundDiv hpos ?_
    rw [hquotient, le_div_iff₀ hscale]
    exact h
  rw [rounded]
  gcongr

/-- Rounding does not pass by a whole number of units from above. -/
theorem rounded_le_units {k : ℕ} {num den : Nat} (hden : 0 < den)
    (h : (num / den : ℚ) ≤ k * 2 ^ exponentOf num den) : rounded num den ≤ k * 2 ^ exponentOf num den := by
  obtain ⟨hpos, hquotient⟩ := scaled_quotient num hden (exponentOf num den)
  have hscale : (0 : ℚ) < 2 ^ exponentOf num den := by positivity
  have hunits : unitsOf num den ≤ k := by
    refine roundDiv_le hpos ?_
    rw [hquotient, div_le_iff₀ hscale]
    exact h
  rw [rounded]
  gcongr

/-- Rounding goes above a whole number of units from which the quotient is more than half a unit away. -/
theorem units_lt_rounded {k : ℕ} {num den : Nat} (hden : 0 < den)
    (h : ((k + 1 / 2) * 2 ^ exponentOf num den : ℚ) < num / den) :
    (k * 2 ^ exponentOf num den : ℚ) < rounded num den := by
  obtain ⟨hpos, hquotient⟩ := scaled_quotient num hden (exponentOf num den)
  have hscale : (0 : ℚ) < 2 ^ exponentOf num den := by positivity
  have hunits : k < unitsOf num den := by
    refine lt_roundDiv hpos ?_
    rw [hquotient, lt_div_iff₀ hscale]
    exact h
  rw [rounded]
  gcongr

/-- A canonical number is a whole number of the units of a quotient, or below all quotients with these units. -/
theorem Canonical.units_or_lt {m : Nat} {e : Int} (h : Canonical m e) {num den : Nat} (hnum : 0 < num)
    (hden : 0 < den) :
    (∃ k : ℕ, (m * 2 ^ e : ℚ) = k * 2 ^ exponentOf num den) ∨
      (m * 2 ^ e : ℚ) < (2 ^ 52 : ℕ) * 2 ^ exponentOf num den ∧
        ((2 ^ 52 : ℕ) * 2 ^ exponentOf num den : ℚ) ≤ num / den := by
  obtain ⟨-, -, hfull⟩ := exponentOf_spec hnum hden
  have hleast := h.least
  rcases le_or_gt (exponentOf num den) e with he | he
  · refine .inl ⟨m * 2 ^ (e - exponentOf num den).toNat, ?_⟩
    obtain ⟨k, hk⟩ := Int.eq_ofNat_of_zero_le (Int.sub_nonneg.2 he)
    obtain rfl : e = k + exponentOf num den := by omega
    rw [hk, Int.toNat_natCast, zpow_add₀ two_ne_zero, zpow_natCast]
    push_cast
    ring
  · refine .inr ⟨?_, ?_⟩
    · have hfits : (m : ℚ) < 2 ^ 53 := by exact_mod_cast h.fits
      calc (m * 2 ^ e : ℚ) < 2 ^ 53 * 2 ^ e := by gcongr
        _ = (2 ^ 52 : ℕ) * 2 ^ (e + 1) := by rw [zpow_add_one₀ two_ne_zero]; push_cast; ring
        _ ≤ (2 ^ 52 : ℕ) * 2 ^ exponentOf num den := by gcongr <;> norm_num; omega
    · have hpow := hfull.resolve_right (by omega)
      rw [zpow_add₀ two_ne_zero, mul_comm] at hpow
      exact_mod_cast hpow

/-- Rounding does not go below a representable number that the quotient is not below. -/
theorem le_rounded {r : ℚ} (hr : Representable r) {num den : Nat} (hden : 0 < den) (h : r ≤ num / den) :
    r ≤ rounded num den := by
  obtain ⟨m, e, hcanonical, rfl⟩ := hr
  rcases num.eq_zero_or_pos with rfl | hnum
  · simpa [rounded, unitsOf_zero] using h
  · rcases hcanonical.units_or_lt hnum hden with ⟨k, hk⟩ | ⟨hlt, hle⟩
    · rw [hk] at h ⊢
      exact units_le_rounded hden h
    · exact hlt.le.trans (units_le_rounded hden hle)

/-- Rounding does not go above a representable number that the quotient is not above. -/
theorem rounded_le {r : ℚ} (hr : Representable r) {num den : Nat} (hden : 0 < den) (h : (num / den : ℚ) ≤ r) :
    rounded num den ≤ r := by
  obtain ⟨m, e, hcanonical, rfl⟩ := hr
  rcases num.eq_zero_or_pos with rfl | hnum
  · simpa [rounded, unitsOf_zero] using h
  · rcases hcanonical.units_or_lt hnum hden with ⟨k, hk⟩ | ⟨hlt, hle⟩
    · rw [hk] at h ⊢
      exact rounded_le_units hden h
    · exact absurd h (hlt.trans_le hle).not_ge

/-- A representable quotient is kept. -/
theorem rounded_eq {num den : Nat} (hden : 0 < den) (h : Representable (num / den)) : rounded num den = num / den :=
  le_antisymm (rounded_le h hden le_rfl) (le_rounded h hden le_rfl)

/-! ### Quotients between whole numbers -/

/-- A quotient of at most a half is rounded to zero, and only such. -/
theorem roundDiv_pos_iff {num den : Nat} (hden : 0 < den) : 0 < roundDiv num den ↔ (1 / 2 : ℚ) < num / den := by
  constructor
  · intro hpos
    by_contra hle
    have hden' : (0 : ℚ) < den := by exact_mod_cast hden
    have hhalf : 2 * num ≤ den := by
      have : (num : ℚ) ≤ 1 / 2 * den := (div_le_iff₀ hden').1 (not_lt.1 hle)
      have : (2 * num : ℚ) ≤ den := by linarith
      exact_mod_cast this
    have hdiv : num / den = 0 := Nat.div_eq_of_lt (by omega)
    have hmod : num % den = num := Nat.mod_eq_of_lt (by omega)
    simp only [roundDiv, hdiv, hmod, Nat.zero_mod, beq_iff_eq, Bool.or_eq_true, Bool.and_eq_true,
      decide_eq_true_eq] at hpos
    rw [if_neg (by omega)] at hpos
    exact hpos.ne rfl
  · intro h
    exact lt_roundDiv (k := 0) hden (by simpa using h)

/-- A quotient is rounded to zero only if it is at most a half of the least float. -/
theorem rounded_pos_iff (num : Nat) {den : Nat} (hden : 0 < den) :
    0 < rounded num den ↔ (2 : ℚ) ^ (-1075 : ℤ) < num / den := by
  rcases num.eq_zero_or_pos with rfl | hnum
  · simp [rounded, unitsOf_zero]
  · have hscale : (0 : ℚ) < 2 ^ exponentOf num den := by positivity
    obtain ⟨hleast, -, hfull⟩ := exponentOf_spec hnum hden
    rw [rounded, mul_pos_iff_of_pos_right hscale, Nat.cast_pos]
    by_cases he : exponentOf num den = -1074
    · obtain ⟨hpos, hquotient⟩ := scaled_quotient num hden (exponentOf num den)
      rw [unitsOf, roundDiv_pos_iff hpos, hquotient, he, lt_div_iff₀ (by positivity)]
      have hhalf : (1 / 2 * 2 ^ (-1074 : ℤ) : ℚ) = 2 ^ (-1075 : ℤ) := by
        rw [show (-1074 : ℤ) = -1075 + 1 from rfl, zpow_add_one₀ two_ne_zero]
        ring
      rw [hhalf]
    · have hunits := (unitsOf_spec hnum hden).2.resolve_right he
      refine iff_of_true ((Nat.two_pow_pos 52).trans_le hunits) ?_
      calc (2 : ℚ) ^ (-1075 : ℤ) < 2 ^ (exponentOf num den + 52) := zpow_lt_zpow_right₀ one_lt_two (by omega)
        _ ≤ num / den := hfull.resolve_right he

/-- A quotient of a number of at most 53 bits is not rounded down to a whole number below it, unless this is zero. -/
theorem natCast_lt_rounded {a num den : ℕ} (ha : 1 ≤ a) (hden : 0 < den) (hnum : num ≤ 2 ^ 53) (h : a * den < num) :
    (a : ℚ) < rounded num den := by
  have hden' : (0 : ℚ) < den := by exact_mod_cast hden
  have hquotient : (a : ℚ) < num / den := by
    rw [lt_div_iff₀ hden']
    exact_mod_cast h
  have hone : (1 : ℚ) ≤ a := by exact_mod_cast ha
  obtain ⟨hleast, hhigh, hfull⟩ := @exponentOf_spec num den (by omega) hden
  -- the quotient is greater than one, so its units fill 53 bits
  have hlow : (2 : ℚ) ^ (exponentOf num den + 52) ≤ num / den := by
    refine hfull.resolve_right fun he => ?_
    rw [he] at hhigh
    have hsmall : (2 : ℚ) ^ (-1074 + 53 : ℤ) ≤ 1 := zpow_le_one_of_nonpos₀ one_le_two (by decide)
    exact absurd (hhigh.trans_le hsmall) (hone.trans hquotient.le).not_gt
  have hscale : (0 : ℚ) < 2 ^ exponentOf num den := by positivity
  have hsum : (2 : ℚ) ^ (exponentOf num den + 52) = 2 ^ exponentOf num den * 2 ^ 52 := by
    rw [zpow_add₀ two_ne_zero, zpow_ofNat]
  have hbits : (num : ℚ) ≤ 2 ^ 53 := by exact_mod_cast hnum
  have hunit : (2 : ℚ) ^ exponentOf num den * den ≤ 2 := by
    rw [le_div_iff₀ hden', hsum] at hlow
    linarith
  rcases hunit.lt_or_eq with hunit | hunit
  · -- the next whole number is a whole number of units, and more than half a unit away
    have hexponent : exponentOf num den ≤ 0 := by
      have hden'' : (1 : ℚ) ≤ den := by exact_mod_cast hden
      have htwo : (2 : ℚ) ^ exponentOf num den < 2 ^ (1 : ℤ) := by
        rw [zpow_one]
        nlinarith
      exact Int.lt_add_one_iff.1 ((zpow_lt_zpow_iff_right₀ one_lt_two).1 htwo)
    obtain ⟨k, hk⟩ : ∃ k : ℕ, exponentOf num den = -k := ⟨(-exponentOf num den).toNat, by omega⟩
    have hwhole : ((a * 2 ^ k : ℕ) * 2 ^ exponentOf num den : ℚ) = a := by
      rw [hk, zpow_neg, zpow_natCast]
      push_cast
      field_simp
    have hnext : (a * den + 1 : ℚ) ≤ num := by exact_mod_cast h
    have hlt := @units_lt_rounded (a * 2 ^ k) num den hden (by
      rw [add_mul, hwhole, lt_div_iff₀ hden']
      linarith)
    rwa [hwhole] at hlt
  · -- the quotient is itself a power of two
    have hexact : (num / den : ℚ) = (1 : ℕ) * 2 ^ (exponentOf num den + 52) := by
      rw [Nat.cast_one, one_mul]
      refine le_antisymm ?_ hlow
      rw [div_le_iff₀ hden', hsum]
      linarith
    rw [rounded_eq hden (hexact ▸ representable_of_lt (by decide) (by omega))]
    exact hquotient

/-! ### Floats as integers -/

/-- A signed quotient is exact exactly if it gives back what is divided. -/
theorem signed_div_eq_iff (negative : Bool) (m : ℕ) {d : ℕ} (hd : 0 < d) (n : Int) :
    (if m % d = 0 then some (if negative then -((m / d : ℕ) : ℤ) else (m / d : ℕ)) else none) = some n ↔
      (if negative then -(m : ℤ) else m) = n * d := by
  have hd' : (d : ℤ) ≠ 0 := Int.natCast_ne_zero.2 hd.ne'
  by_cases hdvd : m % d = 0
  · obtain ⟨j, rfl⟩ := Nat.dvd_of_mod_eq_zero hdvd
    rw [if_pos hdvd, Option.some.injEq, Nat.mul_div_cancel_left j hd, ← Int.mul_eq_mul_right_iff hd']
    cases negative <;> simp [mul_comm]
  · rw [if_neg hdvd]
    refine iff_of_false (by simp) fun h => hdvd (Nat.mod_eq_zero_of_dvd (Int.natCast_dvd_natCast.1 ?_))
    cases negative
    · exact ⟨n, h.trans (mul_comm _ _)⟩
    · exact ⟨-n, by rw [mul_neg, mul_comm, ← h]; exact (neg_neg _).symm⟩

/-- A finite float is an integer exactly if it stands for one. -/
theorem toInt?_eq_some_iff {x : Float} {n : Int} : toInt? x = some n ↔ value? x = some (Extended.ofRat n) := by
  rw [toInt?, value?]
  cases parts x with
  | nan => simp [Parts.value?]
  | infinite negative =>
    simp [Parts.value?, Extended.unbounded_ne_ofRat]
  | finite negative m q =>
    simp only [Parts.value?, Option.some.injEq, Extended.ofRat_inj]
    by_cases hq : 0 ≤ q
    · lift q to ℕ using hq
      have hwhole : isWhole m q = true := by simp [isWhole]
      have hpart : wholePart m q = m * 2 ^ q := by simp [wholePart, pow2_eq]
      rw [hwhole, if_pos rfl, hpart, Option.some.injEq, zpow_natCast]
      have hcast : ((if negative then -((m * 2 ^ q : Nat) : Int) else (m * 2 ^ q : Nat) : Int) : ℚ) =
          ((if negative then -(m : ℤ) else m : ℤ) : ℚ) * 2 ^ q := by
        cases negative <;> simp
      rw [← hcast, Int.cast_inj]
    · obtain ⟨k, rfl⟩ : ∃ k : ℕ, q = -k := ⟨(-q).toNat, by omega⟩
      have hk : ¬ (-(k : ℤ) ≥ 0) := hq
      have hpos : (0 : ℚ) < 2 ^ k := by positivity
      have hscaled (z : ℤ) : (z : ℚ) * 2 ^ (-(k : ℤ)) = n ↔ z = n * 2 ^ k := by
        rw [zpow_neg, zpow_natCast, mul_inv_eq_iff_eq_mul₀ hpos.ne']
        norm_cast
      simp only [isWhole, wholePart, if_neg hk, decide_eq_false hk, Bool.false_or, neg_neg, Int.toNat_natCast, pow2_eq,
        beq_iff_eq, hscaled]
      exact_mod_cast signed_div_eq_iff negative m (Nat.two_pow_pos k) n

end Binary64

namespace Number

open Binary64

/-- The least integer not below a float is that of the number it stands for, if it is finite. -/
theorem ceil_eq_ok_iff {x : Float} {n : Int} :
    ceil x = .ok n ↔ ∃ r, Binary64.value? x = some (Extended.ofRat r) ∧ ⌈r⌉ = n := by
  rw [ceil]
  cases hparts : parts x with
  | nan => simp [Binary64.value?, hparts, Parts.value?]
  | infinite negative =>
    have hnone : toFraction? x = none := by rw [toFraction?, hparts]
    simp [Binary64.value?, hparts, Parts.value?, hnone, Extended.unbounded_ne_ofRat]
  | finite negative m q =>
    obtain ⟨num, den, hfraction, -, hexact⟩ := toFraction?_of_finite hparts
    have hceil : ⌈(num / den : ℚ)⌉ = -(Int.fdiv (-num) den) := by
      rw [Int.fdiv_eq_ediv_of_nonneg _ (Int.natCast_nonneg den), ← Rat.floor_intCast_div_natCast, Int.cast_neg, neg_div,
        Int.floor_neg, neg_neg]
    simp [hfraction, hexact, Extended.ofRat_inj, hceil]

/-- The quotient of two natural numbers is the float nearest to it, unless it is beyond the greatest. -/
theorem div_natCast (num : ℕ) {den : ℕ} (hden : 0 < den) :
    div (.whole num) (.whole den) =
      if rounded num den < 2 ^ 1024 then .ok (nearest false num den) else .error .overflow := by
  have hnonzero : ((den : ℤ) == 0) = false := beq_false_of_ne (Int.natCast_ne_zero.2 hden.ne')
  have hnum : decide ((num : ℤ) < 0) = false := decide_eq_false (Int.natCast_nonneg num).not_gt
  have hsign : decide ((den : ℤ) < 0) = false := decide_eq_false (Int.natCast_nonneg den).not_gt
  simp only [div, hnonzero, hnum, hsign, bne_self_eq_false, Bool.false_and, Bool.false_eq_true, if_false,
    Int.natAbs_natCast, isFinite_nearest false num hden]

end Number

end RecordMapper
