import RecordMapper.Proofs.ExactNumber

/-!
Products with powers of two. The float nearest to a power of two is this power up to `2 ^ 1023`, and there is none
beyond (`Number.floatOfInt_twoPow`). A finite float that is not negative is doubled without rounding, up to the
greatest float (`Binary64.value?_mul_twoPow`). Main statement: the products of a number that is not negative with the
powers of two grow with these (`Number.exists_grown`).
-/
namespace RecordMapper

open Float.Model Float.Model.UnpackedFloat

namespace Binary64

/-! ### Packing -/

/-- The sign is the first of the bits that are packed. -/
theorem sign_packComponents (s : Sign) (e : BitVec 11) (f : BitVec 52) :
    Sign.ofBitVec (@unpackSign Format.binary64 (packComponents Format.binary64 s e f)) = s := by
  have hfirst : decide (2 ^ 63 ≤ (packComponents Format.binary64 s e f).toNat) = s.toBitVec.msb := by
    refine (BitVec.msb_eq_decide (packComponents Format.binary64 s e f)).symm.trans ?_
    rw [packComponents, BitVec.msb_append, BitVec.msb_append]
    rfl
  rw [ofBitVec_unpackSign, hfirst]
  cases s <;> rfl

theorem unpack_packComponents (s : Sign) (e : BitVec 11) (f : BitVec 52) :
    UnpackedFloat.unpack Format.binary64 (packComponents Format.binary64 s e f) = ofFields s e.toNat f.toNat := by
  rw [unpack_eq_ofFields, sign_packComponents, unpackExponent_packComponents, unpackMantissa_packComponents]

/-- A canonical number is packed by whether it is beyond the greatest float, and whether its mantissa is full. -/
theorem pack_canonical (s : Sign) {m : Nat} {e : Int} (hm : 0 < m) (h : Canonical m e) :
    UnpackedFloat.pack Format.binary64 (.finite s m e hm) =
      if 971 < e then packComponents Format.binary64 s (-1#11) 0
      else if 2 ^ 52 ≤ m then
        packComponents Format.binary64 s (BitVec.ofNat 11 (e + 1075).toNat) (BitVec.ofNat 52 m)
      else packComponents Format.binary64 s 0#11 (BitVec.ofNat 52 m) := by
  obtain ⟨hfits, hleast, -⟩ := h
  have hbias : e + (Format.binary64.exponentBias : Int) + (52 : Nat) = e + 1075 := by
    rw [show Format.binary64.exponentBias = 1023 from rfl]
    omega
  have hbeyond : 2 ^ 11 ≤ (e + 1075).toNat + 1 ↔ 971 < e := by omega
  have hnormal : m.log2 + 1 = Format.binary64.mantissaBits ↔ 2 ^ 52 ≤ m := by
    have hlog : m.log2 < 53 := (Nat.log2_lt hm.ne').2 hfits
    have hfull : 52 ≤ m.log2 ↔ 2 ^ 52 ≤ m := Nat.le_log2 hm.ne'
    rw [show Format.binary64.mantissaBits = 53 from rfl, ← hfull]
    omega
  rw [UnpackedFloat.pack]
  simp only [hbias, hbeyond, hnormal]
  rfl

/-- Packing a canonical number keeps it, or makes it an infinity if it is beyond the greatest float. -/
theorem unpack_pack {s : Sign} {m : Nat} {e : Int} (hm : 0 < m) (h : Canonical m e) :
    (Float.Model.pack (.finite s m e hm)).unpack = if e ≤ 971 then .finite s m e hm else .infinity s := by
  change UnpackedFloat.unpack Format.binary64 (UnpackedFloat.pack Format.binary64 (.finite s m e hm)) = _
  rw [pack_canonical s hm h]
  obtain ⟨hfits, hleast, hfull⟩ := h
  by_cases he : e ≤ 971
  · rw [if_neg he.not_gt, if_pos he]
    by_cases hnormal : 2 ^ 52 ≤ m
    · have hexponent : (BitVec.ofNat 11 (e + 1075).toNat).toNat = (e + 1075).toNat := by
        rw [BitVec.toNat_ofNat, Nat.mod_eq_of_lt (by omega)]
      have hmantissa : (BitVec.ofNat 52 m).toNat = m - 2 ^ 52 := by
        rw [BitVec.toNat_ofNat]
        omega
      have hm' : 2 ^ 52 + (m - 2 ^ 52) = m := Nat.add_sub_cancel' hnormal
      have he' : ((e + 1075).toNat : Int) - 1075 = e := by omega
      rw [if_pos hnormal, unpack_packComponents, hexponent, hmantissa, ofFields, if_neg (by omega), if_neg (by omega)]
      simp only [hm', he']
    · have hmantissa : (BitVec.ofNat 52 m).toNat = m := by
        rw [BitVec.toNat_ofNat, Nat.mod_eq_of_lt (Nat.lt_of_not_le hnormal)]
      have he' : e = -1074 := hfull.resolve_left hnormal
      rw [if_neg hnormal, unpack_packComponents, hmantissa, ofFields, if_neg (by decide),
        if_pos (show (0#11).toNat = 0 from rfl), dif_neg hm.ne']
      simp only [he']
  · rw [if_pos (not_le.1 he), if_neg he, unpack_packComponents]
    rfl

/-! ### Exact shifts -/

/-- The exponent of a canonical number is the one that rounding aims at. -/
theorem targetExponent_canonical {m : Nat} {e : Int} (hm : 0 < m) (h : Canonical m e) :
    Format.binary64.targetExponent (totalExponent m e) = e := by
  obtain ⟨hfits, hleast, hfull⟩ := h
  have hlog : m.log2 < 53 := (Nat.log2_lt hm.ne').2 hfits
  have hmin : Format.binary64.minExponent = -1074 := rfl
  have hbits : Format.binary64.mantissaBits = 53 := rfl
  rw [Format.targetExponent, totalExponent, hmin, hbits]
  rcases hfull with hfull | he
  · have := (Nat.le_log2 hm.ne').2 hfull
    omega
  · omega

/-- A mantissa loses nothing in a shift if it ends in as many zeros. -/
theorem repeat_shiftRightOne (j : Nat) : ∀ m : Nat,
    Nat.repeat ExtendedMantissa.shiftRightOne j ⟨m * 2 ^ j, false, false⟩ = ⟨m, false, false⟩ := by
  induction j with
  | zero =>
    intro m
    simp [Nat.repeat]
  | succ j ih =>
    intro m
    have hdouble : m * 2 ^ (j + 1) = m * 2 * 2 ^ j := by ring
    rw [hdouble, Nat.repeat, ih (m * 2)]
    simp [ExtendedMantissa.shiftRightOne]

theorem log2_mul_twoPow {m : Nat} (hm : 0 < m) (j : Nat) : (m * 2 ^ j).log2 = m.log2 + j := by
  have hle : 2 ^ m.log2 ≤ m := Nat.log2_self_le hm.ne'
  have hlt : m < 2 ^ (m.log2 + 1) := Nat.lt_log2_self
  refine (Nat.log2_eq_iff (Nat.mul_pos hm (Nat.two_pow_pos j)).ne').2 ⟨?_, ?_⟩
  · rw [Nat.pow_add]
    exact Nat.mul_le_mul_right _ hle
  · rw [Nat.add_right_comm, Nat.pow_add]
    exact Nat.mul_lt_mul_of_pos_right hlt (Nat.two_pow_pos j)

/-- A number that has a canonical form is shifted to it. -/
theorem shiftToTargetExponent_canonical {m : Nat} {e : Int} (hm : 0 < m) (h : Canonical m e) (j : Nat) :
    shiftToTargetExponent Format.binary64 (m * 2 ^ j) (e - j) .exact = (⟨m, false, false⟩, e) := by
  have htotal : totalExponent (m * 2 ^ j) (e - j) = totalExponent m e := by
    rw [totalExponent, totalExponent, log2_mul_twoPow hm]
    omega
  have hshift : (e - (e - j)).toNat = j := by omega
  rw [shiftToTargetExponent, htotal, targetExponent_canonical hm h, shiftToExponent, hshift]
  refine Prod.ext (repeat_shiftRightOne j m) (Int.sub_add_cancel e j)

/-- A number that has a canonical form is rounded to it. -/
theorem roundWithAccuracy_canonical (s : Sign) {m : Nat} {e : Int} (hm : 0 < m) (h : Canonical m e) (j : Nat) :
    roundWithAccuracy Format.binary64 s (m * 2 ^ j) (e - j) .exact = .finite s m e hm := by
  have hagain : shiftToTargetExponent Format.binary64 m e .exact = (⟨m, false, false⟩, e) := by
    simpa using shiftToTargetExponent_canonical hm h 0
  have hrounded : (⟨m, false, false⟩ : ExtendedMantissa).roundedMantissa = m := rfl
  rw [roundWithAccuracy, shiftToTargetExponent_canonical hm h]
  simp only [hrounded, hagain]
  rw [dif_neg hm.ne']

/-- A canonical number doubled `k` times is one again: the mantissa is doubled as long as it has free bits. -/
theorem Canonical.doubled {m : Nat} {e : Int} (hm : 0 < m) (h : Canonical m e) (k : Nat) :
    ∃ d : Nat, d ≤ 52 ∧ Canonical (m * 2 ^ d) (e + k - d) := by
  obtain ⟨hfits, hleast, hfull⟩ := h
  have hlog : m.log2 < 53 := (Nat.log2_lt hm.ne').2 hfits
  have hlow : 2 ^ m.log2 ≤ m := Nat.log2_self_le hm.ne'
  have hhigh : m < 2 ^ (m.log2 + 1) := Nat.lt_log2_self
  by_cases hroom : k ≤ 52 - m.log2
  · refine ⟨k, by omega, ?_, by omega, ?_⟩
    · calc m * 2 ^ k < 2 ^ (m.log2 + 1) * 2 ^ k := Nat.mul_lt_mul_of_pos_right hhigh (Nat.two_pow_pos k)
        _ = 2 ^ (m.log2 + 1 + k) := (Nat.pow_add _ _ _).symm
        _ ≤ 2 ^ 53 := Nat.pow_le_pow_right Nat.two_pos (by omega)
    · rcases hfull with hfull | he
      · exact .inl (hfull.trans (Nat.le_mul_of_pos_right m (Nat.two_pow_pos k)))
      · exact .inr (by omega)
  · refine ⟨52 - m.log2, by omega, ?_, by omega, .inl ?_⟩
    · calc m * 2 ^ (52 - m.log2) < 2 ^ (m.log2 + 1) * 2 ^ (52 - m.log2) :=
            Nat.mul_lt_mul_of_pos_right hhigh (Nat.two_pow_pos _)
        _ = 2 ^ 53 := by rw [← Nat.pow_add]; congr 1; omega
    · calc 2 ^ 52 = 2 ^ m.log2 * 2 ^ (52 - m.log2) := by rw [← Nat.pow_add]; congr 1; omega
        _ ≤ m * 2 ^ (52 - m.log2) := Nat.mul_le_mul_right _ hlow

/-! ### Powers of two -/

theorem exists_scaled_pow2 (k : Nat) :
    ∃ den : Nat, 0 < den ∧ scaled (pow2 k) 1 ((k : Int) - 52) = (2 ^ 52 * den, den) := by
  have hpow (j : Nat) : pow2 j = 2 ^ j := rfl
  simp only [scaled, hpow]
  by_cases hk : 52 ≤ k
  · have hshift : ((k : Int) - 52).toNat = k - 52 := by omega
    refine ⟨2 ^ (k - 52), Nat.two_pow_pos _, ?_⟩
    rw [if_pos (by omega), hshift, Nat.one_mul, ← Nat.pow_add, Nat.add_sub_cancel' hk]
  · have hshift : (-((k : Int) - 52)).toNat = 52 - k := by omega
    refine ⟨1, Nat.one_pos, ?_⟩
    rw [if_neg (by omega), hshift, ← Nat.pow_add, Nat.add_sub_cancel' (Nat.le_of_not_le hk), Nat.mul_one]

/-- A power of two is taken as `2 ^ 52` at the exponent that is left. -/
theorem exponentOf_pow2 (k : Nat) : exponentOf (pow2 k) 1 = (k : Int) - 52 := by
  obtain ⟨den, hden, hscaled⟩ := exists_scaled_pow2 k
  have hlog : (pow2 k).log2 = k := Nat.log2_two_pow
  have hguess : ((pow2 k).log2 : Int) - (Nat.log2 1 : Nat) - 52 = (k : Int) - 52 := by
    rw [hlog, show Nat.log2 1 = 0 from rfl]
    omega
  have hquotient : 2 ^ 52 * den / den = 2 ^ 52 := Nat.mul_div_cancel _ hden
  rw [exponentOf]
  simp only [hguess, hscaled, hquotient]
  rw [if_neg (by decide), if_neg (by decide)]
  omega

theorem roundDiv_mul {q den : Nat} (hden : 0 < den) : roundDiv (q * den) den = q := by
  have hmod : q * den % den = 0 := Nat.mul_mod_left q den
  have hdiv : q * den / den = q := Nat.mul_div_cancel q hden
  simp [roundDiv, hmod, hdiv, hden.ne]

/-- The nearest float to a power of two is this power, or beyond the greatest float the infinity. -/
theorem nearest_pow2 (k : Nat) :
    nearest false (pow2 k) 1 = Float.ofBits ((if k ≤ 1023 then k + 1023 else 2047) * 2 ^ 52).toUInt64 := by
  obtain ⟨den, hden, hscaled⟩ := exists_scaled_pow2 k
  have hpos : (pow2 k == 0) = false := beq_false_of_ne (Nat.two_pow_pos k).ne'
  have hfits : (2 ^ 52 == pow2 53) = false := by decide
  have hnormal : ¬ 2 ^ 52 < pow2 52 := by decide
  have hpow : pow2 52 = 2 ^ 52 := rfl
  rw [nearest]
  simp only [exponentOf_pow2, hscaled, roundDiv_mul hden, hpos, hfits, Bool.false_eq_true, if_false, if_neg hnormal]
  rw [hpow, Nat.sub_self]
  by_cases hk : k ≤ 1023
  · have hbiased : ((k : Int) - 52 + 1075).toNat = k + 1023 := by omega
    rw [if_neg (show ¬ (k : Int) - 52 > 971 by omega), if_pos hk, hbiased, Nat.zero_add, Nat.add_zero]
  · rw [if_pos (show (k : Int) - 52 > 971 by omega), if_neg hk, Nat.zero_add]

/-- What has its one form is not changed by packing. -/
theorem unpack_pack_of_isCanonical : ∀ {u : UnpackedFloat}, IsCanonical u → (Float.Model.pack u).unpack = u
  | .notANumber, _ => unpack_packComponents .positive _ _
  | .infinity s, _ => unpack_packComponents s _ _
  | .zero s, _ => unpack_packComponents s _ _
  | .finite _ _ _ hm, h => (unpack_pack hm h.1).trans (if_pos h.2)

theorem unpack_ofBits (bits : UInt64) : (Float.ofBits bits).toModel.unpack = unpack Format.binary64 bits.toBitVec := by
  refine unpack_pack_of_isCanonical ?_
  rw [unpack_eq_ofFields]
  exact isCanonical_ofFields _ (BitVec.isLt _) (BitVec.isLt _)

/-- A power of two as a float. -/
theorem unpack_ofInt_twoPow (k : Nat) :
    (ofInt (2 ^ k)).toModel.unpack =
      if k ≤ 1023 then .finite .positive (2 ^ 52) ((k : Int) - 52) (Nat.two_pow_pos 52) else .infinity .positive := by
  have hcast : (2 : Int) ^ k = (pow2 k : Nat) := by
    rw [pow2, Nat.pow_eq, Nat.cast_pow, Nat.cast_ofNat]
  have hofInt : ofInt (pow2 k) = nearest false (pow2 k) 1 := rfl
  have hfields {e : Nat} (he : e < 2 ^ 11) :
      (Float.ofBits (e * 2 ^ 52).toUInt64).toModel.unpack = ofFields .positive e 0 := by
    have hbits : (e * 2 ^ 52).toUInt64.toNat = e * 2 ^ 52 := by
      rw [Nat.toUInt64, UInt64.toNat_ofNat', Nat.mod_eq_of_lt]
      omega
    rw [unpack_ofBits, unpack_eq_ofFields, toNat_unpackExponent, toNat_unpackMantissa, ofBitVec_unpackSign,
      UInt64.toNat_toBitVec, hbits, decide_eq_false (by omega), Nat.mul_div_cancel _ (Nat.two_pow_pos 52),
      Nat.mod_eq_of_lt he, Nat.mul_mod_left]
    rfl
  rw [hcast, hofInt, nearest_pow2]
  by_cases hk : k ≤ 1023
  · have hbias : ((k + 1023 : Nat) : Int) - 1075 = (k : Int) - 52 := by omega
    rw [if_pos hk, if_pos hk, hfields (by omega), ofFields, if_neg (by omega), if_neg (by omega)]
    simp only [hbias, Nat.add_zero]
  · rw [if_neg hk, if_neg hk, hfields (by omega)]
    rfl

/-- A float is finite exactly if it stands for a rational number. -/
theorem isFinite_iff (x : Float) : isFinite x = true ↔ ∃ r, value? x = some (Extended.ofRat r) := by
  rw [isFinite, value?]
  cases parts x with
  | nan => simp [Parts.value?]
  | infinite negative =>
    simp [Parts.value?, Extended.unbounded_ne_ofRat]
  | finite negative m q => simp [Parts.value?]

/-! ### Products -/

/-- A number as floats have it: beyond the greatest float there is only the infinity. -/
def limit (r : ℚ) : Extended := if r < 2 ^ 1024 then Extended.ofRat r else ⊤

theorem le_limit (r : ℚ) : Extended.ofRat r ≤ limit r := by
  rw [limit]
  split
  · exact le_rfl
  · exact le_top

theorem limit_mono {r r' : ℚ} (h : r ≤ r') : limit r ≤ limit r' := by
  rw [limit, limit]
  split
  · split
    · exact Extended.ofRat_le_ofRat.2 h
    · exact le_top
  · rename_i hbeyond
    rw [if_neg fun hr' => hbeyond (h.trans_lt hr')]

/-- A canonical number is within range exactly if its exponent is. -/
theorem Canonical.lt_limit_iff {m : Nat} {e : Int} (h : Canonical m e) : (m * 2 ^ e : ℚ) < 2 ^ 1024 ↔ e ≤ 971 := by
  constructor
  · refine not_imp_not.1 fun he => not_lt.2 ?_
    have hfull : (2 ^ 52 : ℚ) ≤ m := by exact_mod_cast h.full.resolve_right (by omega)
    calc (2 ^ 1024 : ℚ) = 2 ^ 52 * 2 ^ (972 : ℤ) := by rw [zpow_ofNat, ← pow_add]
      _ ≤ m * 2 ^ e := by gcongr <;> norm_num; omega
  · intro he
    have hfits : (m : ℚ) < 2 ^ 53 := by exact_mod_cast h.fits
    calc (m * 2 ^ e : ℚ) < 2 ^ 53 * 2 ^ e := by gcongr
      _ ≤ 2 ^ 53 * 2 ^ (971 : ℤ) := by gcongr; norm_num
      _ = 2 ^ 1024 := by rw [zpow_ofNat, ← pow_add]

/-- A canonical number within range is exact as a float, any other one is beyond the limit. -/
theorem unpacked?_pack {m : Nat} {e : Int} (hm : 0 < m) (h : Canonical m e) :
    unpacked? (Float.Model.pack (.finite .positive m e hm)).unpack = some (limit (m * 2 ^ e)) := by
  rw [unpack_pack hm h, limit]
  simp only [h.lt_limit_iff]
  split <;> rfl

/-- A product is rounded, and what is beyond the greatest float is an infinity then. -/
theorem toModel_mul (x y : Float) :
    (x * y).toModel.unpack =
      (Float.Model.pack (UnpackedFloat.mul Format.binary64 x.toModel.unpack y.toModel.unpack)).unpack :=
  rfl

/-- A finite float that is not negative, times the `k`-th power of two. -/
theorem value?_mul_twoPow {x y : Float} {r : ℚ} {k : Nat}
    (hy : y.toModel.unpack = .finite .positive (2 ^ 52) ((k : Int) - 52) (Nat.two_pow_pos 52))
    (hx : value? x = some (Extended.ofRat r)) (hr : 0 ≤ r) : value? (x * y) = some (limit (r * 2 ^ k)) := by
  have hcanonical := isCanonical_unpack x
  rw [value?_eq] at hx ⊢
  rw [toModel_mul, hy]
  rcases eq_zero_or_finite hx hr with ⟨s, hzero, rfl⟩ | ⟨m, e, hm, hfinite, rfl⟩
  · rw [hzero, UnpackedFloat.mul, unpack_pack_of_isCanonical (show IsCanonical (.zero _) from trivial), limit,
      zero_mul, if_pos (by positivity)]
    rfl
  · rw [hfinite] at hcanonical ⊢
    obtain ⟨d, hd, hdoubled⟩ := hcanonical.1.doubled hm k
    have hm' : 0 < m * 2 ^ d := Nat.mul_pos hm (Nat.two_pow_pos d)
    have hmantissa : m * 2 ^ 52 = m * 2 ^ d * 2 ^ (52 - d) := by
      rw [Nat.mul_assoc, ← Nat.pow_add, Nat.add_sub_cancel' hd]
    have hexponent : e + ((k : Int) - 52) = e + k - d - (52 - d : Nat) := by omega
    have hproduct : ((m * 2 ^ d : Nat) : ℚ) * 2 ^ (e + k - d) = m * 2 ^ e * 2 ^ k := by
      rw [zpow_sub₀ two_ne_zero, zpow_add₀ two_ne_zero, Nat.cast_mul, Nat.cast_pow, Nat.cast_ofNat]
      simp only [zpow_natCast]
      field_simp
    rw [UnpackedFloat.mul, hmantissa, hexponent, roundWithAccuracy_canonical _ hm' hdoubled, ← hproduct]
    exact unpacked?_pack hm' hdoubled

/-- An infinity stays one. -/
theorem value?_mul_eq_top {x y : Float} {m : Nat} {e : Int} {hm : 0 < m}
    (hy : y.toModel.unpack = .finite .positive m e hm) (hx : value? x = some ⊤) : value? (x * y) = some ⊤ := by
  rw [value?_eq] at hx ⊢
  rw [toModel_mul, hy, eq_infinity hx, UnpackedFloat.mul,
    unpack_pack_of_isCanonical (show IsCanonical (.infinity _) from trivial)]
  rfl

/-- A product with a NaN is one. -/
theorem value?_mul_eq_none {x y : Float} (hx : value? x = none) : value? (x * y) = none := by
  rw [value?_eq] at hx ⊢
  rw [toModel_mul, eq_notANumber hx, UnpackedFloat.mul,
    unpack_pack_of_isCanonical (show IsCanonical .notANumber from trivial)]
  rfl

end Binary64

namespace Number

open Binary64

theorem twoPow_natCast (k : Nat) : twoPow k = .whole ((2 : Int) ^ k) := by
  rw [twoPow, if_pos (Int.natCast_nonneg k), Int.toNat_natCast, pow2, Nat.pow_eq, Nat.cast_pow]
  rfl

/-- A power of two is a float as long as it is not beyond the greatest. -/
theorem floatOfInt_twoPow (k : Nat) :
    floatOfInt (2 ^ k) = if k ≤ 1023 then .ok (Binary64.ofInt (2 ^ k)) else .error .overflow := by
  have hfinite : Binary64.isFinite (Binary64.ofInt (2 ^ k)) = true ↔ k ≤ 1023 := by
    rw [isFinite_iff, value?_eq, unpack_ofInt_twoPow]
    split
    · rename_i hk
      exact ⟨fun _ => hk, fun _ => ⟨_, rfl⟩⟩
    · rename_i hk
      exact ⟨fun ⟨r, hr⟩ => absurd (Option.some.inj hr) (Extended.ofRat_lt_top r).ne', fun h => absurd h hk⟩
  rw [floatOfInt]
  simp only [hfinite]

theorem whole_mul_twoPow (n : Int) (k : Nat) : (whole n).mul (twoPow k) = .ok (.whole (n * 2 ^ k)) := by
  rw [twoPow_natCast]
  rfl

/-- A float has no product with a power of two that is beyond the greatest float. -/
theorem real_mul_twoPow (x : Float) (k : Nat) :
    (real x).mul (twoPow k) = if k ≤ 1023 then .ok (.real (x * Binary64.ofInt (2 ^ k))) else .error .overflow := by
  have hmul : (real x).mul (whole (2 ^ k)) = (floatOfInt (2 ^ k)).bind fun y => .ok (.real (x * y)) := rfl
  rw [twoPow_natCast, hmul, floatOfInt_twoPow]
  split <;> rfl

/-- What a float has been multiplied by, if it has a product with a power of two. -/
theorem real_mul_twoPow_eq_ok {x : Float} {k : Nat} {d : Number} (hd : (real x).mul (twoPow k) = .ok d) :
    ∃ y, d = .real (x * y) ∧
      y.toModel.unpack = .finite .positive (2 ^ 52) ((k : Int) - 52) (Nat.two_pow_pos 52) := by
  rw [real_mul_twoPow] at hd
  split at hd
  · rename_i hk
    cases hd
    exact ⟨_, rfl, (unpack_ofInt_twoPow k).trans (if_pos hk)⟩
  · cases hd

/-- The products of a number that is not negative with the powers of two grow with these. -/
theorem exists_grown {b : Number} {v : Extended} (hb : b.value? = some v) (hv : Extended.ofRat 0 ≤ v) :
    ∃ grown : Nat → Extended, Monotone grown ∧ Extended.ofRat 0 ≤ grown 0 ∧
      ∀ (k : Nat) (d : Number), b.mul (twoPow k) = .ok d → d.value? = some (grown k) := by
  have hpowers {r : ℚ} (hr : 0 ≤ r) {k l : Nat} (h : k ≤ l) : r * 2 ^ k ≤ r * 2 ^ l :=
    mul_le_mul_of_nonneg_left (pow_le_pow_right₀ one_le_two h) hr
  cases b with
  | whole n =>
    cases hb
    have hn : (0 : ℚ) ≤ n := Extended.ofRat_le_ofRat.1 hv
    refine ⟨fun k => Extended.ofRat (n * 2 ^ k), ?_, ?_, ?_⟩
    · intro k l h
      exact Extended.ofRat_le_ofRat.2 (hpowers hn h)
    · simpa using hn
    · intro k d hd
      rw [whole_mul_twoPow] at hd
      cases hd
      simp [value?]
  | real x =>
    obtain rfl | ⟨r, rfl⟩ := Extended.eq_top_or_ofRat hv
    · refine ⟨fun _ => ⊤, monotone_const, le_top, ?_⟩
      intro k d hd
      obtain ⟨y, rfl, hy⟩ := real_mul_twoPow_eq_ok hd
      exact value?_mul_eq_top hy hb
    · have hr : 0 ≤ r := Extended.ofRat_le_ofRat.1 hv
      refine ⟨fun k => limit (r * 2 ^ k), ?_, ?_, ?_⟩
      · intro k l h
        exact limit_mono (hpowers hr h)
      · refine (hv.trans (le_limit r)).trans (limit_mono ?_)
        rw [pow_zero, mul_one]
      · intro k d hd
        obtain ⟨y, rfl, hy⟩ := real_mul_twoPow_eq_ok hd
        exact value?_mul_twoPow hy hb hr

end Number

end RecordMapper
