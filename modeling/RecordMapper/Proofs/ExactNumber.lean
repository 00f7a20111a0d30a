import Mathlib
import RecordMapper.Number.Basic

/-!
The numbers that floats stand for. `Binary64.value?` gives the exact number of a float, an infinity or nothing for a
NaN. It is read off the bits, as `Binary64.parts` does, and what the operations on floats take apart has the same
number (`Binary64.value?_eq`). Main statement: a number is less than another one, both integers or floats, exactly if
the number that it stands for is (`Number.lt_iff`).
-/
namespace RecordMapper

open Float.Model Float.Model.UnpackedFloat

namespace Binary64

/-! ### Floats by their fields -/

/-- A float by its fields. -/
def ofFields (s : Sign) (exponent fraction : Nat) : UnpackedFloat :=
  if exponent = 2047 then if fraction = 0 then .infinity s else .notANumber
  else if exponent = 0 then
    if h : fraction = 0 then .zero s else .finite s fraction (-1074) (Nat.pos_of_ne_zero h)
  else .finite s (2 ^ 52 + fraction) (exponent - 1075) (Nat.add_pos_left (Nat.two_pow_pos 52) fraction)

/-- The leading bit of a mantissa, which is not written. -/
theorem toNat_implicit (fraction : BitVec 52) : (1#1 ++ fraction).toNat = 2 ^ 52 + fraction.toNat := by
  rw [BitVec.toNat_append, BitVec.toNat_one Nat.one_pos, Nat.shiftLeft_eq, Nat.one_mul]
  exact (Nat.two_pow_add_eq_or_of_lt fraction.isLt 1).symm

/-- What operations take bits for. -/
theorem unpack_eq_ofFields (b : BitVec 64) :
    unpack Format.binary64 b =
      ofFields (Sign.ofBitVec (@unpackSign Format.binary64 b)) (@unpackExponent Format.binary64 b).toNat
        (@unpackMantissa Format.binary64 b).toNat := by
  have hlast : @unpackExponent Format.binary64 b = -1#_ ↔ (@unpackExponent Format.binary64 b).toNat = 2047 := by
    rw [← BitVec.toNat_inj]
    rfl
  have hfirst : @unpackExponent Format.binary64 b = 0#_ ↔ (@unpackExponent Format.binary64 b).toNat = 0 := by
    rw [← BitVec.toNat_inj]
    rfl
  have hmantissa : @unpackMantissa Format.binary64 b = 0#_ ↔ (@unpackMantissa Format.binary64 b).toNat = 0 := by
    rw [← BitVec.toNat_inj]
    rfl
  rw [UnpackedFloat.unpack, ofFields]
  dsimp only
  simp only [hlast, hfirst, hmantissa]
  split
  · rfl
  · split
    · split
      · rfl
      · congr 1
        rename_i h _
        rw [h]
        rfl
    · congr 1
      exact toNat_implicit _

theorem toNat_unpackExponent (b : BitVec 64) :
    (@unpackExponent Format.binary64 b).toNat = b.toNat / 2 ^ 52 % 2 ^ 11 := by
  rw [unpackExponent, BitVec.toNat_cast, BitVec.extractLsb_toNat, Nat.shiftRight_eq_div_pow]
  rfl

theorem toNat_unpackMantissa (b : BitVec 64) :
    (@unpackMantissa Format.binary64 b).toNat = b.toNat % 2 ^ 52 := by
  rw [unpackMantissa, BitVec.toNat_cast, BitVec.extractLsb_toNat, Nat.shiftRight_eq_div_pow]
  simp

/-- The sign of a float that is negative or not. -/
def signOf (negative : Bool) : Sign := if negative then .negative else .positive

theorem ofBitVec_unpackSign (b : BitVec 64) :
    Sign.ofBitVec (@unpackSign Format.binary64 b) = signOf (decide (2 ^ 63 ≤ b.toNat)) := by
  have hsign : (@unpackSign Format.binary64 b).toNat = b.toNat / 2 ^ 63 % 2 := by
    rw [unpackSign, BitVec.toNat_cast, BitVec.extractLsb_toNat, Nat.shiftRight_eq_div_pow]
    rfl
  have hb := b.isLt
  have hzero : @unpackSign Format.binary64 b = 0#1 ↔ ¬ 2 ^ 63 ≤ b.toNat := by
    rw [← BitVec.toNat_inj, hsign, BitVec.toNat_ofNat]
    omega
  by_cases hle : 2 ^ 63 ≤ b.toNat
  · rw [Sign.ofBitVec, if_neg fun h => hzero.1 h hle, decide_eq_true hle]
    rfl
  · rw [Sign.ofBitVec, if_pos (hzero.2 hle), decide_eq_false hle]
    rfl

/-! ### Exact numbers -/

/-- An exact number, or the infinity of a sign. -/
abbrev Extended := WithBot (WithTop ℚ)

/-- A rational number as an extended one. -/
def Extended.ofRat (r : ℚ) : Extended := ((r : WithTop ℚ) : WithBot (WithTop ℚ))

@[simp] theorem Extended.ofRat_lt_ofRat {a b : ℚ} : ofRat a < ofRat b ↔ a < b := by
  rw [ofRat, ofRat, WithBot.coe_lt_coe, WithTop.coe_lt_coe]

@[simp] theorem Extended.ofRat_le_ofRat {a b : ℚ} : ofRat a ≤ ofRat b ↔ a ≤ b := by
  rw [ofRat, ofRat, WithBot.coe_le_coe, WithTop.coe_le_coe]

theorem Extended.ofRat_inj {a b : ℚ} : ofRat a = ofRat b ↔ a = b := by
  rw [ofRat, ofRat, WithBot.coe_inj, WithTop.coe_inj]

/-- What is at least a rational number is infinite or rational. -/
theorem Extended.eq_top_or_ofRat {a : ℚ} {v : Extended} (h : ofRat a ≤ v) : v = ⊤ ∨ ∃ r, v = ofRat r := by
  obtain ⟨w, rfl⟩ := WithBot.ne_bot_iff_exists.1 ((WithBot.bot_lt_coe _).trans_le h).ne'
  by_cases hw : w = ⊤
  · exact .inl (congrArg _ hw)
  · obtain ⟨r, rfl⟩ := WithTop.ne_top_iff_exists.1 hw
    exact .inr ⟨r, rfl⟩

@[simp] theorem Extended.bot_lt_ofRat (a : ℚ) : ⊥ < ofRat a := WithBot.bot_lt_coe _

@[simp] theorem Extended.ofRat_lt_top (a : ℚ) : ofRat a < ⊤ := WithBot.coe_lt_coe.2 (WithTop.coe_lt_top a)

/-- What is infinite is not rational. -/
theorem Extended.unbounded_ne_ofRat (negative : Bool) (r : ℚ) : (if negative then ⊥ else ⊤ : Extended) ≠ ofRat r := by
  cases negative
  · exact (ofRat_lt_top r).ne'
  · exact (bot_lt_ofRat r).ne

/-- The number that a float stands for as its parts; a NaN stands for none. -/
def Parts.value? : Parts → Option Extended
  | .nan => none
  | .infinite negative => some (if negative then ⊥ else ⊤)
  | .finite negative m q => some (Extended.ofRat ((if negative then -(m : ℤ) else m : ℤ) * 2 ^ q))

/-- The number that a float stands for. -/
def value? (x : Float) : Option Extended := (parts x).value?

/-- The number that an unpacked float stands for. -/
def unpacked? : UnpackedFloat → Option Extended
  | .notANumber => none
  | .infinity s => some (match s with | .negative => ⊥ | .positive => ⊤)
  | .zero _ => some (Extended.ofRat 0)
  | .finite s m e _ => some (Extended.ofRat (s.apply m * 2 ^ e))

theorem eq_notANumber {u : UnpackedFloat} (h : unpacked? u = none) : u = .notANumber := by
  cases u with
  | notANumber => rfl
  | infinity | zero | finite => cases h

theorem eq_infinity {u : UnpackedFloat} (h : unpacked? u = some ⊤) : u = .infinity .positive := by
  cases u with
  | notANumber => cases h
  | infinity s =>
    cases s with
    | negative => exact absurd (Option.some.inj h) bot_ne_top
    | positive => rfl
  | zero | finite => exact absurd (Option.some.inj h) (Extended.ofRat_lt_top _).ne

/-- What stands for a rational number that is not negative. -/
theorem eq_zero_or_finite {u : UnpackedFloat} {r : ℚ} (h : unpacked? u = some (Extended.ofRat r)) (hr : 0 ≤ r) :
    (∃ s, u = .zero s ∧ r = 0) ∨ ∃ m e hm, u = .finite .positive m e hm ∧ r = m * 2 ^ e := by
  cases u with
  | notANumber => cases h
  | infinity s =>
    cases s with
    | negative => exact absurd (Option.some.inj h) (Extended.bot_lt_ofRat r).ne
    | positive => exact absurd (Option.some.inj h) (Extended.ofRat_lt_top r).ne'
  | zero s => exact .inl ⟨s, rfl, (Extended.ofRat_inj.1 (Option.some.inj h)).symm⟩
  | finite s m e hm =>
    have hvalue : ((s.apply m : ℤ) : ℚ) * 2 ^ e = r := Extended.ofRat_inj.1 (Option.some.inj h)
    have hpos : (0 : ℚ) < m * 2 ^ e := by positivity
    cases s with
    | negative =>
      rw [Sign.apply, Int.cast_neg, neg_mul, Int.cast_natCast] at hvalue
      exact absurd hr (hvalue ▸ neg_neg_of_pos hpos).not_ge
    | positive => exact .inr ⟨m, e, hm, rfl, hvalue.symm⟩

/-- The parts of a float by its fields. -/
theorem parts_eq (x : Float) :
    parts x =
      if x.toBits.toNat / 2 ^ 52 % 2 ^ 11 = 2047 then
        if x.toBits.toNat % 2 ^ 52 = 0 then .infinite (decide (2 ^ 63 ≤ x.toBits.toNat)) else .nan
      else if x.toBits.toNat / 2 ^ 52 % 2 ^ 11 = 0 then
        .finite (decide (2 ^ 63 ≤ x.toBits.toNat)) (x.toBits.toNat % 2 ^ 52) (-1074)
      else .finite (decide (2 ^ 63 ≤ x.toBits.toNat)) (2 ^ 52 + x.toBits.toNat % 2 ^ 52)
        ((x.toBits.toNat / 2 ^ 52 % 2 ^ 11 : Nat) - 1075) := by
  simp only [parts, beq_iff_eq]
  rfl

/-- What operations take a float for, by the same fields. -/
theorem unpack_eq (x : Float) :
    x.toModel.unpack = ofFields (signOf (decide (2 ^ 63 ≤ x.toBits.toNat))) (x.toBits.toNat / 2 ^ 52 % 2 ^ 11)
      (x.toBits.toNat % 2 ^ 52) := by
  rw [Float.Model.unpack, unpack_eq_ofFields, toNat_unpackExponent, toNat_unpackMantissa, ofBitVec_unpackSign]
  rfl

theorem signOf_apply (negative : Bool) (n : ℤ) : (signOf negative).apply n = if negative then -n else n := by
  cases negative <;> rfl

/-- Operations take a float for the number that it stands for. -/
theorem value?_eq (x : Float) : value? x = unpacked? x.toModel.unpack := by
  rw [value?, parts_eq, unpack_eq, ofFields]
  generalize decide (2 ^ 63 ≤ x.toBits.toNat) = negative
  split
  · split
    · cases negative <;> rfl
    · rfl
  · split
    · split
      · rename_i hzero
        rw [hzero]
        cases negative <;> simp [Parts.value?, unpacked?]
      · rw [Parts.value?, unpacked?, signOf_apply]
    · rw [Parts.value?, unpacked?, signOf_apply]

/-! ### Order -/

/-- Mantissa and exponent in the one form that they have in a float, the greatest exponent aside. -/
structure Canonical (m : Nat) (e : Int) : Prop where
  fits : m < 2 ^ 53
  least : -1074 ≤ e
  full : 2 ^ 52 ≤ m ∨ e = -1074

/-- An unpacked float has its one form, and is not beyond the greatest float. -/
def IsCanonical : UnpackedFloat → Prop
  | .finite _ m e _ => Canonical m e ∧ e ≤ 971
  | _ => True

theorem isCanonical_ofFields (s : Sign) {exponent fraction : Nat} (hexponent : exponent < 2 ^ 11)
    (hfraction : fraction < 2 ^ 52) : IsCanonical (ofFields s exponent fraction) := by
  rw [ofFields]
  split
  · split <;> trivial
  · split
    · split
      · trivial
      · exact ⟨⟨by omega, by omega, .inr rfl⟩, by omega⟩
    · exact ⟨⟨by omega, by omega, .inl (by omega)⟩, by omega⟩

theorem isCanonical_unpack (x : Float) : IsCanonical x.toModel.unpack := by
  rw [unpack_eq]
  exact isCanonical_ofFields _ (Nat.mod_lt _ (by decide)) (Nat.mod_lt _ (by decide))

/-- Of two canonical numbers that with the smaller exponent is the smaller one, whatever the mantissas are. -/
theorem lt_of_exponent_lt {m m' : Nat} {e e' : Int} (h : Canonical m e) (h' : Canonical m' e') (he : e < e') :
    (m * 2 ^ e : ℚ) < m' * 2 ^ e' := by
  have hm : (m : ℚ) < 2 ^ 53 := by exact_mod_cast h.fits
  have hleast := h.least
  have hfull : (2 ^ 52 : ℚ) ≤ m' := by exact_mod_cast h'.full.resolve_right (by omega)
  calc (m * 2 ^ e : ℚ) < 2 ^ 53 * 2 ^ e := by gcongr
    _ = 2 ^ 52 * 2 ^ (e + 1) := by rw [zpow_add_one₀ two_ne_zero]; ring
    _ ≤ m' * 2 ^ e' := by gcongr <;> norm_num; omega

theorem canonical_lt_iff {m m' : Nat} {e e' : Int} (h : Canonical m e) (h' : Canonical m' e') :
    (m * 2 ^ e : ℚ) < m' * 2 ^ e' ↔ e < e' ∨ e = e' ∧ m < m' := by
  rcases lt_trichotomy e e' with he | rfl | he
  · simp [he, lt_of_exponent_lt h h' he]
  · simp [zpow_pos]
  · simp [he.not_gt, he.ne', (lt_of_exponent_lt h' h he).le]

theorem then_eq_lt {m m' : Nat} {e e' : Int} :
    (compare e e').then (compare m m') = .lt ↔ e < e' ∨ e = e' ∧ m < m' := by
  rw [Ordering.then_eq_lt, compare_lt_iff_lt, compare_eq_iff_eq, compare_lt_iff_lt]

theorem then_eq_gt {m m' : Nat} {e e' : Int} :
    (compare e e').then (compare m m') = .gt ↔ e' < e ∨ e' = e ∧ m' < m := by
  rw [Ordering.then_eq_gt, compare_gt_iff_gt, compare_eq_iff_eq, compare_gt_iff_gt, eq_comm]

/-- Of two unpacked floats one comes first exactly if it stands for a smaller number. -/
theorem compare_eq_lt {a b : UnpackedFloat} (ha : IsCanonical a) (hb : IsCanonical b) :
    a.compare b = some .lt ↔ ∃ u v, unpacked? a = some u ∧ unpacked? b = some v ∧ u < v := by
  have hpos {m : Nat} (e : Int) (hm : 0 < m) : (0 : ℚ) < m * 2 ^ e := by positivity
  cases a with
  | notANumber => simp [UnpackedFloat.compare, unpacked?]
  | infinity s =>
    cases b with
    | notANumber => simp [UnpackedFloat.compare, unpacked?]
    | infinity t => cases s <;> cases t <;> simp [UnpackedFloat.compare, unpacked?, compare]
    | zero t | finite t m e hm => cases s <;> simp [UnpackedFloat.compare, unpacked?]
  | zero s =>
    cases b with
    | notANumber => simp [UnpackedFloat.compare, unpacked?]
    | infinity t => cases t <;> simp [UnpackedFloat.compare, unpacked?]
    | zero t => simp [UnpackedFloat.compare, unpacked?]
    | finite t m e hm =>
      have h := hpos e hm
      cases t <;> simp [UnpackedFloat.compare, unpacked?, Sign.apply, h, h.le]
  | finite s m e hm =>
    have h := hpos e hm
    cases b with
    | notANumber => simp [UnpackedFloat.compare, unpacked?]
    | infinity t => cases t <;> simp [UnpackedFloat.compare, unpacked?]
    | zero t => cases s <;> simp [UnpackedFloat.compare, unpacked?, Sign.apply, h, h.le]
    | finite t m' e' hm' =>
      have h' := hpos e' hm'
      cases s <;> cases t
      · simp [UnpackedFloat.compare, unpacked?, Sign.apply, then_eq_gt, canonical_lt_iff hb.1 ha.1]
      · simp [UnpackedFloat.compare, unpacked?, Sign.apply, (neg_neg_of_pos h).trans h']
      · simp [UnpackedFloat.compare, unpacked?, Sign.apply, ((neg_neg_of_pos h').trans h).le]
      · simp [UnpackedFloat.compare, unpacked?, Sign.apply, then_eq_lt, canonical_lt_iff ha.1 hb.1]

/-- The order of floats is that of the numbers that they stand for. -/
theorem lt_iff (x y : Float) : x < y ↔ ∃ u v, value? x = some u ∧ value? y = some v ∧ u < v := by
  rw [value?_eq, value?_eq, ← compare_eq_lt (isCanonical_unpack x) (isCanonical_unpack y)]
  change decide (x.toModel < y.toModel) = true ↔ _
  rw [decide_eq_true_iff]
  exact beq_iff_eq

/-- A finite float as a fraction. -/
theorem toFraction?_of_finite {x : Float} {negative : Bool} {m : Nat} {q : Int}
    (h : parts x = .finite negative m q) :
    ∃ num den, toFraction? x = some (num, den) ∧ 0 < den ∧ value? x = some (Extended.ofRat (num / den)) := by
  rw [toFraction?, value?, h]
  dsimp only
  by_cases hq : q ≥ 0
  · rw [if_pos hq]
    lift q to ℕ using hq
    refine ⟨_, _, rfl, Nat.one_pos, ?_⟩
    cases negative <;> simp [Parts.value?, pow2]
  · rw [if_neg hq]
    obtain ⟨k, rfl⟩ : ∃ k : ℕ, q = -k := ⟨(-q).toNat, by omega⟩
    refine ⟨_, _, rfl, Nat.two_pow_pos _, ?_⟩
    cases negative <;> simp [Parts.value?, pow2, div_eq_mul_inv]

end Binary64

namespace Number

open Binary64

/-- The number that a number is; a NaN is none. -/
def value? : Number → Option Extended
  | .whole n => some (Extended.ofRat n)
  | .real x => Binary64.value? x

theorem intLtFloat_iff (n : Int) (x : Float) :
    intLtFloat n x = true ↔ ∃ v, Binary64.value? x = some v ∧ Extended.ofRat n < v := by
  rw [intLtFloat]
  cases hparts : parts x with
  | nan => simp [Binary64.value?, hparts, Parts.value?]
  | infinite negative => cases negative <;> simp [Binary64.value?, hparts, Parts.value?]
  | finite negative m q =>
    obtain ⟨num, den, hfraction, hden, hexact⟩ := toFraction?_of_finite hparts
    have hden' : (0 : ℚ) < den := by exact_mod_cast hden
    rw [hfraction, hexact]
    simp only [Option.some.injEq, exists_eq_left', Extended.ofRat_lt_ofRat, lt_div_iff₀ hden', decide_eq_true_iff]
    norm_cast

theorem floatLtInt_iff (x : Float) (n : Int) :
    floatLtInt x n = true ↔ ∃ u, Binary64.value? x = some u ∧ u < Extended.ofRat n := by
  rw [floatLtInt]
  cases hparts : parts x with
  | nan => simp [Binary64.value?, hparts, Parts.value?]
  | infinite negative => cases negative <;> simp [Binary64.value?, hparts, Parts.value?]
  | finite negative m q =>
    obtain ⟨num, den, hfraction, hden, hexact⟩ := toFraction?_of_finite hparts
    have hden' : (0 : ℚ) < den := by exact_mod_cast hden
    rw [hfraction, hexact]
    simp only [Option.some.injEq, exists_eq_left', Extended.ofRat_lt_ofRat, div_lt_iff₀ hden', decide_eq_true_iff]
    norm_cast

/-- The order of numbers is that of the numbers that they stand for. -/
theorem lt_iff (x y : Number) : x.lt y = true ↔ ∃ u v, x.value? = some u ∧ y.value? = some v ∧ u < v := by
  cases x with
  | whole a =>
    cases y with
    | whole b => simp [lt, value?]
    | real y => simp [lt, value?, intLtFloat_iff]
  | real x =>
    cases y with
    | whole b => simp [lt, value?, floatLtInt_iff]
    | real y => simp [lt, value?, Binary64.lt_iff]

end Number

end RecordMapper
