import RecordMapper.Number.Numeral

/-!
Integers as texts. A natural number is written as its decimal digits, and an integer as the digits of its size, behind a
dash if it is negative. Nothing stands around them, so the reader takes them to the end. Main statement: an integer is
read from its text, unless it has too many digits.
-/
namespace RecordMapper

/-- A digit is no character that is none. -/
theorem ne_of_isDigit {c d : Char} (hc : c.isDigit = true) (hd : d.isDigit = false) : c ≠ d := by
  rintro rfl
  exact Bool.false_ne_true (hd.symm.trans hc)

namespace Text

/-- Nothing is trimmed where both ends are kept. -/
theorem trimWhile_eq_self {p : Char → Bool} {s : List Char} (hfirst : ∀ c ∈ s.head?, p c = false)
    (hlast : ∀ c ∈ s.getLast?, p c = false) : trimWhile p s = s := by
  have hkept {s : List Char} (h : ∀ c ∈ s.head?, p c = false) : s.dropWhile p = s := by
    cases s with
    | nil => rfl
    | cons c rest => exact List.dropWhile_cons_of_neg (by simp [h c rfl])
  rw [trimWhile, hkept hfirst, dropRightWhile, hkept (by simpa using hlast), List.reverse_reverse]

end Text

namespace Numeral

open Text

/-! ### Digits -/

theorem toNat_of_isDigit {c : Char} (h : c.isDigit = true) : 48 ≤ c.toNat ∧ c.toNat ≤ 57 := Char.isDigit_iff_toNat.1 h

theorem lt_of_isDigit {c : Char} (h : c.isDigit = true) : c.toNat < 128 := by
  have := toNat_of_isDigit h
  omega

theorem isSpace_of_isDigit {c : Char} (h : c.isDigit = true) : isSpace c = false := by
  have := toNat_of_isDigit h
  simp only [isSpace, Bool.or_eq_false_iff, Bool.and_eq_false_iff, decide_eq_false_iff_not, beq_eq_false_iff_ne]
  exact ⟨ne_of_isDigit h rfl, by omega⟩

section
variable {n : Nat}

theorem isDigit_of_mem_toDigits {c : Char} (h : c ∈ Nat.toDigits 10 n) : c.isDigit = true :=
  Nat.isDigit_of_mem_toDigits (by decide) (by decide) h

theorem toList_toString_nat (n : Nat) : (toString n).toList = Nat.toDigits 10 n := by
  rw [Nat.toString_eq_repr, Nat.toList_repr]

theorem isDigit_of_mem_toString {c : Char} (h : c ∈ (toString n).toList) : c.isDigit = true := by
  rw [toList_toString_nat] at h
  exact isDigit_of_mem_toDigits h

theorem toDigits_eq_cons (n : Nat) : ∃ c rest, Nat.toDigits 10 n = c :: rest ∧ c.isDigit = true := by
  obtain ⟨c, rest, hdigits⟩ := List.exists_cons_of_ne_nil (Nat.toDigits_ne_nil (n := n) (b := 10))
  exact ⟨c, rest, hdigits, isDigit_of_mem_toDigits (hdigits ▸ List.mem_cons_self)⟩

/-- The digits of a number begin with a zero only if it is zero. -/
theorem head?_toDigits (h : 0 < n) : (Nat.toDigits 10 n).head? ≠ some '0' := by
  induction n using Nat.strongRecOn with
  | ind n ih =>
    by_cases hn : n < 10
    · have hdigit : ∀ m : Fin 10, 0 < m.val → (some m.val.digitChar) ≠ some '0' := by decide
      rw [Nat.toDigits_of_lt_base hn]
      exact hdigit ⟨n, hn⟩ h
    · have hhead := ih (n / 10) (by omega) (by omega)
      obtain ⟨c, rest, hdigits, -⟩ := toDigits_eq_cons (n / 10)
      rw [Nat.toDigits_of_base_le (by decide) (Nat.not_lt.1 hn), hdigits]
      rwa [hdigits] at hhead

end

/-- Digits are read to the end. -/
theorem integerDigits?_of_isDigit : ∀ {s : List Char}, (∀ c ∈ s, c.isDigit = true) → ∀ afterDigit,
    (s ≠ [] ∨ afterDigit = true) → integerDigits? afterDigit s = some (s.map fun c => c.toNat - 48, [])
  | [], _, afterDigit, h => by
    rw [integerDigits?, h.resolve_left (· rfl)]
    rfl
  | c :: rest, hs, afterDigit, _ => by
    have hrest := integerDigits?_of_isDigit (fun d hd => hs d (List.mem_cons_of_mem c hd)) true (.inr rfl)
    rw [integerDigits?, asciiDigit?, if_pos (hs c List.mem_cons_self)]
    dsimp only
    rw [hrest]
    rfl

theorem ofDigits_map (s : List Char) : ofDigits (s.map fun c => c.toNat - 48) = Nat.ofDigitChars 10 s 0 := by
  rw [ofDigits, List.foldl_map, Nat.ofDigitChars_eq_foldl]
  rfl

/-! ### Signs -/

/-- The sign of an integer, if it is written. -/
def signOf (n : Int) : List Char := if n < 0 then ['-'] else []

theorem toList_toString : ∀ n : Int, (toString n).toList = signOf n ++ Nat.toDigits 10 n.natAbs
  | .ofNat m => toList_toString_nat m
  | .negSucc m => by
    have htext : toString (Int.negSucc m) = "-" ++ toString (m + 1) := rfl
    rw [htext, String.toList_append, toList_toString_nat, signOf, if_pos (Int.negSucc_lt_zero m)]
    rfl

section
variable {s : List Char} (hs : ∀ c ∈ s, c.isDigit = true)
include hs

/-- Nothing stands around digits. -/
theorem takeSign_of_isDigit : takeSign ((narrow s).dropWhile isSpace) = (false, s) := by
  have hascii : s.all (·.toNat < 128) = true :=
    List.all_eq_true.2 fun c hc => decide_eq_true (lt_of_isDigit (hs c hc))
  rw [narrow, if_pos hascii]
  cases s with
  | nil => rfl
  | cons c rest =>
    have hc := hs c List.mem_cons_self
    rw [List.dropWhile_cons_of_neg (by simp [isSpace_of_isDigit hc]), takeSign]
    · rintro rest' ⟨⟩
      cases hc
    · rintro rest' ⟨⟩
      cases hc

theorem takeSign_dash : takeSign ((narrow ('-' :: s)).dropWhile isSpace) = (true, s) := by
  have hascii : ('-' :: s).all (·.toNat < 128) = true :=
    List.all_eq_true.2 (List.forall_mem_cons.2 ⟨rfl, fun c hc => decide_eq_true (lt_of_isDigit (hs c hc))⟩)
  rw [narrow, if_pos hascii]
  rfl

end

/-! ### Reading -/

/-- The sign and the digits of an integer are read as the integer, unless there are too many digits. -/
theorem readInt_signed (n : Int) :
    readInt (signOf n ++ Nat.toDigits 10 n.natAbs) =
      if isTooLong n then .error (.tooLong (Nat.toDigits 10 n.natAbs).length) else .ok n := by
  have hdigits : ∀ c ∈ Nat.toDigits 10 n.natAbs, c.isDigit = true := fun c hc => isDigit_of_mem_toDigits hc
  have htaken : takeSign ((narrow (signOf n ++ Nat.toDigits 10 n.natAbs)).dropWhile isSpace) =
      (decide (n < 0), Nat.toDigits 10 n.natAbs) := by
    rw [signOf]
    split
    · rename_i hsign
      rw [List.singleton_append, takeSign_dash hdigits, decide_eq_true hsign]
    · rename_i hsign
      rw [List.nil_append, takeSign_of_isDigit hdigits, decide_eq_false hsign]
  rw [readInt, htaken]
  dsimp only
  rw [integerDigits?_of_isDigit hdigits false (.inl Nat.toDigits_ne_nil)]
  dsimp only
  rw [List.length_map, ofDigits_map, Nat.ofDigitChars_ten_toDigits, isTooLong]
  by_cases hlong : maxDigits < (Nat.toDigits 10 n.natAbs).length
  · rw [if_pos hlong, if_pos (decide_eq_true hlong)]
  · have hvalue : (if decide (n < 0) = true then -(n.natAbs : Int) else n.natAbs) = n := by
      split
      · rename_i hsign
        have := of_decide_eq_true hsign
        omega
      · rename_i hsign
        have := of_decide_eq_false (Bool.eq_false_iff.2 hsign)
        omega
    rw [if_neg hlong, if_neg (by simp), hvalue, if_neg (by simpa using hlong)]

/-- The decimal digits of a number are read as that number, unless there are too many. -/
theorem readInt_toString (n : Nat) :
    readInt (toString n).toList =
      if (toString n).length ≤ maxDigits then .ok (n : Int) else .error (.tooLong (toString n).length) := by
  have hread := readInt_signed n
  have hsign : signOf n = [] := if_neg (by omega)
  rw [hsign, List.nil_append, Int.natAbs_natCast, isTooLong, Int.natAbs_natCast] at hread
  rw [← String.length_toList, toList_toString_nat, hread]
  by_cases hlong : (Nat.toDigits 10 n).length ≤ maxDigits
  · rw [if_pos hlong, if_neg (by simpa using hlong)]
  · rw [if_neg hlong, if_pos (by simpa using hlong)]

/-! ### Sizes -/

theorem lt_of_asciiDigit? {c : Char} {d : Nat} (h : asciiDigit? c = some d) : d < 10 := by
  rw [asciiDigit?] at h
  split at h
  · rename_i hdigit
    have := toNat_of_isDigit hdigit
    have := Option.some.inj h
    omega
  · cases h

theorem lt_of_integerDigits? {afterDigit : Bool} {s rest : List Char} {digits : List Nat}
    (h : integerDigits? afterDigit s = some (digits, rest)) : ∀ d ∈ digits, d < 10 := by
  induction s generalizing afterDigit digits rest with
  | nil =>
    rw [integerDigits?] at h
    split at h
    · cases h
      exact List.forall_mem_nil _
    · cases h
  | cons c s ih =>
    rw [integerDigits?] at h
    split at h
    · rename_i d hd
      obtain ⟨⟨digits', rest'⟩, hrest, h⟩ := Option.map_eq_some_iff.1 h
      cases h
      exact List.forall_mem_cons.2 ⟨lt_of_asciiDigit? hd, ih hrest⟩
    · split at h
      · cases h
      · split at h
        · exact ih h
        · cases h
          exact List.forall_mem_nil _

/-- Digits write a number of no more digits. -/
theorem foldl_digits_lt {digits : List Nat} (h : ∀ d ∈ digits, d < 10) (n : Nat) :
    digits.foldl (fun n d => 10 * n + d) n < (n + 1) * pow10 digits.length := by
  induction digits generalizing n with
  | nil => simp [pow10]
  | cons d digits ih =>
    obtain ⟨hd, hdigits⟩ := List.forall_mem_cons.1 h
    calc (d :: digits).foldl (fun n d => 10 * n + d) n
        < (10 * n + d + 1) * pow10 digits.length := ih hdigits (10 * n + d)
      _ ≤ (10 * (n + 1)) * pow10 digits.length := Nat.mul_le_mul_right _ (by omega)
      _ = (n + 1) * pow10 (d :: digits).length := by
        have hten : pow10 (d :: digits).length = pow10 digits.length * 10 := rfl
        rw [hten, Nat.mul_comm 10, Nat.mul_assoc, Nat.mul_comm 10]

/-- An integer that has been read is not too long to be shown. -/
theorem isTooLong_of_readInt {s : List Char} {n : Int} (h : readInt s = .ok n) : isTooLong n = false := by
  rw [readInt] at h
  dsimp only at h
  split at h
  · cases h
  · rename_i digits rest hdigits
    split at h
    · cases h
    · rename_i hshort
      split at h
      · cases h
      · have hsize : n.natAbs = ofDigits digits := by
          rw [← Except.ok.inj h]
          split <;> omega
        have hlt : ofDigits digits < (0 + 1) * pow10 digits.length := foldl_digits_lt (lt_of_integerDigits? hdigits) 0
        have hmost : ofDigits digits < 10 ^ maxDigits := by
          calc ofDigits digits < 10 ^ digits.length := by simpa [pow10] using hlt
            _ ≤ 10 ^ maxDigits := Nat.pow_le_pow_right (by decide) (by omega)
        rw [isTooLong, hsize, decide_eq_false_iff_not, Nat.not_lt]
        exact (Nat.length_toDigits_le_iff (by decide) (by decide)).2 hmost

end Numeral

end RecordMapper
