import RecordMapper.Json.Reader
import RecordMapper.Json.Writer
import RecordMapper.Proofs.IntegerTexts
import RecordMapper.Proofs.Statement

/-!
Tokens of JSON texts. A character between quotes stands for itself, is escaped by a letter, or is escaped as one or two
units of sixteen bits; an integer is a sign with decimal digits, which the reader takes as far as they go. Main
statements: texts between quotes and integers that are not too long are read from what is written for them.
-/
namespace RecordMapper.Json

/-! ### Texts between quotes -/

section
variable {n : Nat} {rest : List Char}

theorem hexDigit?_hexChar (h : n < 16) : Text.hexDigit? (Text.hexChar n) = some n := by
  have hdigit : ∀ n : Fin 16, Text.hexDigit? (Text.hexChar n) = some n.val := by decide
  exact hdigit ⟨n, h⟩

/-- A unit of sixteen bits is read from its four digits. -/
theorem hexUnit?_hex (h : n < 0x10000) (rest : List Char) : hexUnit? (Text.hex 4 n ++ rest) = some (n, rest) := by
  have hdigit (m : Nat) : Text.hexDigit? (Text.hexChar (m % 16)) = some (m % 16) :=
    hexDigit?_hexChar (Nat.mod_lt m (by decide))
  have hjoined : ((n / 16 / 16 / 16 % 16 * 16 + n / 16 / 16 % 16) * 16 + n / 16 % 16) * 16 + n % 16 = n := by omega
  simp only [Text.hex, List.nil_append, List.cons_append, hexUnit?, hdigit, Option.bind_eq_bind, Option.bind_some,
    hjoined]
  rfl

/-- A unit that is no first half of a pair is read by itself. -/
theorem readPoint_escapeUnit (h : n < 0x10000) (hplain : isHighSurrogate n = false) (hrest : rest ≠ []) :
    readPoint (escapeUnit n ++ rest) = .ok (some n, rest) := by
  have hlong : ¬ (Text.hex 4 n ++ rest).length ≤ 4 := by
    have := List.length_pos_iff.2 hrest
    simp [Text.hex]
    omega
  rw [escapeUnit, List.cons_append, List.cons_append, readPoint, if_neg hlong, hexUnit?_hex h]
  simp [hplain]
  rfl

/-- The two units of a pair are read as one. -/
theorem readPoint_pair {high low : Nat} (hhigh : high < 0x400) (hlow : low < 0x400) (hrest : rest ≠ []) :
    readPoint (escapeUnit (0xD800 + high) ++ (escapeUnit (0xDC00 + low) ++ rest)) =
      .ok (some (0x10000 + high * 0x400 + low), rest) := by
  have hmore : ¬ (Text.hex 4 (0xDC00 + low) ++ rest).length ≤ 4 := by
    have := List.length_pos_iff.2 hrest
    simp [Text.hex]
    omega
  have hlong : ¬ (Text.hex 4 (0xD800 + high) ++ (escapeUnit (0xDC00 + low) ++ rest)).length ≤ 4 := by
    simp [escapeUnit, Text.hex]
  have hfirst : isHighSurrogate (0xD800 + high) = true := by simp [isHighSurrogate]; omega
  have hlast : isLowSurrogate (0xDC00 + low) = true := by simp [isLowSurrogate]; omega
  have hsecond : secondHalf (0xD800 + high) (escapeUnit (0xDC00 + low) ++ rest) =
      .ok (0x10000 + high * 0x400 + low, rest) := by
    rw [escapeUnit, List.cons_append, List.cons_append, secondHalf, if_neg hmore, hexUnit?_hex (by omega)]
    simp [hlast]
  rw [escapeUnit, List.cons_append, List.cons_append, readPoint, if_neg hlong, hexUnit?_hex (by omega)]
  simp only [hfirst, if_true, hsecond, ok_bind]
  rfl

/-- A character that needs no escape stands for itself. -/
theorem readPoint_plain {c : Char} (hquote : c ≠ '"') (hslash : c ≠ '\\') (h : 32 ≤ c.toNat) :
    readPoint (c :: rest) = .ok (some c.toNat, rest) := by
  rw [readPoint, if_neg (by omega)]
  all_goals
    intros
    contradiction

/-- The characters with an escape of one letter. -/
theorem readPoint_short : ∀ n ∈ [34, 92, 8, 12, 10, 13, 9], readPoint (writePoint n ++ rest) = .ok (some n, rest) := by
  simp only [List.forall_mem_cons]
  exact ⟨rfl, rfl, rfl, rfl, rfl, rfl, rfl, nofun⟩

theorem writePoint_of_not_short (h : n ∉ [34, 92, 8, 12, 10, 13, 9]) :
    writePoint n = if 32 ≤ n ∧ n < 127 then [Char.ofNat n] else escapePoint n := by
  simp only [List.mem_cons, List.not_mem_nil, or_false, not_or] at h
  simp [writePoint, h]

/-- A character is read from its text between quotes, if something follows it. -/
theorem readPoint_writePoint (h : n.isValidChar) (hrest : rest ≠ []) :
    readPoint (writePoint n ++ rest) = .ok (some n, rest) := by
  by_cases hshort : n ∈ [34, 92, 8, 12, 10, 13, 9]
  · exact readPoint_short n hshort
  rw [writePoint_of_not_short hshort]
  split
  · rename_i hprintable
    have hn : (Char.ofNat n).toNat = n := by
      rw [Char.ofNat, dif_pos h]
      rfl
    have hne {m : Nat} (hm : m ∈ [34, 92, 8, 12, 10, 13, 9]) (c : Char) (hc : c.toNat = m) : Char.ofNat n ≠ c := by
      rintro rfl
      rw [hn] at hc
      exact hshort (hc ▸ hm)
    have hread : readPoint (Char.ofNat n :: rest) = .ok (some (Char.ofNat n).toNat, rest) :=
      readPoint_plain (hne (by decide) '"' rfl) (hne (by decide) '\\' rfl) (hn.symm ▸ hprintable.1)
    rwa [hn] at hread
  · rw [escapePoint]
    split
    · rename_i hunit
      refine readPoint_escapeUnit hunit ?_ hrest
      have hsurrogates : n < 0xD800 ∨ 0xDFFF < n ∧ n < 0x110000 := h
      simp [isHighSurrogate]
      omega
    · rename_i hpair
      have hvalid : n < 0xD800 ∨ 0xDFFF < n ∧ n < 0x110000 := h
      have hjoined : 0x10000 + (n - 0x10000) / 0x400 * 0x400 + (n - 0x10000) % 0x400 = n := by omega
      rw [List.append_assoc, readPoint_pair (by omega) (by omega) hrest, hjoined]

/-- A text between quotes is read up to the closing quote. -/
theorem readPoints_flatMap : ∀ {points : List Nat}, (∀ n ∈ points, n.isValidChar) → ∀ {fuel : Nat},
    points.length < fuel → ∀ rest, readPoints fuel (points.flatMap writePoint ++ '"' :: rest) = .ok (points, rest)
  | [], _, fuel + 1, _, rest => rfl
  | n :: points, hpoints, fuel + 1, hfuel, rest => by
    obtain ⟨hn, hrest⟩ := List.forall_mem_cons.1 hpoints
    have hshorter : points.length < fuel := Nat.lt_of_succ_lt_succ hfuel
    rw [List.flatMap_cons, List.append_assoc, readPoints, readPoint_writePoint hn (by simp), ok_bind]
    dsimp only
    rw [readPoints_flatMap hrest hshorter]
    rfl

theorem writePoint_ne_nil (n : Nat) : writePoint n ≠ [] := by
  by_cases hshort : n ∈ [34, 92, 8, 12, 10, 13, 9]
  · intro hnil
    have hread : readPoint (writePoint n ++ []) = .ok (some n, []) := readPoint_short n hshort
    rw [hnil] at hread
    cases hread
  · rw [writePoint_of_not_short hshort, escapePoint]
    split
    · exact List.cons_ne_nil _ _
    · split
      · exact List.cons_ne_nil _ _
      · exact List.append_ne_nil_of_left_ne_nil (List.cons_ne_nil _ _) _

theorem length_le_flatMap (points : List Nat) : points.length ≤ (points.flatMap writePoint).length := by
  induction points with
  | nil => exact Nat.le_refl 0
  | cons n points ih =>
    have hone := List.length_pos_iff.2 (writePoint_ne_nil n)
    rw [List.flatMap_cons, List.length_append, List.length_cons]
    omega

theorem ofPoints_text (s : String) : Value.ofPoints (s.toList.map Char.toNat) = .text s := by
  have hchars (chars : List Char) :
      (chars.map Char.toNat).mapM (fun n => if n.isValidChar then some (Char.ofNat n) else none) = some chars := by
    induction chars with
    | nil => rfl
    | cons c chars ih =>
      have hc : c.toNat.isValidChar := c.valid
      rw [List.map_cons, List.mapM_cons, ih, if_pos hc, Char.ofNat_toNat]
      rfl
  rw [Value.ofPoints, hchars]
  simp

/-- A text is read from its text between quotes. -/
theorem readText_writeText (s : String) (rest : List Char) :
    writeText s ++ rest = '"' :: ((s.toList.map Char.toNat).flatMap writePoint ++ '"' :: rest) ∧
      readText ((s.toList.map Char.toNat).flatMap writePoint ++ '"' :: rest) = .ok (.text s, rest) := by
  refine ⟨by simp [writeText, writePoints], ?_⟩
  have hvalid : ∀ n ∈ s.toList.map Char.toNat, n.isValidChar := by
    rintro _ hn
    obtain ⟨c, -, rfl⟩ := List.mem_map.1 hn
    exact c.valid
  have hlong := length_le_flatMap (s.toList.map Char.toNat)
  rw [readText, readPoints_flatMap hvalid (by rw [List.length_append]; omega), ok_bind]
  dsimp only
  rw [ofPoints_text]
  rfl

end

/-! ### Words and numbers -/

/-- What may stand behind a value: nothing, or a character that ends it. -/
def Ends (rest : List Char) : Prop := ∀ c ∈ rest.head?, c = ',' ∨ c = ']' ∨ c = '\x7d'

section
variable {rest : List Char} (hrest : Ends rest)
include hrest

theorem spanDigits_append {digits : List Char} (hdigits : ∀ c ∈ digits, c.isDigit = true) :
    spanDigits (digits ++ rest) = (digits, rest) := by
  have htake : rest.takeWhile Char.isDigit = [] ∧ rest.dropWhile Char.isDigit = rest := by
    cases rest with
    | nil => exact ⟨rfl, rfl⟩
    | cons c rest => obtain rfl | rfl | rfl := hrest c rfl <;> exact ⟨rfl, rfl⟩
  rw [spanDigits, List.takeWhile_append_of_pos hdigits, List.dropWhile_append_of_pos hdigits, htake.1, htake.2,
    List.append_nil]

theorem fractionPart_ends : fractionPart rest = ([], rest) := by
  cases rest with
  | nil => rfl
  | cons c rest => obtain rfl | rfl | rfl := hrest c rfl <;> rfl

theorem exponentPart_ends : exponentPart rest = ([], rest) := by
  cases rest with
  | nil => rfl
  | cons c rest => obtain rfl | rfl | rfl := hrest c rfl <;> rfl

/-- The digits of a number are a whole part. -/
theorem wholePart?_toDigits (n : Nat) : wholePart? (Nat.toDigits 10 n ++ rest) = some (Nat.toDigits 10 n, rest) := by
  by_cases hn : n = 0
  · rw [hn, Nat.toDigits_zero]
    rfl
  · have hhead := Numeral.head?_toDigits (Nat.pos_of_ne_zero hn)
    have hspan := spanDigits_append hrest fun c hc => Numeral.isDigit_of_mem_toDigits (n := n) hc
    obtain ⟨c, digits, hdigits, -⟩ := Numeral.toDigits_eq_cons n
    rw [hdigits] at hhead hspan ⊢
    rw [List.cons_append, wholePart?, ← List.cons_append, hspan]
    rintro tail ⟨⟩
    exact hhead rfl

/-- An integer is read from its text. -/
theorem readNumber_toString {n : Int} (h : Numeral.isTooLong n = false) :
    readNumber ((toString n).toList ++ rest) = .ok (.int n, rest) := by
  have hread := Numeral.readInt_signed n
  rw [if_neg (by simp [h])] at hread
  rw [Numeral.toList_toString, List.append_assoc]
  by_cases hsign : n < 0
  · rw [Numeral.signOf, if_pos hsign] at hread ⊢
    rw [List.singleton_append, readNumber]
    simp only [wholePart?_toDigits hrest, fractionPart_ends hrest, exponentPart_ends hrest, hread]
    rfl
  · obtain ⟨c, digits, hdigits, hc⟩ := Numeral.toDigits_eq_cons n.natAbs
    rw [Numeral.signOf, if_neg hsign] at hread ⊢
    rw [List.nil_append, readNumber]
    · simp only [wholePart?_toDigits hrest, fractionPart_ends hrest, exponentPart_ends hrest, hread]
      rfl
    · rintro tail hdash
      rw [hdigits] at hdash
      cases hdash
      cases hc

/-- No word begins like an integer. -/
theorem readScalar_toString {n : Int} (h : Numeral.isTooLong n = false) :
    readScalar ((toString n).toList ++ rest) = .ok (.int n, rest) := by
  obtain ⟨c, digits, hdigits, hc⟩ := Numeral.toDigits_eq_cons n.natAbs
  have hne {d : Char} (hd : d.isDigit = false) : (d == c) = false :=
    beq_eq_false_iff_ne.2 (ne_of_isDigit hc hd).symm
  have hnone : ∀ p ∈ words, Text.after? p.1.toList ((toString n).toList ++ rest) = none := by
    rw [Numeral.toList_toString, hdigits, Numeral.signOf]
    split <;>
      simp [words, Text.after?, hne (d := 'n') rfl, hne (d := 't') rfl, hne (d := 'f') rfl, hne (d := 'N') rfl,
        hne (d := 'I') rfl, hne (d := '-') rfl]
  rw [readScalar]
  split
  · rename_i hfound
    obtain ⟨⟨word, v⟩, hword, hsome⟩ := List.exists_of_findSome?_eq_some hfound
    have hnever := hnone (word, v) hword
    dsimp only at hnever hsome
    rw [hnever] at hsome
    cases hsome
  · exact readNumber_toString hrest h

end

end RecordMapper.Json
