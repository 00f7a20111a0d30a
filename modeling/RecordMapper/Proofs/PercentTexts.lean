import RecordMapper.Proofs.UrlTexts
import RecordMapper.Text.Percent

/-!
Percent encodings and what they stand for. A character is written as its octets in UTF-8, and each octet as a percent
sign with two digits unless it is an unreserved character; reading takes the octets from the text and the characters
from the octets. Main statement: every text is read back from its percent encoding.
-/
namespace RecordMapper.Text

/-! ### Octets of a character -/

namespace Utf8

variable {n : Nat}

theorem toList_toByteArray (octets : List UInt8) : octets.toByteArray.toList = octets := by
  have hloop (b : ByteArray) (i : Nat) (r : List UInt8) :
      ByteArray.toList.loop b i r = r.reverse ++ b.data.toList.drop i := by
    fun_induction ByteArray.toList.loop b i r with
    | case1 i r hi ih =>
      have hlength : i < b.data.toList.length := hi
      have hget : b.get! i = b.data.toList[i] := getElem!_pos b.data i hi
      rw [ih, List.reverse_cons, List.append_assoc, List.singleton_append, List.drop_eq_getElem_cons hlength, hget]
    | case2 i r hi =>
      rw [List.drop_eq_nil_of_le (Nat.not_lt.1 hi), List.append_nil]
  rw [ByteArray.toList, hloop, List.reverse_nil, List.nil_append, List.drop_zero, List.toList_data_toByteArray]

/-- The octets of a character. -/
theorem encode_char (c : Char) : encode c.toString = String.utf8EncodeChar c := by
  rw [encode, String.toUTF8, Char.toString, String.toByteArray_singleton, List.utf8Encode_singleton,
    toList_toByteArray]

theorem encode_ne_nil (c : Char) : encode c.toString ≠ [] := by
  rw [encode_char]
  exact String.utf8EncodeChar_ne_nil

theorem toNat_ofNat_of_lt (h : n < 256) : (UInt8.ofNat n).toNat = n := by
  rw [UInt8.toNat_ofNat', Nat.mod_eq_of_lt h]

/-- What starts a character of two octets. -/
theorem first?_two (h : 128 ≤ n) (h' : n < 2048) :
    first? (n / 64 % 32 + 192) = some (.inr ⟨1, 0x80, 0xBF, n / 64⟩) := by
  have hbits : n / 64 % 32 + 192 - 0xC0 = n / 64 := by omega
  rw [first?, if_neg (by omega), if_pos (by simp; omega), hbits]

/-- What starts a character of three octets tells which second octets it has. -/
theorem first?_three (h : 2048 ≤ n) (h' : n < 65536) (hvalid : n < 0xD800 ∨ 0xDFFF < n) :
    ∃ low high, first? (n / 4096 % 16 + 224) = some (.inr ⟨2, low, high, n / 4096⟩) ∧
      low ≤ n / 64 % 64 + 128 ∧ n / 64 % 64 + 128 ≤ high := by
  have hbits : n / 4096 % 16 + 224 - 0xE0 = n / 4096 := by omega
  have hlead : n / 4096 % 16 = n / 4096 := by omega
  by_cases hfirst : n / 4096 = 0
  · refine ⟨0xA0, 0xBF, ?_, by omega, by omega⟩
    rw [hlead, hfirst]
    rfl
  by_cases hsurrogates : n / 4096 = 13
  · refine ⟨0x80, 0x9F, ?_, by omega, by omega⟩
    rw [hlead, hsurrogates]
    rfl
  · refine ⟨0x80, 0xBF, ?_, by omega, by omega⟩
    rw [first?, if_neg (by omega), if_neg (by simp), if_neg (by simp; omega), if_neg (by simp; omega),
      if_pos (by simp; omega), hbits]

/-- What starts a character of four octets tells which second octets it has. -/
theorem first?_four (h : 65536 ≤ n) (h' : n < 0x110000) :
    ∃ low high, first? (n / 262144 % 8 + 240) = some (.inr ⟨3, low, high, n / 262144⟩) ∧
      low ≤ n / 4096 % 64 + 128 ∧ n / 4096 % 64 + 128 ≤ high := by
  have hbits : n / 262144 % 8 + 240 - 0xF0 = n / 262144 := by omega
  have hlead : n / 262144 % 8 = n / 262144 := by omega
  by_cases hfirst : n / 262144 = 0
  · refine ⟨0x90, 0xBF, ?_, by omega, by omega⟩
    rw [hlead, hfirst]
    rfl
  by_cases hlast : n / 262144 = 4
  · refine ⟨0x80, 0x8F, ?_, by omega, by omega⟩
    rw [hlead, hlast]
    rfl
  · refine ⟨0x80, 0xBF, ?_, by omega, by omega⟩
    rw [first?, if_neg (by omega), if_neg (by simp), if_neg (by simp), if_neg (by simp), if_neg (by simp),
      if_neg (by simp; omega), if_pos (by simp; omega), hbits]

/-- An octet that starts a character of several. -/
theorem decodeFrom_start {b : UInt8} {p : Pending} (h : first? b.toNat = some (.inr p)) (rest : List UInt8) :
    decodeFrom none (b :: rest) = decodeFrom (some p) rest := by
  rw [decodeFrom, h]

/-- An octet of a character that is not its last. -/
theorem decodeFrom_inside {owed low high bits : Nat} {b : UInt8} (hlow : low ≤ b.toNat) (hhigh : b.toNat ≤ high)
    (rest : List UInt8) :
    decodeFrom (some ⟨owed + 2, low, high, bits⟩) (b :: rest) =
      decodeFrom (some ⟨owed + 1, 0x80, 0xBF, bits * 64 + (b.toNat - 0x80)⟩) rest := by
  rw [decodeFrom, if_pos (by simp [hlow, hhigh])]
  exact if_neg (by simp)

/-- The last octet of a character. -/
theorem decodeFrom_last {low high bits : Nat} {b : UInt8} (hlow : low ≤ b.toNat) (hhigh : b.toNat ≤ high)
    (rest : List UInt8) :
    decodeFrom (some ⟨1, low, high, bits⟩) (b :: rest) =
      Char.ofNat (bits * 64 + (b.toNat - 0x80)) :: decodeFrom none rest := by
  rw [decodeFrom, if_pos (by simp [hlow, hhigh])]
  exact if_pos (by simp)

/-- A character is read from its octets. -/
theorem decodeFrom_encode (c : Char) (rest : List UInt8) :
    decodeFrom none (String.utf8EncodeChar c ++ rest) = c :: decodeFrom none rest := by
  have hvalid : c.toNat < 0xD800 ∨ 0xDFFF < c.toNat ∧ c.toNat < 0x110000 := c.valid
  have hnat : c.val.toNat = c.toNat := rfl
  have hread {n : Nat} (hn : n = c.toNat) : Char.ofNat n = c := by rw [hn, Char.ofNat_toNat]
  rw [String.utf8EncodeChar, hnat]
  generalize c.toNat = n at *
  have htail (m : Nat) : (UInt8.ofNat (m % 64 + 128)).toNat = m % 64 + 128 := toNat_ofNat_of_lt (by omega)
  by_cases h1 : n ≤ 127
  · have hfirst : first? (UInt8.ofNat n).toNat = some (.inl n) := by
      rw [toNat_ofNat_of_lt (by omega), first?, if_pos h1]
    rw [if_pos h1, List.singleton_append, decodeFrom, hfirst]
    dsimp only
    rw [hread rfl]
  by_cases h2 : n ≤ 2047
  · have hfirst := first?_two (n := n) (by omega) (by omega)
    rw [← toNat_ofNat_of_lt (n := n / 64 % 32 + 192) (by omega)] at hfirst
    rw [if_neg h1, if_pos h2, List.cons_append, decodeFrom_start hfirst, List.singleton_append,
      decodeFrom_last (by rw [htail]; omega) (by rw [htail]; omega), htail, hread (by omega)]
  by_cases h3 : n ≤ 65535
  · obtain ⟨low, high, hfirst, hlow, hhigh⟩ := first?_three (n := n) (by omega) (by omega) (by omega)
    rw [← toNat_ofNat_of_lt (n := n / 4096 % 16 + 224) (by omega)] at hfirst
    rw [← htail] at hlow hhigh
    rw [if_neg h1, if_neg h2, if_pos h3, List.cons_append, decodeFrom_start hfirst, List.cons_append,
      decodeFrom_inside hlow hhigh, List.singleton_append,
      decodeFrom_last (by rw [htail]; omega) (by rw [htail]; omega), htail, htail, hread (by omega)]
  · obtain ⟨low, high, hfirst, hlow, hhigh⟩ := first?_four (n := n) (by omega) (by omega)
    rw [← toNat_ofNat_of_lt (n := n / 262144 % 8 + 240) (by omega)] at hfirst
    rw [← htail] at hlow hhigh
    rw [if_neg h1, if_neg h2, if_neg h3, List.cons_append, decodeFrom_start hfirst, List.cons_append,
      decodeFrom_inside hlow hhigh, List.cons_append, decodeFrom_inside (by rw [htail]; omega) (by rw [htail]; omega),
      List.singleton_append, decodeFrom_last (by rw [htail]; omega) (by rw [htail]; omega),
      htail, htail, htail, hread (by omega)]

/-- The octets of characters are read as these characters. -/
theorem decodeLossy_encode (s : List Char) : decodeLossy (s.flatMap String.utf8EncodeChar) = s := by
  rw [decodeLossy]
  induction s with
  | nil => rfl
  | cons c rest ih => rw [List.flatMap_cons, decodeFrom_encode, ih]

end Utf8

/-! ### Characters of an encoding -/

theorem lt_of_isUnreserved {c : Char} (h : isUnreserved c = true) : c.toNat < 128 ∧ c ≠ '%' := by
  refine ⟨?_, by rintro rfl; cases h⟩
  simp only [isUnreserved, Bool.or_eq_true, beq_iff_eq] at h
  obtain (((h | rfl) | rfl) | rfl) | rfl := h
  · exact Url.lt_of_isAlphanum h
  all_goals decide

/-- A percent encoding has unreserved characters and percent signs only. -/
theorem mem_percentEncode {s : List Char} {c : Char} (h : c ∈ percentEncode s) :
    isUnreserved c = true ∨ c = '%' := by
  have hdigit : ∀ n : Fin 16, isUnreserved (hexChar n).toUpper = true := by decide
  obtain ⟨d, -, hc⟩ := List.mem_flatMap.1 h
  rw [percentChar] at hc
  split at hc
  · rename_i hunreserved
    rw [List.mem_singleton.1 hc]
    exact .inl hunreserved
  · obtain ⟨b, -, hc⟩ := List.mem_flatMap.1 hc
    rcases List.mem_cons.1 hc with rfl | hc
    · exact .inr rfl
    · obtain ⟨x, hx, rfl⟩ := List.mem_map.1 hc
      simp only [hex, List.nil_append, List.mem_append, List.mem_singleton] at hx
      rcases hx with rfl | rfl
      · exact .inl (hdigit ⟨_, Nat.mod_lt _ (by decide)⟩)
      · exact .inl (hdigit ⟨_, Nat.mod_lt _ (by decide)⟩)

theorem lt_of_mem_percentEncode {s : List Char} {c : Char} (h : c ∈ percentEncode s) : c.toNat < 128 := by
  obtain hc | rfl := mem_percentEncode h
  · exact (lt_of_isUnreserved hc).1
  · decide

/-- A percent encoding has no character that structures a URL, or that reading a URL drops or refuses. -/
theorem plain_of_mem_percentEncode {s : List Char} {c : Char} (h : c ∈ percentEncode s) :
    (Url.endsAuthority c = false ∧ Url.isDropped c = false) ∧ c ≠ ':' ∧ c ≠ '@' ∧
      c ≠ '[' ∧ c ≠ ']' ∧ c.toNat ∉ Url.compatibilityPoints := by
  have hplain : ∀ n : Fin 128, (isUnreserved (Char.ofNat n) || Char.ofNat n == '%') = true →
      (Url.endsAuthority (Char.ofNat n) = false ∧ Url.isDropped (Char.ofNat n) = false) ∧ Char.ofNat n ≠ ':' ∧
        Char.ofNat n ≠ '@' ∧ Char.ofNat n ≠ '[' ∧ Char.ofNat n ≠ ']' ∧
        (Char.ofNat n).toNat ∉ Url.compatibilityPoints := by
    decide
  have hencoded : (isUnreserved c || c == '%') = true := by
    rcases mem_percentEncode h with hc | rfl
    · rw [hc, Bool.true_or]
    · rfl
  have hc := hplain ⟨c.toNat, lt_of_mem_percentEncode h⟩
  rw [Char.ofNat_toNat] at hc
  exact hc hencoded

theorem percentEncode_ne_nil {s : List Char} (h : s ≠ []) : percentEncode s ≠ [] := by
  obtain ⟨c, rest, rfl⟩ := List.exists_cons_of_ne_nil h
  have hchar : percentChar c ≠ [] := by
    rw [percentChar]
    split
    · simp
    · obtain ⟨b, octets, hoctets⟩ := List.exists_cons_of_ne_nil (Utf8.encode_ne_nil c)
      rw [hoctets]
      simp [percentOctet]
  simp [percentEncode, hchar]

/-! ### Percent signs -/

/-- The digits of an octet are read as the octet. -/
theorem percentOctets_octet (b : UInt8) (rest : List Char) :
    percentOctets (percentOctet b ++ rest) = b :: percentOctets rest := by
  have hdigit : ∀ n : Fin 16, hexDigit? (hexChar n).toUpper = some n := by decide
  have hvalue {n : Nat} (h : n < 16) : hexDigit? (hexChar n).toUpper = some n := hdigit ⟨n, h⟩
  have hb : b.toNat < 256 := b.toNat_lt
  have hdigits : percentOctet b =
      ['%', (hexChar (b.toNat / 16 % 16)).toUpper, (hexChar (b.toNat % 16)).toUpper] := rfl
  have hjoined : b.toNat / 16 % 16 * 16 + b.toNat % 16 = b.toNat := by omega
  rw [hdigits, List.cons_append, List.cons_append, List.singleton_append, percentOctets,
    hvalue (Nat.mod_lt _ (by decide)), hvalue (Nat.mod_lt _ (by decide))]
  dsimp only
  rw [hjoined, Nat.toUInt8_eq, UInt8.ofNat_toNat]

/-- A character that is no percent sign is an octet for itself. -/
theorem percentOctets_plain {c : Char} (h : c ≠ '%') (rest : List Char) :
    percentOctets (c :: rest) = c.toNat.toUInt8 :: percentOctets rest := by
  rw [percentOctets]
  rintro a b t rfl
  exact absurd rfl h

/-- The encoding of a character is read as its octets. -/
theorem percentOctets_char (c : Char) (rest : List Char) :
    percentOctets (percentChar c ++ rest) = String.utf8EncodeChar c ++ percentOctets rest := by
  rw [percentChar, Utf8.encode_char]
  split
  · rename_i h
    obtain ⟨hascii, hpercent⟩ := lt_of_isUnreserved h
    have hone : String.utf8EncodeChar c = [c.toNat.toUInt8] := if_pos (Nat.le_of_lt_succ hascii)
    rw [List.singleton_append, percentOctets_plain hpercent, hone, List.singleton_append]
  · induction String.utf8EncodeChar c with
    | nil => rfl
    | cons b octets ih => rw [List.flatMap_cons, List.append_assoc, percentOctets_octet, ih, List.cons_append]

theorem percentOctets_percentEncode (s : List Char) :
    percentOctets (percentEncode s) = s.flatMap String.utf8EncodeChar := by
  rw [percentEncode]
  induction s with
  | nil => rfl
  | cons c rest ih => rw [List.flatMap_cons, percentOctets_char, ih, List.flatMap_cons]

/-- An ASCII text is read in one part. -/
theorem percentDecodeFrom_ascii : ∀ {s : List Char}, (∀ c ∈ s, c.toNat < 128) → ∀ run,
    percentDecodeFrom run s = Utf8.decodeLossy (percentOctets (run.reverse ++ s))
  | [], _, run => by rw [percentDecodeFrom, List.append_nil]
  | c :: rest, hs, run => by
    obtain ⟨hc, hrest⟩ := List.forall_mem_cons.1 hs
    rw [percentDecodeFrom, if_pos hc, percentDecodeFrom_ascii hrest, List.reverse_cons, List.append_assoc,
      List.singleton_append]

/-- What has been written in percent encoding is read back. -/
theorem percentDecode_percentEncode (s : List Char) : percentDecode (percentEncode s) = s := by
  have hascii : ∀ c ∈ percentEncode s, c.toNat < 128 := fun c hc => lt_of_mem_percentEncode hc
  rw [percentDecode, percentDecodeFrom_ascii hascii, List.reverse_nil, List.nil_append, percentOctets_percentEncode,
    Utf8.decodeLossy_encode]

end RecordMapper.Text
