import Mathlib.Data.List.TakeWhile
import RecordMapper.Proofs.CastRows
import RecordMapper.Proofs.IntegerTexts

/-!
Moments as texts. A moment is written in columns of digits that are as wide as its numbers can be, so that the reader
takes each number where it stands; of the many forms that it knows the dash behind the year, the colon behind the hour
and the sign behind the time of day tell it which it has. Main statement: moments in columns with the date cast, naive
ones and those with an offset in whole seconds, are written to the store as texts and read back as they were.
-/
namespace RecordMapper

open Text

/-! ### Numbers in columns -/

section
variable {n : Nat}

theorem padded_ne_nil (width n : Nat) : padded width n ≠ [] := by
  rw [padded]
  exact List.append_ne_nil_of_right_ne_nil _ Nat.toDigits_ne_nil

theorem isDigit_of_mem_padded {width : Nat} {c : Char} (h : c ∈ padded width n) : c.isDigit = true := by
  rw [padded] at h
  obtain h | h := List.mem_append.1 h
  · rw [(List.mem_replicate.1 h).2]
    rfl
  · exact Numeral.isDigit_of_mem_toDigits h

/-- A number that is not too great for its column fills it. -/
theorem length_padded (width : Nat) (hwidth : 0 < width) (h : n < pow10 width) : (padded width n).length = width := by
  have hdigits : (Nat.toDigits 10 n).length ≤ width := (Nat.length_toDigits_le_iff (by decide) hwidth).2 h
  rw [padded, List.length_append, List.length_replicate]
  omega

theorem ofDigitChars_padded (width n : Nat) : Nat.ofDigitChars 10 (padded width n) 0 = n := by
  rw [padded, Nat.ofDigitChars_append, Nat.ofDigitChars_replicate_zero, Nat.mul_zero, Nat.ofDigitChars_ten_toDigits]

/-- A column begins with a digit. -/
theorem padded_eq_cons (width : Nat) (hwidth : 0 < width) (h : n < pow10 width) :
    ∃ c rest, padded width n = c :: rest ∧ c.isDigit = true := by
  have hlength := length_padded width hwidth h
  obtain ⟨c, rest, hpadded⟩ := List.exists_cons_of_length_pos (hlength.symm ▸ hwidth)
  exact ⟨c, rest, hpadded, isDigit_of_mem_padded (hpadded ▸ List.mem_cons_self)⟩

namespace Moment

/-- As many digits as there are, are read. -/
theorem takeNumber?_append : ∀ {digits : List Char}, (∀ c ∈ digits, c.isDigit = true) →
    ∀ (rest : List Char) (value : Nat),
      takeNumber? digits.length (digits ++ rest) value = some (Nat.ofDigitChars 10 digits value, rest)
  | [], _, _, _ => rfl
  | c :: digits, h, rest, value => by
    obtain ⟨hc, hdigits⟩ := List.forall_mem_cons.1 h
    rw [List.length_cons, List.cons_append, takeNumber?, asciiDigit?, if_pos hc, Option.bind_some,
      takeNumber?_append hdigits, Nat.ofDigitChars_cons]
    rfl

/-- A number is read from its column. -/
theorem takeNumber?_padded (width : Nat) (hwidth : 0 < width) (h : n < pow10 width) (rest : List Char) :
    takeNumber? width (padded width n ++ rest) 0 = some (n, rest) := by
  have hdigits : ∀ c ∈ padded width n, c.isDigit = true := fun c hc => isDigit_of_mem_padded hc
  have hread := takeNumber?_append hdigits rest 0
  rw [length_padded width hwidth h, ofDigitChars_padded] at hread
  exact hread

end Moment

end

/-! ### Dates -/

theorem Date.toList_text (d : Date) :
    d.text.toList = padded 4 d.year ++ '-' :: (padded 2 d.month ++ '-' :: padded 2 d.day) := by
  simp [Date.text]

theorem Date.bounds_of_isValid {d : Date} (h : d.isValid = true) :
    d.year < 10000 ∧ d.month < 100 ∧ d.day < 100 := by
  have hmonth : daysInMonth d.year d.month ≤ 31 := by
    rw [daysInMonth]
    split
    · split <;> omega
    · split <;> omega
  simp only [isValid, Bool.and_eq_true, decide_eq_true_eq] at h
  omega

theorem Date.length_text {d : Date} (h : d.isValid = true) : d.text.toList.length = 10 := by
  obtain ⟨hyear, hmonth, hday⟩ := bounds_of_isValid h
  rw [toList_text]
  simp [length_padded 4 (by decide) hyear, length_padded 2 (by decide) hmonth, length_padded 2 (by decide) hday]

namespace Moment

variable {d : Date}

/-- A date in columns is ten characters long, whatever follows: a dash stands behind the year, and a digit behind it. -/
theorem dateLength_text (h : d.isValid = true) (rest : List Char) : dateLength (d.text.toList ++ rest) = 10 := by
  obtain ⟨hyear, hmonth, -⟩ := Date.bounds_of_isValid h
  obtain ⟨c, tail, hcolumn, hc⟩ := padded_eq_cons 2 (by decide) hmonth
  have hweek : c ≠ 'W' := ne_of_isDigit hc rfl
  have hlong : 10 ≤ (d.text.toList ++ rest).length := by
    rw [List.length_append, Date.length_text h]
    omega
  have hfour : (padded 4 d.year).length = 4 := length_padded 4 (by decide) hyear
  have hdash : (d.text.toList ++ rest)[4]? = some '-' := by
    rw [Date.toList_text, List.append_assoc, List.getElem?_append_right (by omega), hfour]
    rfl
  have hdigit : (d.text.toList ++ rest)[5]? = some c := by
    rw [Date.toList_text, List.append_assoc, List.getElem?_append_right (by omega), hfour, hcolumn]
    rfl
  have hseven : ((d.text.toList ++ rest).length == 7) = false := beq_eq_false_iff_ne.2 (by omega)
  rw [dateLength, hdash, hdigit, hseven]
  simp [hweek]

theorem readDate?_text (h : d.isValid = true) (rest : List Char) : readDate? 10 (d.text.toList ++ rest) = some d := by
  obtain ⟨hyear, hmonth, hday⟩ := Date.bounds_of_isValid h
  obtain ⟨c, tail, hcolumn, hc⟩ := padded_eq_cons 2 (by decide) hmonth
  have hmonthRead (rest : List Char) : takeNumber? 2 (c :: (tail ++ rest)) 0 = some (d.month, rest) := by
    rw [← List.cons_append, ← hcolumn]
    exact takeNumber?_padded 2 (by decide) hmonth rest
  have hweek : c ≠ 'W' := ne_of_isDigit hc rfl
  have htext : d.text.toList ++ rest =
      padded 4 d.year ++ '-' :: (c :: (tail ++ '-' :: (padded 2 d.day ++ rest))) := by
    rw [Date.toList_text, hcolumn]
    simp
  rw [readDate?, htext, takeNumber?_padded 4 (by decide) hyear]
  simp only [Option.bind_eq_bind, Option.bind_some, List.head?_cons, beq_self_eq_true, if_true, List.drop_succ_cons,
    List.drop_zero]
  split
  · rename_i hshape
    exact absurd (List.cons.inj hshape).1 hweek
  · have hday : takeNumber? 2 (padded 2 d.day ++ rest) 0 = some (d.day, rest) :=
      takeNumber?_padded 2 (by decide) hday rest
    rw [hmonthRead]
    simp only [Option.bind_some, takeDash?, after?, beq_self_eq_true, if_true, hday, h]

/-! ### Times of day -/

/-- Hour, minute, second and microsecond are less than their columns hold. -/
structure Clock.Fits (t : Clock) : Prop where
  hour : t.hour < 100
  minute : t.minute < 100
  second : t.second < 100
  micro : t.micro < 1000000

/-- A fraction of a second as it is written. -/
def fractionText (micro : Nat) : List Char := if micro == 0 then [] else '.' :: padded 6 micro

section
variable {next : Char} {colons : Bool} {t : Clock} {fuel i value micro : Nat} {rest : List Char}

/-- A number of a clock with a colon and more behind it. -/
theorem readClock?_colon (hvalue : value < 100) (hrest : rest ≠ []) (hcolons : i = 0 ∨ colons = true) :
    readClock? next colons t (fuel + 1) i (padded 2 value ++ ':' :: rest) =
      readClock? next true (t.set i value) fuel (i + 1) rest := by
  have hmore : ¬ rest.length + 1 ≤ 1 := by
    have := List.length_pos_iff.2 hrest
    omega
  have hdone : (if (i == 0) = true then true else colons) = true := by
    obtain rfl | rfl := hcolons
    · rfl
    · exact ite_self true
  rw [readClock?, takeNumber?_padded 2 (by decide) hvalue]
  simp only [Option.bind_eq_bind, Option.bind_some, List.headD_cons, List.length_cons, hmore, beq_self_eq_true, hdone,
    if_false, Bool.true_and, if_true, List.drop_succ_cons, List.drop_zero]

/-- The last number of a clock. -/
theorem readClock?_last (hvalue : value < 100) :
    readClock? next colons t (fuel + 1) i (padded 2 value) = some { t.set i value with ended := next == '\x00' } := by
  have hread := takeNumber?_padded 2 (by decide) hvalue []
  rw [List.append_nil] at hread
  rw [readClock?, hread]
  rfl

theorem readFraction?_padded (hmicro : micro < 1000000) :
    readFraction? t (padded 6 micro) next = some { t with micro := micro, ended := next == '\x00' } := by
  have hread := takeNumber?_padded 6 (by decide) hmicro []
  have hlength : (padded 6 micro).length = 6 := length_padded 6 (by decide) hmicro
  rw [List.append_nil] at hread
  have hone : micro * pow10 (6 - 6) = micro := Nat.mul_one micro
  rw [readFraction?, hlength]
  simp only [Nat.min_self, hread, Option.bind_eq_bind, Option.bind_some, List.dropWhile_nil, List.headD_nil, hone]
  rfl

/-- The last number of a clock with its fraction, if it has one. -/
theorem readClock?_fraction (hvalue : value < 100) (hmicro : micro < 1000000) (ht : (t.set i value).micro = 0) :
    readClock? next colons t (fuel + 1) i (padded 2 value ++ fractionText micro) =
      some { t.set i value with micro := micro, ended := next == '\x00' } := by
  by_cases hzero : micro = 0
  · have hnone : fractionText 0 = [] := rfl
    rw [hzero, hnone, List.append_nil, readClock?_last hvalue, ← ht]
  · have hsix : (padded 6 micro).length = 6 := length_padded 6 (by decide) hmicro
    rw [fractionText, if_neg (by simpa using hzero), readClock?, takeNumber?_padded 2 (by decide) hvalue]
    simp [hsix, readFraction?_padded hmicro]

end

/-- A time of day as it is written. -/
def clockText (t : Clock) : List Char :=
  padded 2 t.hour ++ ':' :: (padded 2 t.minute ++ ':' :: (padded 2 t.second ++ fractionText t.micro))

/-- A time of day is read from its text, whatever character follows. -/
theorem Clock.read?_clockText {t : Clock} (ht : t.Fits) (next : Char) :
    Clock.read? next (clockText t) = some { t with ended := next == '\x00' } := by
  have hmore (n : Nat) (rest : List Char) : padded 2 n ++ rest ≠ [] :=
    List.append_ne_nil_of_left_ne_nil (padded_ne_nil 2 n) rest
  rw [Clock.read?, clockText, readClock?_colon ht.hour (hmore _ _) (.inl rfl),
    readClock?_colon ht.minute (hmore _ _) (.inr rfl), readClock?_fraction ht.second ht.micro rfl]
  rfl

/-- Hour and minute of an offset, without seconds. -/
theorem Clock.read?_minutes {hour minute : Nat} (hhour : hour < 100) (hminute : minute < 100) :
    Clock.read? '\x00' (padded 2 hour ++ ':' :: padded 2 minute) = some ⟨hour, minute, 0, 0, true⟩ := by
  rw [Clock.read?, readClock?_colon hhour (padded_ne_nil 2 minute) (.inl rfl), readClock?_last hminute]
  rfl

/-! ### Offsets -/

/-- The sign of an offset. -/
def signOf (offset : Int) : Char := if offset < 0 then '-' else '+'

/-- The hours, minutes and seconds of an offset, read behind its sign, are the offset. -/
theorem readOffset?_of_clock {o : Int} {s : List Char} {t : Clock} (hread : Clock.read? '\x00' s = some t)
    (hended : t.ended = true) (hmicro : t.micro = 0) (hwhole : (1000000 : Int) ∣ o)
    (htotal : t.hour * 3600 + t.minute * 60 + t.second = o.natAbs / 1000000) :
    readOffset? (decide (o < 0)) s = some o := by
  have hsize : (if (t.hour * 3600 + t.minute * 60 + t.second == 0) = true then 0
      else ((t.hour * 3600 + t.minute * 60 + t.second : Nat) : Int) * 1000000 + (t.micro : Int)) = o.natAbs := by
    rw [hmicro, htotal]
    split
    · rename_i hzero
      have := beq_iff_eq.1 hzero
      omega
    · omega
  rw [readOffset?, hread]
  simp only [Option.bind_eq_bind, Option.bind_some, hended, hsize, Bool.not_true, Bool.false_eq_true, if_false,
    decide_eq_true_eq, pure, Option.some.injEq]
  split <;> omega

/-- An offset in whole seconds is read from what stands behind its sign. -/
theorem readOffset?_offsetText {o : Int} (hwhole : (1000000 : Int) ∣ o) (hbound : -offsetBound < o ∧ o < offsetBound) :
    ∃ digits, offsetText o = signOf o :: digits ∧ readOffset? (signOf o == '-') digits = some o := by
  obtain ⟨hlow, hhigh⟩ := hbound
  rw [offsetBound] at hlow hhigh
  have hsign : (signOf o == '-') = decide (o < 0) := by
    rw [signOf]
    split <;> simp [*]
  have hmicro : o.natAbs % 1000000 = 0 := by omega
  have hhour : o.natAbs / 3600000000 < 100 := by omega
  have hminute : o.natAbs / 60000000 % 60 < 100 := by omega
  have hsecond : o.natAbs / 1000000 % 60 < 100 := by omega
  rw [offsetText, hmicro, hsign]
  by_cases hseconds : o.natAbs / 1000000 % 60 = 0
  · refine ⟨padded 2 (o.natAbs / 3600000000) ++ ':' :: padded 2 (o.natAbs / 60000000 % 60), ?_, ?_⟩
    · simp [hseconds, signOf]
    · refine readOffset?_of_clock (Clock.read?_minutes hhour hminute) rfl rfl hwhole ?_
      dsimp only
      omega
  · refine ⟨clockText ⟨o.natAbs / 3600000000, o.natAbs / 60000000 % 60, o.natAbs / 1000000 % 60, 0, true⟩, ?_, ?_⟩
    · simp [hseconds, signOf, clockText, fractionText]
    · refine readOffset?_of_clock (Clock.read?_clockText ⟨hhour, hminute, hsecond, Nat.succ_pos _⟩ _) rfl rfl hwhole ?_
      dsimp only
      omega

/-! ### Moments -/

/-- The moment is in the calendar, and its offset, if it has one, is in whole seconds. -/
structure IsRegular (t : Moment) : Prop where
  valid : t.isValid = true
  offset : ∀ o ∈ t.offset, (1000000 : Int) ∣ o

/-- The time of day of a moment. -/
def clock (t : Moment) : Clock := ⟨t.hour, t.minute, t.second, t.micro, true⟩

theorem toList_text (t : Moment) :
    (t.text ' ').toList = t.date.text.toList ++ ' ' :: (clockText t.clock ++ t.offset.elim [] offsetText) := by
  simp [text, clockText, clock, fractionText]

theorem mem_clockText {t : Clock} {c : Char} (h : c ∈ clockText t) : c.isDigit = true ∨ c = ':' ∨ c = '.' := by
  have hdigit {width n : Nat} (hc : c ∈ padded width n) : c.isDigit = true := isDigit_of_mem_padded hc
  simp only [clockText, fractionText, List.mem_append, List.mem_cons] at h
  obtain h | rfl | h | rfl | h | h := h
  · exact .inl (hdigit h)
  · exact .inr (.inl rfl)
  · exact .inl (hdigit h)
  · exact .inr (.inl rfl)
  · exact .inl (hdigit h)
  · split at h
    · cases h
    · obtain rfl | h := List.mem_cons.1 h
      · exact .inr (.inr rfl)
      · exact .inl (hdigit h)

/-- No character of a time of day starts an offset. -/
theorem unmarked_of_mem_clockText {t : Clock} {c : Char} (h : c ∈ clockText t) :
    (!(c == '+' || c == '-' || c == 'Z')) = true := by
  obtain hdigit | rfl | rfl := mem_clockText h
  · have hne {d : Char} (hd : d.isDigit = false) : (c == d) = false := beq_eq_false_iff_ne.2 (ne_of_isDigit hdigit hd)
    rw [hne rfl, hne rfl, hne rfl]
    rfl
  all_goals rfl

section
variable {t : Clock} (ht : t.Fits)
include ht

/-- A time of day without an offset. -/
theorem readTime?_clockText : readTime? (clockText t) = some ({ t with ended := true }, none) := by
  have hread := Clock.read?_clockText ht '\x00'
  have hbody : (clockText t).takeWhile (fun c => !(c == '+' || c == '-' || c == 'Z')) = clockText t :=
    List.takeWhile_eq_self_iff.2 fun c hc => unmarked_of_mem_clockText hc
  have hrest : (clockText t).dropWhile (fun c => !(c == '+' || c == '-' || c == 'Z')) = [] :=
    List.dropWhile_eq_nil_iff.2 fun c hc => unmarked_of_mem_clockText hc
  simp only [readTime?, hbody, hrest, hread, Option.bind_eq_bind, Option.bind_some]
  rfl

/-- A time of day with an offset. -/
theorem readTime?_offset {o : Int} (hwhole : (1000000 : Int) ∣ o) (hbound : -offsetBound < o ∧ o < offsetBound) :
    readTime? (clockText t ++ offsetText o) = some ({ t with ended := false }, some o) := by
  obtain ⟨digits, hdigits, hread⟩ := readOffset?_offsetText hwhole hbound
  have hinside (c : Char) (hc : c ∈ clockText t) := unmarked_of_mem_clockText hc
  have hclock := Clock.read?_clockText ht
  rw [readTime?, hdigits]
  simp only [List.takeWhile_append_of_pos hinside, List.dropWhile_append_of_pos hinside]
  have hsign : signOf o = '-' ∨ signOf o = '+' := by
    rw [signOf]
    split
    · exact .inl rfl
    · exact .inr rfl
  obtain hsign | hsign := hsign
  all_goals
    rw [hsign] at hread ⊢
    simpa [hclock] using hread

end

/-- Texts in ASCII are as long in octets as in characters. -/
theorem flatMap_octets {s : List Char} (h : ∀ c ∈ s, c.toNat < 128) : s.flatMap octets = s := by
  induction s with
  | nil => rfl
  | cons c rest ih =>
    obtain ⟨hc, hrest⟩ := List.forall_mem_cons.1 h
    rw [List.flatMap_cons, ih hrest, octets, if_pos hc, List.singleton_append]

theorem lt_of_mem_clockText {t : Clock} {c : Char} (h : c ∈ clockText t) : c.toNat < 128 := by
  obtain h | rfl | rfl := mem_clockText h
  · exact Numeral.lt_of_isDigit h
  all_goals decide

theorem lt_of_mem_offsetText {o : Int} {c : Char} (h : c ∈ offsetText o) : c.toNat < 128 := by
  have hdigit {width n : Nat} (hc : c ∈ padded width n) : c.toNat < 128 :=
    Numeral.lt_of_isDigit (isDigit_of_mem_padded hc)
  have hcolumn {mark : Char} {width n : Nat} {whole : Bool} (hmark : mark.toNat < 128)
      (hc : c ∈ if whole = true then [] else mark :: padded width n) : c.toNat < 128 := by
    split at hc
    · cases hc
    · obtain rfl | hc := List.mem_cons.1 hc
      · exact hmark
      · exact hdigit hc
  simp only [offsetText, List.mem_append, List.cons_append, List.mem_cons] at h
  obtain rfl | ((h | rfl | h) | h) | h := h
  · split <;> decide
  · exact hdigit h
  · decide
  · exact hdigit h
  · exact hcolumn (by decide) h
  · exact hcolumn (by decide) h

section
variable {t : Moment} (ht : t.IsRegular)
include ht

theorem IsRegular.fits : t.clock.Fits := by
  have hvalid := ht.valid
  simp only [isValid, Bool.and_eq_true, decide_eq_true_eq] at hvalid
  obtain ⟨⟨⟨⟨⟨-, hhour⟩, hminute⟩, hsecond⟩, hmicro⟩, -⟩ := hvalid
  exact ⟨by simp only [clock]; omega, by simp only [clock]; omega, by simp only [clock]; omega, hmicro⟩

theorem IsRegular.date : t.date.isValid = true := by
  have hvalid := ht.valid
  simp only [isValid, Bool.and_eq_true] at hvalid
  exact hvalid.1.1.1.1.1

/-- What stands behind the date is read. -/
theorem IsRegular.readTime?_text :
    ∃ ended, readTime? (clockText t.clock ++ t.offset.elim [] offsetText) =
      some (⟨t.hour, t.minute, t.second, t.micro, ended⟩, t.offset) := by
  cases hoffset : t.offset with
  | none =>
    refine ⟨true, ?_⟩
    rw [Option.elim_none, List.append_nil, readTime?_clockText ht.fits]
    rfl
  | some o =>
    refine ⟨false, ?_⟩
    have hvalid := ht.valid
    simp only [isValid, hoffset, Option.all_some, Bool.and_eq_true, decide_eq_true_eq] at hvalid
    rw [Option.elim_some, readTime?_offset ht.fits (ht.offset o hoffset) hvalid.2]
    rfl

/-- A moment is read from its text. -/
theorem IsRegular.read?_text : read? (t.text ' ').toList = some t := by
  obtain ⟨ended, htime⟩ := ht.readTime?_text
  have hten := Date.length_text ht.date
  have hascii : ∀ c ∈ clockText t.clock ++ t.offset.elim [] offsetText, c.toNat < 128 := by
    intro c hc
    obtain hc | hc := List.mem_append.1 hc
    · exact lt_of_mem_clockText hc
    · cases hoffset : t.offset with
      | none => simp [hoffset] at hc
      | some o => exact lt_of_mem_offsetText (o := o) (by simpa [hoffset] using hc)
  rw [toList_text, read?, dateLength_text ht.date, readDate?_text ht.date]
  simp only [Option.bind_eq_bind, Option.bind_some, List.drop_left' hten, flatMap_octets hascii, htime]
  rw [if_pos ht.valid]

end

end Moment

/-! ### Moments in columns -/

namespace Text

theorem isBlank_of_isDigit {c : Char} (h : c.isDigit = true) : isBlank c = false := by
  have := Numeral.toNat_of_isDigit h
  simp only [isBlank, Bool.or_eq_false_iff, Bool.and_eq_false_iff, decide_eq_false_iff_not, beq_eq_false_iff_ne]
  omega

/-- The text ends in a digit. -/
def EndsInDigit (s : List Char) : Prop := ∃ c, s.getLast? = some c ∧ c.isDigit = true

theorem endsInDigit_padded (width n : Nat) : EndsInDigit (padded width n) :=
  ⟨_, List.getLast?_eq_some_getLast (padded_ne_nil width n), isDigit_of_mem_padded (List.getLast_mem _)⟩

theorem EndsInDigit.append {s : List Char} (h : EndsInDigit s) (front : List Char) : EndsInDigit (front ++ s) := by
  obtain ⟨c, hlast, hdigit⟩ := h
  exact ⟨c, by rw [List.getLast?_append, hlast, Option.some_or], hdigit⟩

theorem EndsInDigit.cons {s : List Char} (h : EndsInDigit s) (c : Char) : EndsInDigit (c :: s) := h.append [c]

/-- A column behind its mark may stand at the end or not. -/
theorem EndsInDigit.append_column {s : List Char} (h : EndsInDigit s) (whole : Bool) (mark : Char) (width n : Nat) :
    EndsInDigit (s ++ if whole = true then [] else mark :: padded width n) := by
  cases whole with
  | true => exact (List.append_nil s).symm ▸ h
  | false => exact ((endsInDigit_padded width n).cons mark).append s

end Text

namespace Moment

theorem endsInDigit_clockText (t : Clock) : EndsInDigit (clockText t) :=
  .append (.cons (.append (.cons ((endsInDigit_padded 2 t.second).append_column _ _ _ _) _) _) _) _

theorem endsInDigit_offsetText (o : Int) : EndsInDigit (offsetText o) := by
  have hminutes : EndsInDigit (':' :: padded 2 (o.natAbs / 60000000 % 60)) := (endsInDigit_padded 2 _).cons ':'
  exact ((hminutes.append _).append_column _ _ _ _).append_column _ _ _ _

/-- A text of a moment has no white space around it and no letter at its end. -/
theorem IsRegular.momentText_text {t : Moment} (ht : t.IsRegular) :
    Cast.momentText (t.text ' ') = (t.text ' ').toList := by
  obtain ⟨c, rest, hyear, hfirst⟩ := padded_eq_cons 4 (by decide) (Date.bounds_of_isValid ht.date).1
  have hhead : (t.text ' ').toList.head? = some c := by
    rw [toList_text, Date.toList_text, hyear]
    rfl
  obtain ⟨d, hlast, hdigit⟩ : EndsInDigit (t.text ' ').toList := by
    rw [toList_text]
    refine .append (.cons ?_ _) _
    cases t.offset with
    | none =>
      rw [Option.elim_none, List.append_nil]
      exact endsInDigit_clockText t.clock
    | some o => exact (endsInDigit_offsetText o).append _
  have htrimmed : trimWhile isBlank (t.text ' ').toList = (t.text ' ').toList := by
    refine trimWhile_eq_self ?_ ?_
    · rintro _ hc
      cases hhead.symm.trans hc
      exact isBlank_of_isDigit hfirst
    · rintro _ hd
      cases hlast.symm.trans hd
      exact isBlank_of_isDigit hdigit
  have hzone : (some d == some 'Z') = false :=
    beq_eq_false_iff_ne.2 fun h => ne_of_isDigit hdigit rfl (Option.some.inj h)
  rw [Cast.momentText, htrimmed, hlast, hzone]
  rfl

end Moment

/-- A moment with the date cast is written as its text and read back. -/
theorem Cast.date_readsBack {t : Moment} (ht : t.IsRegular) (column : String) :
    Cast.date.ReadsBack column (.moment t) := by
  refine ⟨.text (t.text ' '), rfl, rfl, ?_⟩
  have hshown : shownText (.text (t.text ' ')) = .ok (t.text ' ') := rfl
  rw [convert, readDate]
  · rw [hshown, ok_bind, ht.momentText_text, ht.read?_text]
  all_goals nofun

namespace Casts

/-- Columns with the date cast that have moments of the calendar, naive ones or with offsets in whole seconds, or are
null, are written to the store as texts and read back as they were, and so is the row. -/
theorem moments_read_back {casts : Casts} (hcasts : (casts.map Prod.fst).Nodup) (hdate : ∀ p ∈ casts, p.2 = "date")
    {row : Row} (hrow : ∀ p ∈ casts, (row.value p.1).isNull = false → ∃ t, row.value p.1 = .moment t ∧ t.IsRegular) :
    ∃ stored, apply .toStorage casts row = .ok stored ∧ apply .fromStorage casts stored = .ok row ∧
      ∀ p ∈ casts, ∀ t, row.value p.1 = .moment t → stored.value p.1 = .text (t.text ' ') := by
  have hname : Cast.ofName? "date" = some .date := rfl
  obtain ⟨stored, hto, hfrom⟩ := apply_reads_back row hcasts fun p hp hthere => by
    obtain ⟨t, hvalue, ht⟩ := hrow p hp hthere
    rw [hdate p hp, hvalue]
    exact ⟨.date, hname, Cast.date_readsBack ht p.1⟩
  refine ⟨stored, hto, hfrom, fun p hp t hvalue => ?_⟩
  have hstored := convertNamed_apply hcasts hto p hp
  rw [hdate p hp, hvalue, convertNamed_of_cast hname rfl] at hstored
  exact (Except.ok.inj hstored).symm

/-- A moment west of universal time with a fraction, one without an offset, and a column that is null. -/
theorem voyage_moments_read_back :
    let casts := [("left", "date"), ("landed", "date"), ("lost", "date")]
    let left : Moment := ⟨⟨1904, 2, 29⟩, 23, 59, 8, 120, some (-12615000000)⟩
    let landed : Moment := ⟨⟨1904, 3, 1⟩, 0, 0, 0, 0, none⟩
    let row : Row := [("ship", .text "Ann"), ("left", .moment left), ("landed", .moment landed)]
    ((casts.map Prod.fst).Nodup ∧ (∀ p ∈ casts, p.2 = "date") ∧
        ∀ p ∈ casts, (row.value p.1).isNull = false → ∃ t, row.value p.1 = .moment t ∧ t.IsRegular) ∧
      ∃ stored, apply .toStorage casts row = .ok stored ∧ apply .fromStorage casts stored = .ok row ∧
        stored.value "left" = .text "1904-02-29 23:59:08.000120-03:30:15" := by
  intro casts left landed row
  have hcasts : (casts.map Prod.fst).Nodup := by decide
  have hdate : ∀ p ∈ casts, p.2 = "date" := by decide
  have hrow : ∀ p ∈ casts, (row.value p.1).isNull = false → ∃ t, row.value p.1 = .moment t ∧ t.IsRegular := by
    have hleft : left.IsRegular := ⟨by decide, by rintro _ ⟨⟩; decide⟩
    have hlanded : landed.IsRegular := ⟨by decide, nofun⟩
    simp only [casts, List.forall_mem_cons]
    exact ⟨fun _ => ⟨left, rfl, hleft⟩, fun _ => ⟨landed, rfl, hlanded⟩, nofun, nofun⟩
  have htext : left.text ' ' = "1904-02-29 23:59:08.000120-03:30:15" := by decide +kernel
  obtain ⟨stored, hto, hfrom, htexts⟩ := moments_read_back hcasts hdate hrow
  refine ⟨⟨hcasts, hdate, hrow⟩, stored, hto, hfrom, ?_⟩
  rw [← htext]
  exact htexts ("left", "date") List.mem_cons_self left rfl

end Casts

end RecordMapper
