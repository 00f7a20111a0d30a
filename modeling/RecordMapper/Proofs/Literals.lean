import RecordMapper.Proofs.Slots

/-!
Literals by their grammar. A literal runs from a delimiter to the next lone one of the same sort; a delimiter that is
written twice in it, or that stands behind a backslash where backslashes escape, does not end it. Statements are cut at
their slots by a reading that has none of these rules. Main statement: where no backslash escapes, a statement is cut
exactly at the question marks outside its literals.
-/
namespace RecordMapper

/-- What a text is made of by the grammar of literals. -/
inductive Lexeme where
  | outside (c : Char)
  /-- A character of a literal, or one of the delimiters around it. -/
  | inside (c : Char)
  /-- A delimiter in its own literal, written twice. -/
  | doubled (quote : Char)
  /-- A character behind a backslash, in a literal. -/
  | escaped (quote c : Char)
  deriving DecidableEq

namespace Lexeme

/-- What is written for a lexeme. -/
def text : Lexeme → List Char
  | outside c | inside c => [c]
  | doubled quote => [quote, quote]
  | escaped _ c => ['\\', c]

/-- A question mark that stands for a value. -/
def slot : Lexeme := outside '?'

/-- What is written between the slots. -/
def cut (ls : List Lexeme) : List (List Char) := (ls.splitOn slot).map (List.flatMap text)

/-- No delimiter is escaped by a backslash in its own literal. -/
def NoneEscaped (ls : List Lexeme) : Prop := ∀ quote, escaped quote quote ∉ ls

end Lexeme

/-- The lexemes of a text, read from inside a literal or from outside; backslashes escape in the literals of the
delimiters that `escapes` tells. -/
def lexemes (escapes : Char → Bool) : Option Char → List Char → List Lexeme
  | _, [] => []
  | none, c :: rest =>
    if isQuote c then .inside c :: lexemes escapes (some c) rest else .outside c :: lexemes escapes none rest
  | some _, [c] => [.inside c]
  | some quote, c :: d :: rest =>
    if escapes quote && c == '\\' then .escaped quote d :: lexemes escapes (some quote) rest
    else if c == quote && d == quote then .doubled quote :: lexemes escapes (some quote) rest
    else if c == quote then .inside c :: lexemes escapes none (d :: rest)
    else .inside c :: lexemes escapes (some quote) (d :: rest)

/-- Backslashes escape nowhere. -/
def noEscapes (_quote : Char) : Bool := false

/-- The reading cuts a text at the slots that the grammar has. -/
def SameSlots (escapes : Char → Bool) (state : Option Char) (t : List Char) : Prop :=
  (segmentsFrom state t).toList = Lexeme.cut (lexemes escapes state t)

/-! ### Cutting at slots -/

namespace Lexeme

@[simp] theorem cut_slot (ls : List Lexeme) : cut (slot :: ls) = [] :: cut ls := by
  rw [cut, List.splitOn, List.splitOnP_cons_eq_if_modifyHead, if_pos BEq.rfl]
  rfl

theorem cut_cons {l : Lexeme} (h : l ≠ slot) (ls : List Lexeme) :
    cut (l :: ls) = (cut ls).modifyHead (l.text ++ ·) := by
  rw [cut, List.splitOn, List.splitOnP_cons_eq_if_modifyHead, if_neg (by simpa using h), ← List.splitOn, cut]
  cases ls.splitOn slot <;> rfl

@[simp] theorem cut_inside (c : Char) (ls : List Lexeme) : cut (inside c :: ls) = (cut ls).modifyHead (c :: ·) :=
  cut_cons (show inside c ≠ slot from nofun) ls

@[simp] theorem cut_doubled (quote : Char) (ls : List Lexeme) :
    cut (doubled quote :: ls) = ((cut ls).modifyHead (quote :: ·)).modifyHead (quote :: ·) := by
  rw [cut_cons (show doubled quote ≠ slot from nofun) ls, List.modifyHead_modifyHead]
  rfl

@[simp] theorem cut_escaped (quote c : Char) (ls : List Lexeme) :
    cut (escaped quote c :: ls) = ((cut ls).modifyHead (c :: ·)).modifyHead ('\\' :: ·) := by
  rw [cut_cons (show escaped quote c ≠ slot from nofun) ls, List.modifyHead_modifyHead]
  rfl

/-- One part more than there are slots. -/
theorem length_cut (ls : List Lexeme) : (cut ls).length = ls.count slot + 1 := by
  induction ls with
  | nil => rfl
  | cons l ls ih =>
    by_cases h : l = slot
    · rw [h, cut_slot, List.length_cons, ih, List.count_cons_self]
    · rw [cut_cons h, List.length_modifyHead, ih, List.count_cons_of_ne h]

theorem flatMap_text_intercalate : ∀ parts : List (List Lexeme),
    ([slot].intercalate parts).flatMap text = ['?'].intercalate (parts.map (List.flatMap text))
  | [] => rfl
  | [part] => by rw [List.map_singleton, List.intercalate_singleton, List.intercalate_singleton]
  | part :: next :: rest => by
    have hrest := flatMap_text_intercalate (next :: rest)
    rw [List.map_cons, List.map_cons, List.intercalate_cons_cons, List.intercalate_cons_cons, List.flatMap_append,
      List.flatMap_append, hrest, List.map_cons]
    rfl

/-- The parts with question marks between them are what is written. -/
theorem intercalate_cut (ls : List Lexeme) : ['?'].intercalate (cut ls) = ls.flatMap text := by
  rw [cut, ← flatMap_text_intercalate, List.intercalate_splitOn]

@[simp] theorem noneEscaped_outside (c : Char) (ls : List Lexeme) : NoneEscaped (outside c :: ls) ↔ NoneEscaped ls := by
  simp [NoneEscaped]

@[simp] theorem noneEscaped_inside (c : Char) (ls : List Lexeme) : NoneEscaped (inside c :: ls) ↔ NoneEscaped ls := by
  simp [NoneEscaped]

@[simp] theorem noneEscaped_doubled (quote : Char) (ls : List Lexeme) :
    NoneEscaped (doubled quote :: ls) ↔ NoneEscaped ls := by
  simp [NoneEscaped]

@[simp] theorem noneEscaped_escaped (quote c : Char) (ls : List Lexeme) :
    NoneEscaped (escaped quote c :: ls) ↔ c ≠ quote ∧ NoneEscaped ls := by
  simp [NoneEscaped, forall_and, eq_comm]

end Lexeme

/-- Nothing is lost. -/
theorem flatMap_text_lexemes (escapes : Char → Bool) (state : Option Char) (t : List Char) :
    (lexemes escapes state t).flatMap Lexeme.text = t := by
  fun_induction lexemes escapes state t with
  | case1 | case4 => rfl
  | case2 c rest _ ih | case3 c rest _ ih => rw [List.flatMap_cons, ih, Lexeme.text, List.singleton_append]
  | case5 quote c d rest hescape ih =>
    rw [List.flatMap_cons, ih, Lexeme.text, beq_iff_eq.1 (Bool.and_eq_true_iff.1 hescape).2]
    rfl
  | case6 quote c d rest _ hdoubled ih =>
    obtain ⟨hc, hd⟩ := Bool.and_eq_true_iff.1 hdoubled
    rw [List.flatMap_cons, ih, Lexeme.text, beq_iff_eq.1 hc, beq_iff_eq.1 hd]
    rfl
  | case7 quote c d rest _ _ _ ih | case8 quote c d rest _ _ _ ih =>
    rw [List.flatMap_cons, ih, Lexeme.text, List.singleton_append]

/-! ### The reading and the grammar, step by step -/

namespace Segments

@[simp] theorem toList_slot (s : Segments) : s.slot.toList = [] :: s.toList := rfl

@[simp] theorem toList_cons (c : Char) (s : Segments) : (s.cons c).toList = s.toList.modifyHead (c :: ·) := rfl

end Segments

theorem modifyHead_cons_inj {α : Type} {a : α} {xs ys : List (List α)} :
    xs.modifyHead (a :: ·) = ys.modifyHead (a :: ·) ↔ xs = ys := by
  cases xs <;> cases ys <;> simp

namespace SameSlots

variable {escapes : Char → Bool} {quote c d : Char} {t : List Char}

theorem nil (state : Option Char) : SameSlots escapes state [] := by
  cases state <;> rfl

theorem opening (h : isQuote c = true) : SameSlots escapes none (c :: t) ↔ SameSlots escapes (some c) t := by
  rw [SameSlots, segmentsFrom, lexemes, if_pos h, if_pos h, Segments.toList_cons, Lexeme.cut_inside,
    modifyHead_cons_inj]
  rfl

theorem outside (h : ¬ isQuote c = true) : SameSlots escapes none (c :: t) ↔ SameSlots escapes none t := by
  rw [SameSlots, segmentsFrom, lexemes, if_neg h, if_neg h]
  split
  · rename_i hslot
    rw [beq_iff_eq.1 hslot, ← Lexeme.slot, Segments.toList_slot, Lexeme.cut_slot, List.cons_inj_right]
    rfl
  · rename_i hslot
    rw [Segments.toList_cons, Lexeme.cut_cons (by simpa [Lexeme.slot] using hslot)]
    exact modifyHead_cons_inj

theorem inside (hescape : ¬ (escapes quote && c == '\\') = true) (hc : c ≠ quote) :
    SameSlots escapes (some quote) (c :: t) ↔ SameSlots escapes (some quote) t := by
  have hlexemes : lexemes escapes (some quote) (c :: t) = .inside c :: lexemes escapes (some quote) t := by
    cases t with
    | nil => rfl
    | cons d rest => rw [lexemes, if_neg hescape, if_neg (by simp [hc]), if_neg (by simpa using hc)]
  rw [SameSlots, segmentsFrom, if_neg (by simpa using hc), hlexemes, Segments.toList_cons, Lexeme.cut_inside,
    modifyHead_cons_inj]
  rfl

theorem closing (hescape : ¬ (escapes quote && quote == '\\') = true) (hlone : t.head? ≠ some quote) :
    SameSlots escapes (some quote) (quote :: t) ↔ SameSlots escapes none t := by
  have hlexemes : lexemes escapes (some quote) (quote :: t) = .inside quote :: lexemes escapes none t := by
    cases t with
    | nil => rfl
    | cons d rest =>
      have hd : ¬ (quote == quote && d == quote) = true := by simpa using hlone
      conv => lhs; rw [lexemes, if_neg hescape, if_neg hd, if_pos BEq.rfl]
  rw [SameSlots, segmentsFrom, if_pos BEq.rfl, hlexemes, Segments.toList_cons, Lexeme.cut_inside, modifyHead_cons_inj]
  rfl

/-- A delimiter that is written twice closes its literal for the reading, but opens one of the same sort at once. -/
theorem doubled (hescape : ¬ (escapes quote && quote == '\\') = true) (hquote : isQuote quote = true) :
    SameSlots escapes (some quote) (quote :: quote :: t) ↔ SameSlots escapes (some quote) t := by
  rw [SameSlots, segmentsFrom, if_pos BEq.rfl, segmentsFrom, if_pos hquote, lexemes, if_neg hescape,
    if_pos (by simp), Segments.toList_cons, Segments.toList_cons, Lexeme.cut_doubled, modifyHead_cons_inj,
    modifyHead_cons_inj]
  rfl

theorem escaped (hescape : escapes quote = true) (hquote : '\\' ≠ quote) (hd : d ≠ quote) :
    SameSlots escapes (some quote) ('\\' :: d :: t) ↔ SameSlots escapes (some quote) t := by
  rw [SameSlots, segmentsFrom, if_neg (by simpa using hquote), segmentsFrom, if_neg (by simpa using hd), lexemes,
    if_pos (by simp [hescape]), Segments.toList_cons, Segments.toList_cons, Lexeme.cut_escaped, modifyHead_cons_inj,
    modifyHead_cons_inj]
  rfl

end SameSlots

theorem ne_backslash_of_isQuote {quote : Char} (h : isQuote quote = true) : '\\' ≠ quote := by
  rintro rfl
  exact absurd h (by decide)

/-- Outside of literals no delimiter is awaited. -/
theorem isQuote_of_mem_none : ∀ quote ∈ (none : Option Char), isQuote quote = true := by
  simp

/-- Where no delimiter is escaped by a backslash, the reading has the slots that the grammar has. -/
theorem sameSlots_of_noneEscaped {escapes : Char → Bool} {state : Option Char} {t : List Char}
    (hstate : ∀ quote ∈ state, isQuote quote = true) (h : Lexeme.NoneEscaped (lexemes escapes state t)) :
    SameSlots escapes state t := by
  fun_induction lexemes escapes state t with
  | case1 state => exact SameSlots.nil state
  | case2 c rest hquote ih =>
    exact (SameSlots.opening hquote).2 (ih (by simpa using hquote) ((Lexeme.noneEscaped_inside c _).1 h))
  | case3 c rest hquote ih =>
    exact (SameSlots.outside hquote).2 (ih isQuote_of_mem_none ((Lexeme.noneEscaped_outside c _).1 h))
  | case4 quote c =>
    rw [SameSlots, segmentsFrom, lexemes]
    split <;> rfl
  | case5 quote c d rest hescape ih =>
    obtain ⟨hescape, hc⟩ := Bool.and_eq_true_iff.1 hescape
    obtain ⟨hd, hrest⟩ := (Lexeme.noneEscaped_escaped quote d _).1 h
    rw [beq_iff_eq.1 hc, SameSlots.escaped hescape (ne_backslash_of_isQuote (hstate quote rfl)) hd]
    exact ih hstate hrest
  | case6 quote c d rest hescape hdoubled ih =>
    obtain ⟨hc, hd⟩ := Bool.and_eq_true_iff.1 hdoubled
    rw [beq_iff_eq.1 hc] at hescape ⊢
    rw [beq_iff_eq.1 hd, SameSlots.doubled hescape (hstate quote rfl)]
    exact ih hstate ((Lexeme.noneEscaped_doubled quote _).1 h)
  | case7 quote c d rest hescape hlone hc ih =>
    rw [beq_iff_eq.1 hc] at hescape hlone ⊢
    rw [SameSlots.closing hescape (by simpa using hlone)]
    exact ih isQuote_of_mem_none ((Lexeme.noneEscaped_inside c _).1 h)
  | case8 quote c d rest hescape _ hc ih =>
    rw [SameSlots.inside hescape (by simpa using hc)]
    exact ih hstate ((Lexeme.noneEscaped_inside c _).1 h)

/-- Where backslashes escape nowhere, nothing is escaped. -/
theorem noneEscaped_lexemes (state : Option Char) (t : List Char) :
    Lexeme.NoneEscaped (lexemes noEscapes state t) := by
  intro quote
  fun_induction lexemes noEscapes state t with
  | case1 => exact List.not_mem_nil
  | case4 => simp
  | case5 _ _ _ _ hescape => cases hescape
  | case2 _ _ _ ih | case3 _ _ _ ih | case6 _ _ _ _ _ _ ih | case7 _ _ _ _ _ _ _ ih | case8 _ _ _ _ _ _ _ ih =>
    simpa using ih

theorem map_toList_splitPlaceholders (sql : String) :
    (splitPlaceholders sql).map String.toList = (segmentsFrom none sql.toList).toList := by
  simp [splitPlaceholders, segments, Function.comp_def]

/-- A statement is cut at question marks, and one is taken away between two parts. These are all the question marks
that the grammar of literals puts outside, and no others: the parts are what is written between them. -/
theorem split_outside_literals (sql : String) :
    let read := lexemes noEscapes none sql.toList
    read.flatMap Lexeme.text = sql.toList ∧
      "?".intercalate (splitPlaceholders sql) = sql ∧
      (splitPlaceholders sql).length = read.count Lexeme.slot + 1 ∧
      (splitPlaceholders sql).map String.toList = Lexeme.cut read := by
  intro read
  have htext : read.flatMap Lexeme.text = sql.toList := flatMap_text_lexemes noEscapes none sql.toList
  have hcut : (splitPlaceholders sql).map String.toList = Lexeme.cut read := by
    rw [map_toList_splitPlaceholders]
    exact sameSlots_of_noneEscaped isQuote_of_mem_none (noneEscaped_lexemes none sql.toList)
  refine ⟨htext, ?_, ?_, hcut⟩
  · rw [← String.toList_inj, String.toList_intercalate, hcut, ← htext]
    exact Lexeme.intercalate_cut read
  · rw [← List.length_map (f := String.toList), hcut, Lexeme.length_cut]

/-- Quotes of three sorts, written twice, in literals of another sort and left open. -/
example : splitPlaceholders "a = ? AND b = 'it''s ?' AND \"'?\" < ? AND `c?" =
    ["a = ", " AND b = 'it''s ?' AND \"'?\" < ", " AND `c?"] := by decide

end RecordMapper
