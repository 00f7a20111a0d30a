import RecordMapper.Proofs.Literals
import RecordMapper.Proofs.ServerText

/-!
Delimiters behind backslashes. A server reads a backslash in a text as the sign that the next character stands for
itself; in a quoted name it does not. The reading by which statements are adapted for the server does not know this.
Main statement: a statement is adapted rightly, also if it is cut off anywhere and a question mark is put there, exactly
if none of its delimiters is escaped by a backslash.
-/
namespace RecordMapper

/-- Backslashes escape in texts, which stand between single or double quotes, but not in quoted names. -/
def textEscapes (quote : Char) : Bool := quote == '\'' || quote == '"'

/-- What a server is to be sent for a lexeme: a mark for a slot, and each percent sign twice. -/
def Lexeme.adapted (l : Lexeme) : List Char := if l = slot then ['%', 's'] else Dialect.doublePercent l.text

/-- A statement as a server is to be sent it: the question marks outside of what the server reads as literals have
become marks, and nothing else has. -/
def serverMarked (sql : String) : String :=
  String.ofList ((lexemes textEscapes none sql.toList).flatMap Lexeme.adapted)

/-! ### Adapted texts and their parts -/

/-- The parts between the marks, written as a server is sent them. -/
def adaptedParts : List (List Char) → List Char
  | [] => []
  | part :: rest => Dialect.doublePercent part ++ rest.flatMap fun s => '%' :: 's' :: Dialect.doublePercent s

/-- The parts between the marks of an adapted text. -/
def partsOfAdapted : List Char → List (List Char)
  | [] => [[]]
  | '%' :: 's' :: rest => [] :: partsOfAdapted rest
  | '%' :: '%' :: rest => (partsOfAdapted rest).modifyHead ('%' :: ·)
  | c :: rest => (partsOfAdapted rest).modifyHead (c :: ·)

theorem doublePercent_append (s t : List Char) :
    Dialect.doublePercent (s ++ t) = Dialect.doublePercent s ++ Dialect.doublePercent t :=
  List.flatMap_append

theorem Segments.adapted_eq (s : Segments) : s.adapted = adaptedParts s.toList := by
  simp [adapted, join, toList, adaptedParts, List.flatMap_map]

theorem Lexeme.cut_ne_nil (ls : List Lexeme) : cut ls ≠ [] := by
  simp [cut, List.splitOn_ne_nil]

theorem Lexeme.flatMap_adapted (ls : List Lexeme) : ls.flatMap adapted = adaptedParts (cut ls) := by
  induction ls with
  | nil => rfl
  | cons l ls ih =>
    obtain ⟨part, rest, hcut⟩ := List.exists_cons_of_ne_nil (cut_ne_nil ls)
    rw [hcut] at ih
    rw [List.flatMap_cons, ih, adapted]
    split
    · rename_i hslot
      rw [hslot, cut_slot, hcut]
      rfl
    · rename_i hslot
      rw [cut_cons hslot, hcut, List.modifyHead_cons, adaptedParts, adaptedParts, doublePercent_append,
        List.append_assoc]

theorem partsOfAdapted_char {c : Char} (h : c ≠ '%') (t : List Char) :
    partsOfAdapted (c :: t) = (partsOfAdapted t).modifyHead (c :: ·) := by
  conv => lhs; unfold partsOfAdapted
  split <;> simp_all

theorem partsOfAdapted_doublePercent (t : List Char) : ∀ s : List Char,
    partsOfAdapted (Dialect.doublePercent s ++ t) = (partsOfAdapted t).modifyHead (s ++ ·)
  | [] => by
    cases h : partsOfAdapted t <;> simp [Dialect.doublePercent, h]
  | c :: s => by
    have ih := partsOfAdapted_doublePercent t s
    by_cases hc : c = '%'
    · subst hc
      have hdouble : Dialect.doublePercent ('%' :: s) = '%' :: '%' :: Dialect.doublePercent s := rfl
      rw [hdouble, List.cons_append, List.cons_append, partsOfAdapted, ih, List.modifyHead_modifyHead]
      rfl
    · have hdouble : Dialect.doublePercent (c :: s) = c :: Dialect.doublePercent s := by
        rw [Dialect.doublePercent, List.flatMap_cons, if_neg (by simpa using hc), ← Dialect.doublePercent]
        rfl
      rw [hdouble, List.cons_append, partsOfAdapted_char hc, ih, List.modifyHead_modifyHead]
      rfl

/-- An adapted text tells its parts. -/
theorem partsOfAdapted_adaptedParts (part : List Char) (rest : List (List Char)) :
    partsOfAdapted (adaptedParts (part :: rest)) = part :: rest := by
  induction rest generalizing part with
  | nil =>
    rw [adaptedParts, partsOfAdapted_doublePercent, List.flatMap_nil, partsOfAdapted, List.modifyHead_cons,
      List.append_nil]
  | cons next rest ih =>
    have hnext : partsOfAdapted ('%' :: 's' :: adaptedParts (next :: rest)) = [] :: next :: rest := by
      rw [partsOfAdapted, ih]
    rw [adaptedParts, partsOfAdapted_doublePercent, List.flatMap_cons, List.cons_append, List.cons_append,
      ← adaptedParts, hnext, List.modifyHead_cons, List.append_nil]

/-- A statement is adapted rightly exactly if it is cut at the slots that the server's grammar has. -/
theorem adaptMySQL_eq_serverMarked_iff (sql : String) :
    Dialect.adaptMySQL sql = serverMarked sql ↔ SameSlots textEscapes none sql.toList := by
  rw [adaptMySQL_eq, serverMarked, String.ofList_inj, Segments.adapted_eq, Lexeme.flatMap_adapted, SameSlots]
  constructor
  · intro h
    obtain ⟨part, rest, hcut⟩ := List.exists_cons_of_ne_nil (Lexeme.cut_ne_nil (lexemes textEscapes none sql.toList))
    have hparts := congrArg partsOfAdapted h
    rwa [hcut, partsOfAdapted_adaptedParts, Segments.toList, partsOfAdapted_adaptedParts, ← Segments.toList,
      ← hcut] at hparts
  · exact congrArg adaptedParts

/-! ### Statements that are cut off -/

section
variable {escapes : Char → Bool} {quote c d : Char}

theorem forall_prefix_cons {α : Type} {a : α} {l : List α} {P : List α → Prop} :
    (∀ p, p <+: a :: l → P p) ↔ P [] ∧ ∀ p, p <+: l → P (a :: p) := by
  constructor
  · exact fun h => ⟨h [] List.nil_prefix, fun p hp => h (a :: p) (List.cons_prefix_cons.2 ⟨rfl, hp⟩)⟩
  · rintro ⟨hnil, hcons⟩ p hp
    obtain rfl | ⟨rest, rfl, hrest⟩ := List.prefix_cons_iff.1 hp
    · exact hnil
    · exact hcons rest hrest

theorem ne_question_of_isQuote (h : isQuote quote = true) : '?' ≠ quote := by
  rintro rfl
  exact absurd h (by decide)

/-- A question mark by itself. -/
theorem sameSlots_question {state : Option Char} (hstate : ∀ quote ∈ state, isQuote quote = true) :
    SameSlots escapes state ['?'] := by
  cases state with
  | none => rfl
  | some quote =>
    have hquote : '?' ≠ quote := ne_question_of_isQuote (hstate quote rfl)
    exact (SameSlots.inside (by simp) hquote).2 (SameSlots.nil _)

/-- A question mark behind one character of a literal. -/
theorem sameSlots_pair (hquote : isQuote quote = true) (c : Char) : SameSlots escapes (some quote) [c, '?'] := by
  have hquestion : '?' ≠ quote := ne_question_of_isQuote hquote
  have hbackslash : '\\' ≠ quote := ne_backslash_of_isQuote hquote
  by_cases hescape : (escapes quote && c == '\\') = true
  · obtain ⟨hescape, hc⟩ := Bool.and_eq_true_iff.1 hescape
    rw [beq_iff_eq.1 hc, SameSlots.escaped hescape hbackslash hquestion]
    exact SameSlots.nil _
  · by_cases hc : c = quote
    · subst hc
      rw [SameSlots.closing hescape (by simpa using hquestion)]
      exact sameSlots_question isQuote_of_mem_none
    · rw [SameSlots.inside hescape hc]
      exact sameSlots_question (by simpa using hquote)

/-- A question mark behind an escaped delimiter is a slot for the reading, but stands in the literal. -/
theorem not_sameSlots_escaped (hescape : escapes quote = true) (hquote : '\\' ≠ quote) :
    ¬ SameSlots escapes (some quote) ['\\', quote, '?'] := by
  have hsegments : (segmentsFrom (some quote) ['\\', quote, '?']).toList = [['\\', quote], []] := by
    rw [segmentsFrom, if_neg (by simpa using hquote), segmentsFrom, if_pos BEq.rfl]
    rfl
  have hlexemes : lexemes escapes (some quote) ['\\', quote, '?'] = [.escaped quote quote, .inside '?'] := by
    rw [lexemes, if_pos (by simp [hescape]), lexemes]
  rw [SameSlots, hsegments, hlexemes]
  intro h
  have hlength := congrArg List.length h
  rw [Lexeme.length_cut] at hlength
  cases hlength

end

/-- Whether a delimiter is escaped shows in a question mark that is put behind some part of the text. -/
theorem noneEscaped_iff_prefixes {escapes : Char → Bool} {state : Option Char} {t : List Char}
    (hstate : ∀ quote ∈ state, isQuote quote = true) :
    Lexeme.NoneEscaped (lexemes escapes state t) ↔ ∀ p, p <+: t → SameSlots escapes state (p ++ ['?']) := by
  fun_induction lexemes escapes state t with
  | case1 state =>
    refine iff_of_true (fun _ => List.not_mem_nil) fun p hp => ?_
    rw [List.prefix_nil.1 hp]
    exact sameSlots_question hstate
  | case2 c rest hquote ih =>
    rw [Lexeme.noneEscaped_inside, ih (by simpa using hquote), forall_prefix_cons (l := rest), List.nil_append,
      and_iff_right (sameSlots_question hstate)]
    exact forall₂_congr fun p _ => (SameSlots.opening hquote).symm
  | case3 c rest hquote ih =>
    rw [Lexeme.noneEscaped_outside, ih hstate, forall_prefix_cons (l := rest), List.nil_append,
      and_iff_right (sameSlots_question hstate)]
    exact forall₂_congr fun p _ => (SameSlots.outside hquote).symm
  | case4 quote c =>
    rw [forall_prefix_cons]
    refine iff_of_true (by simp [Lexeme.NoneEscaped]) ⟨sameSlots_question hstate, fun p hp => ?_⟩
    rw [List.prefix_nil.1 hp]
    exact sameSlots_pair (hstate quote rfl) c
  | case5 quote c d rest hescape ih =>
    obtain ⟨hescape, hc⟩ := Bool.and_eq_true_iff.1 hescape
    have hbackslash : '\\' ≠ quote := ne_backslash_of_isQuote (hstate quote rfl)
    rw [beq_iff_eq.1 hc, Lexeme.noneEscaped_escaped, ih hstate, forall_prefix_cons (l := d :: rest),
      forall_prefix_cons (l := rest), List.nil_append, List.cons_append, List.nil_append,
      and_iff_right (sameSlots_question hstate), and_iff_right (sameSlots_pair (hstate quote rfl) _)]
    by_cases hd : d = quote
    · subst hd
      refine iff_of_false (fun h => h.1 rfl) fun h => ?_
      exact not_sameSlots_escaped hescape hbackslash (h [] List.nil_prefix)
    · rw [and_iff_right hd]
      exact forall₂_congr fun p _ => (SameSlots.escaped hescape hbackslash hd).symm
  | case6 quote c d rest hescape hdoubled ih =>
    obtain ⟨hc, hd⟩ := Bool.and_eq_true_iff.1 hdoubled
    rw [beq_iff_eq.1 hc] at hescape ⊢
    rw [beq_iff_eq.1 hd, Lexeme.noneEscaped_doubled, ih hstate, forall_prefix_cons (l := quote :: rest),
      forall_prefix_cons (l := rest), List.nil_append, List.cons_append, List.nil_append,
      and_iff_right (sameSlots_question hstate), and_iff_right (sameSlots_pair (hstate quote rfl) _)]
    exact forall₂_congr fun p _ => (SameSlots.doubled hescape (hstate quote rfl)).symm
  | case7 quote c d rest hescape hlone hc ih =>
    rw [beq_iff_eq.1 hc] at hescape hlone ⊢
    rw [Lexeme.noneEscaped_inside, ih isQuote_of_mem_none, forall_prefix_cons (a := quote), List.nil_append,
      and_iff_right (sameSlots_question hstate)]
    refine forall₂_congr fun p hp => (SameSlots.closing hescape ?_).symm
    -- what stands behind the delimiter is the question mark, or what stands behind it in the text
    obtain rfl | ⟨p, rfl, -⟩ := List.prefix_cons_iff.1 hp
    · simpa using ne_question_of_isQuote (hstate quote rfl)
    · simpa using hlone
  | case8 quote c d rest hescape _ hc ih =>
    rw [Lexeme.noneEscaped_inside, ih hstate, forall_prefix_cons (a := c), List.nil_append,
      and_iff_right (sameSlots_question hstate)]
    exact forall₂_congr fun p _ => (SameSlots.inside hescape (by simpa using hc)).symm

/-- Any statement. It is adapted rightly exactly if it is cut at the slots that the server's grammar has. And it is
adapted rightly, with all that begins as it does and ends in a question mark behind any of its characters, exactly if no
delimiter in it is escaped by a backslash. -/
theorem adapted_rightly_iff (sql : String) :
    let read := lexemes textEscapes none sql.toList
    (Dialect.adaptMySQL sql = serverMarked sql ↔ (splitPlaceholders sql).map String.toList = Lexeme.cut read) ∧
      (Lexeme.NoneEscaped read ↔ Dialect.adaptMySQL sql = serverMarked sql ∧
        ∀ p, p <+: sql.toList →
          Dialect.adaptMySQL (String.ofList (p ++ ['?'])) = serverMarked (String.ofList (p ++ ['?']))) := by
  intro read
  refine ⟨?_, ?_⟩
  · rw [adaptMySQL_eq_serverMarked_iff, map_toList_splitPlaceholders]
    rfl
  · simp only [adaptMySQL_eq_serverMarked_iff, String.toList_ofList]
    rw [← noneEscaped_iff_prefixes isQuote_of_mem_none, iff_and_self]
    exact sameSlots_of_noneEscaped isQuote_of_mem_none

/-- The delimiter behind the backslash ends the literal for the reading, so that the question mark in the literal
becomes a mark, and the one behind the literal does not. -/
theorem escaped_delimiter_misleads :
    let sql := "SELECT 'it\\'s ?', ?"
    Dialect.adaptMySQL sql = "SELECT 'it\\'s %s', ?" ∧ serverMarked sql = "SELECT 'it\\'s ?', %s" := by
  decide

end RecordMapper
