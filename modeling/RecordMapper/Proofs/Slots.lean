import RecordMapper.Query.Placeholder

/-!
Filling slots. `fillSlots` writes texts over the slots of a statement and leaves every other character where it is; it
reads the statement by itself, so that what it does is known apart from how the segments are made. What is proved
here is how slots are filled and counted piece by piece, a piece being a slot or a text without question marks and
quotes.
-/
namespace RecordMapper

/-- A text with fillers over its slots, read from inside a literal or from outside; a slot for which no filler is left
stays as it is. -/
def fillFrom : Option Char → List Char → List (List Char) → List Char
  | _, [], _ => []
  | some quote, c :: rest, fillers => c :: fillFrom (if c == quote then none else some quote) rest fillers
  | none, c :: rest, fillers =>
    if isQuote c then c :: fillFrom (some c) rest fillers
    else if c == '?' then fillers.headD [c] ++ fillFrom none rest fillers.tail
    else c :: fillFrom none rest fillers

/-- A statement with texts written over its slots, the first over the first. -/
def fillSlots (sql : String) (fillers : List String) : String :=
  String.ofList (fillFrom none sql.toList (fillers.map String.toList))

/-- A character that neither is a slot nor opens a literal. -/
def isPlainChar (c : Char) : Bool := c != '?' && !isQuote c

/-- Text without slots and without literals. -/
def isPlainText (s : String) : Bool := s.toList.all isPlainChar

theorem isPlainChar_iff (c : Char) : isPlainChar c = true ↔ (c == '?') = false ∧ isQuote c = false := by
  simp [isPlainChar, bne]

/-! ### Filling -/

/-- Without fillers nothing changes. -/
@[simp] theorem fillFrom_nil (state : Option Char) (t : List Char) : fillFrom state t [] = t := by
  induction t generalizing state with
  | nil => cases state <;> rfl
  | cons c rest ih =>
    cases state with
    | some quote => rw [fillFrom, ih]
    | none =>
      rw [fillFrom, List.tail_nil, ih, ih]
      split
      · rfl
      · split <;> rfl

theorem fillFrom_slot (t f : List Char) (fs : List (List Char)) :
    fillFrom none ('?' :: t) (f :: fs) = f ++ fillFrom none t fs := by
  rw [fillFrom, if_neg (by decide), if_pos (by decide)]
  rfl

/-- Text without slots and literals is left alone, and what follows is read as if it stood first. -/
theorem fillFrom_plain (fs : List (List Char)) (t : List Char) : ∀ p : List Char, p.all isPlainChar = true →
    fillFrom none (p ++ t) fs = p ++ fillFrom none t fs
  | [], _ => rfl
  | c :: p, h => by
    rw [List.all_cons, Bool.and_eq_true, isPlainChar_iff] at h
    obtain ⟨⟨hslot, hquote⟩, hp⟩ := h
    rw [List.cons_append, fillFrom, hquote, hslot]
    simp only [Bool.false_eq_true, if_false, List.cons_append]
    rw [fillFrom_plain fs t p hp]

/-! ### Counting -/

@[simp] theorem slots_cons (c : Char) (s : Segments) : (s.cons c).slots = s.slots := rfl

@[simp] theorem slots_slot (s : Segments) : s.slot.slots = s.slots + 1 := by
  simp [Segments.slot, Segments.slots]

/-- One text more than there are slots. -/
theorem length_splitPlaceholders (sql : String) :
    (splitPlaceholders sql).length = (segmentsFrom none sql.toList).slots + 1 := by
  simp [splitPlaceholders, Segments.toList, Segments.slots, segments]

theorem slots_segmentsFrom_slot (t : List Char) :
    (segmentsFrom none ('?' :: t)).slots = (segmentsFrom none t).slots + 1 := by
  rw [segmentsFrom, if_neg (by decide), if_pos (by decide), slots_slot]

theorem slots_segmentsFrom_plain (t : List Char) : ∀ p : List Char, p.all isPlainChar = true →
    (segmentsFrom none (p ++ t)).slots = (segmentsFrom none t).slots
  | [], _ => rfl
  | c :: p, h => by
    rw [List.all_cons, Bool.and_eq_true, isPlainChar_iff] at h
    obtain ⟨⟨hslot, hquote⟩, hp⟩ := h
    rw [List.cons_append, segmentsFrom, hquote, hslot]
    simp only [Bool.false_eq_true, if_false, slots_cons]
    exact slots_segmentsFrom_plain t p hp

/-! ### Plain text -/

@[simp] theorem isPlainText_append (s t : String) : isPlainText (s ++ t) = (isPlainText s && isPlainText t) := by
  simp [isPlainText]

/-- Parts joined by a separator are plain if the parts and the separator are. -/
theorem isPlainText_intercalate (separator : String) (hs : isPlainText separator = true) :
    ∀ parts : List String, (∀ p ∈ parts, isPlainText p = true) → isPlainText (separator.intercalate parts) = true
  | [], _ => by rw [String.intercalate_nil]; decide
  | [p], h => by rw [String.intercalate_singleton]; exact h p (by simp)
  | p :: q :: rest, h => by
    have hrest : isPlainText (separator.intercalate (q :: rest)) = true :=
      isPlainText_intercalate separator hs (q :: rest) fun s hmem => h s (List.mem_cons_of_mem _ hmem)
    rw [String.intercalate_cons_cons, isPlainText_append, isPlainText_append, h p (by simp), hs, hrest]
    rfl

/-- Texts one behind the other are plain if each of them is. -/
theorem isPlainText_join : ∀ parts : List String, (∀ p ∈ parts, isPlainText p = true) →
    isPlainText (String.join parts) = true
  | [], _ => by rw [String.join_nil]; decide
  | p :: rest, h => by
    rw [String.join_cons, isPlainText_append, h p (by simp),
      isPlainText_join rest fun s hmem => h s (List.mem_cons_of_mem _ hmem)]
    rfl

end RecordMapper
