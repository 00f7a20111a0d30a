import RecordMapper.Config.Url

/-!
Texts cut at a character. A cut at the first or at the last place is told by the two parts: put together again they are
the text, and the part that was searched does not have the character. `marked` puts a part behind its mark, which
`splitBehind` takes off again.
-/
namespace RecordMapper

namespace Text

variable {sep : Char} {s before after : List Char}

theorem cut?_eq_none : cut? sep s = none ↔ sep ∉ s := by
  induction s with
  | nil => simp [cut?]
  | cons c rest ih =>
    by_cases hc : c = sep
    · simp [cut?, hc]
    · simp [cut?, hc, ih, Ne.symm hc]

theorem cut?_append (h : sep ∉ before) : cut? sep (before ++ sep :: after) = some (before, after) := by
  induction before with
  | nil => simp [cut?]
  | cons c rest ih =>
    have hc : c ≠ sep := Ne.symm (List.ne_of_not_mem_cons h)
    simp [cut?, hc, ih (List.not_mem_of_not_mem_cons h)]

/-- The part before the first place does not have the character. -/
theorem cut?_eq_some : cut? sep s = some (before, after) ↔ s = before ++ sep :: after ∧ sep ∉ before := by
  refine ⟨fun h => ?_, fun ⟨hs, hbefore⟩ => hs ▸ cut?_append hbefore⟩
  induction s generalizing before with
  | nil => cases h
  | cons c rest ih =>
    by_cases hc : c = sep
    · rw [cut?, if_pos (beq_iff_eq.2 hc)] at h
      cases h
      exact ⟨by rw [hc, List.nil_append], List.not_mem_nil⟩
    · rw [cut?, if_neg (by simpa using hc)] at h
      obtain ⟨⟨first, second⟩, hcut, heq⟩ := Option.map_eq_some_iff.1 h
      cases heq
      obtain ⟨hrest, hfirst⟩ := ih hcut
      exact ⟨by rw [hrest, List.cons_append], List.not_mem_cons_of_ne_of_not_mem (Ne.symm hc) hfirst⟩

theorem cutLast?_eq_none : cutLast? sep s = none ↔ sep ∉ s := by
  rw [cutLast?, Option.map_eq_none_iff, cut?_eq_none, List.mem_reverse]

/-- The part behind the last place does not have the character. -/
theorem cutLast?_eq_some : cutLast? sep s = some (before, after) ↔ s = before ++ sep :: after ∧ sep ∉ after := by
  have hreversed (x y : List Char) : s.reverse = x ++ sep :: y ↔ s = y.reverse ++ sep :: x.reverse := by
    rw [List.reverse_eq_iff]
    simp
  constructor
  · intro h
    obtain ⟨⟨behind, front⟩, hcut, heq⟩ := Option.map_eq_some_iff.1 h
    cases heq
    obtain ⟨hs, hbehind⟩ := cut?_eq_some.1 hcut
    exact ⟨(hreversed _ _).1 hs, fun hmem => hbehind (List.mem_reverse.1 hmem)⟩
  · rintro ⟨hs, hafter⟩
    refine Option.map_eq_some_iff.2 ⟨(after.reverse, before.reverse), cut?_eq_some.2 ⟨?_, ?_⟩, by simp⟩
    · rw [hreversed, List.reverse_reverse, List.reverse_reverse, hs]
    · exact fun hmem => hafter (List.mem_reverse.1 hmem)

theorem after?_append (start rest : List Char) : after? start (start ++ rest) = some rest := by
  induction start with
  | nil => rfl
  | cons c start ih => simp [after?, ih]

/-- A text is replaced where it is if it begins with a character that has not come before. -/
theorem replaceFirst_append {c : Char} (h : c ∉ before) (old new rest : List Char) :
    replaceFirst (c :: old) new (before ++ (c :: old ++ rest)) = before ++ (new ++ rest) := by
  induction before with
  | nil =>
    rw [List.nil_append, List.cons_append, replaceFirst, ← List.cons_append, after?_append]
    rfl
  | cons d before ih =>
    have hd : ¬ (c == d) = true := by simpa using List.ne_of_not_mem_cons h
    have hnone : after? (c :: old) (d :: (before ++ (c :: old ++ rest))) = none := if_neg hd
    rw [List.cons_append, replaceFirst, hnone, ih (List.not_mem_of_not_mem_cons h)]
    rfl

end Text

namespace Url

open Text

variable {mark : Char} {s a b : List Char}

@[simp] theorem marked_nil (mark : Char) : marked mark [] = [] := rfl

theorem marked_of_ne_nil (mark : Char) (h : b ≠ []) : marked mark b = mark :: b :=
  if_neg (by simpa using h)

theorem splitBehind_append (h : mark ∉ a) (b : List Char) : splitBehind mark (a ++ mark :: b) = (a, b) := by
  rw [splitBehind, cut?_append h]
  rfl

/-- A part behind its mark is taken off again. -/
theorem splitBehind_marked (h : mark ∉ a) (b : List Char) : splitBehind mark (a ++ marked mark b) = (a, b) := by
  by_cases hb : b = []
  · rw [hb, marked_nil, List.append_nil, splitBehind, cut?_eq_none.2 h]
    rfl
  · rw [marked_of_ne_nil mark hb, splitBehind_append h]

/-- The first part does not have the mark, and nothing is lost but a mark without a part behind it. -/
theorem splitBehind_eq (h : splitBehind mark s = (a, b)) :
    mark ∉ a ∧ (s = a ++ marked mark b ∨ b = [] ∧ s = a ++ [mark]) := by
  rw [splitBehind] at h
  cases hcut : cut? mark s with
  | none =>
    rw [hcut] at h
    cases h
    exact ⟨cut?_eq_none.1 hcut, .inl (by simp)⟩
  | some parts =>
    rw [hcut] at h
    cases h
    obtain ⟨hs, ha⟩ := cut?_eq_some.1 hcut
    refine ⟨ha, ?_⟩
    by_cases hb : b = []
    · exact .inr ⟨hb, by rw [hs, hb]⟩
    · exact .inl (by rw [hs, marked_of_ne_nil mark hb])

/-- What is put together again, the text begins with. -/
theorem prefix_of_splitBehind (h : splitBehind mark s = (a, b)) : a ++ marked mark b <+: s := by
  obtain ⟨-, rfl | ⟨rfl, rfl⟩⟩ := splitBehind_eq h
  · exact List.prefix_rfl
  · exact (List.append_nil a).symm ▸ List.prefix_append a [mark]

end Url

end RecordMapper
