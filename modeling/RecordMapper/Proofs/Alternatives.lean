import RecordMapper.Proofs.Statement

/-!
How a store reads conditions. `AND` binds tighter than `OR`, so conditions that follow one another are read as
alternatives, each of them a list of conditions that have to hold together; a condition by itself is true, false or
neither. Main statement: the conditions keep out every row for which a condition is false exactly if that condition
is part of every alternative.
-/
namespace RecordMapper

/-- What a condition is for a row. A comparison with null is neither true nor false. -/
inductive Truth where
  | no
  | unknown
  | yes
  deriving Repr, DecidableEq, Inhabited

namespace Truth

def and : Truth → Truth → Truth
  | no, _ => no
  | yes, t => t
  | unknown, no => no
  | unknown, _ => unknown

def or : Truth → Truth → Truth
  | yes, _ => yes
  | no, t => t
  | unknown, yes => yes
  | unknown, _ => unknown

/-- Conditions together. -/
def allOf (ts : List Truth) : Truth := ts.foldr and yes

/-- Alternatives. -/
def anyOf (ts : List Truth) : Truth := ts.foldr or no

theorem and_no (t : Truth) : t.and no = no := by cases t <;> rfl

theorem or_yes (t : Truth) : t.or yes = yes := by cases t <;> rfl

/-- One false condition is enough. -/
theorem allOf_eq_no : ∀ {ts : List Truth}, no ∈ ts → allOf ts = no
  | t :: ts, h => by
    rw [allOf, List.foldr_cons, ← allOf]
    rcases List.mem_cons.1 h with rfl | h
    · rfl
    · rw [allOf_eq_no h, and_no]

theorem allOf_eq_yes : ∀ {ts : List Truth}, (∀ t ∈ ts, t = yes) → allOf ts = yes
  | [], _ => rfl
  | t :: ts, h => by
    rw [allOf, List.foldr_cons, ← allOf, h t List.mem_cons_self,
      allOf_eq_yes fun u hu => h u (List.mem_cons_of_mem _ hu)]
    rfl

/-- One true alternative is enough. -/
theorem anyOf_eq_yes : ∀ {ts : List Truth}, yes ∈ ts → anyOf ts = yes
  | t :: ts, h => by
    rw [anyOf, List.foldr_cons, ← anyOf]
    rcases List.mem_cons.1 h with rfl | h
    · rfl
    · rw [anyOf_eq_yes h, or_yes]

theorem anyOf_eq_no : ∀ {ts : List Truth}, (∀ t ∈ ts, t = no) → anyOf ts = no
  | [], _ => rfl
  | t :: ts, h => by
    rw [anyOf, List.foldr_cons, ← anyOf, h t List.mem_cons_self,
      anyOf_eq_no fun u hu => h u (List.mem_cons_of_mem _ hu)]
    rfl

end Truth

/-- Conditions as far as they have been read: the alternatives that are complete, and the one that is not. -/
structure Reading (α : Type) where
  complete : List (List α)
  current : List α

namespace Reading

variable {α : Type}

/-- One more condition behind a word: `OR` begins an alternative. -/
def step (r : Reading α) (word : String) (a : α) : Reading α :=
  if word = "OR" then ⟨r.complete ++ [r.current], [a]⟩ else ⟨r.complete, r.current ++ [a]⟩

/-- Conditions read from the left, each behind its word, after others that have been read. -/
def further (r : Reading α) (conditions : List (String × α)) : Reading α :=
  conditions.foldl (fun r c => r.step c.1 c.2) r

/-- Conditions read from the left; the word of the first does not count. -/
def ofConditions : List (String × α) → Reading α
  | [] => ⟨[], []⟩
  | (_, a) :: rest => further ⟨[], [a]⟩ rest

/-- All alternatives. -/
def alternatives (r : Reading α) : List (List α) := r.complete ++ [r.current]

/-- What the conditions are together, if `truth` tells what each is. -/
def truth (v : α → Truth) (r : Reading α) : Truth :=
  Truth.anyOf (r.alternatives.map fun g => Truth.allOf (g.map v))

/-- Whether the conditions are false wherever one condition is, whatever the others are there. -/
def KeepsOut (guard : α) (r : Reading α) : Prop := ∀ v : α → Truth, v guard = .no → r.truth v = .no

/-- Conditions keep out what a condition keeps out if that is part of every alternative, and only then. -/
theorem keepsOut_iff (guard : α) (r : Reading α) : r.KeepsOut guard ↔ ∀ g ∈ r.alternatives, guard ∈ g := by
  constructor
  · intro h g hg
    refine Classical.byContradiction fun hguard => ?_
    -- where everything but the guard is true, an alternative without the guard is true
    have hno := h (fun a => open Classical in if a = guard then .no else .yes) (if_pos rfl)
    have hyes : r.truth (fun a => open Classical in if a = guard then .no else .yes) = .yes := by
      refine Truth.anyOf_eq_yes (List.mem_map.2 ⟨g, hg, Truth.allOf_eq_yes fun t ht => ?_⟩)
      obtain ⟨a, ha, rfl⟩ := List.mem_map.1 ht
      exact if_neg fun heq : a = guard => hguard (heq ▸ ha)
    rw [hyes] at hno
    cases hno
  · intro h v hv
    refine Truth.anyOf_eq_no fun t ht => ?_
    obtain ⟨g, hg, rfl⟩ := List.mem_map.1 ht
    exact Truth.allOf_eq_no (List.mem_map.2 ⟨guard, h g hg, hv⟩)

/-! ### A condition at the end -/

theorem ofConditions_concat (a : α) (conditions : List (String × α)) :
    ofConditions (conditions ++ [("AND", a)]) = (ofConditions conditions).step "AND" a := by
  cases conditions with
  | nil => rfl
  | cons c rest => rw [List.cons_append, ofConditions, ofConditions, further, further, List.foldl_append]; rfl

/-- A condition that is added at the end is part of the last alternative and of no other, so it keeps out what it
keeps out by itself only if all the others have it already. -/
theorem keepsOut_concat (guard : α) (conditions : List (String × α)) :
    (ofConditions (conditions ++ [("AND", guard)])).KeepsOut guard ↔
      ∀ g ∈ (ofConditions conditions).complete, guard ∈ g := by
  rw [keepsOut_iff, ofConditions_concat, step, if_neg (by decide), alternatives]
  constructor
  · intro h g hg
    exact h g (List.mem_append_left _ hg)
  · intro h g hg
    rcases List.mem_append.1 hg with hg | hg
    · exact h g hg
    · rw [List.mem_singleton.1 hg]
      exact List.mem_append_right _ List.mem_cons_self

/-- Without `OR` there is one alternative. -/
theorem complete_further (r : Reading α) : ∀ conditions : List (String × α),
    (∀ c ∈ conditions, c.1 ≠ "OR") → (r.further conditions).complete = r.complete
  | [], _ => rfl
  | c :: rest, h => by
    have ih := complete_further (r.step c.1 c.2) rest fun d hd => h d (List.mem_cons_of_mem _ hd)
    rw [further, List.foldl_cons, ← further, ih, step, if_neg (h c List.mem_cons_self)]

theorem complete_ofConditions (conditions : List (String × α)) (h : ∀ c ∈ conditions.tail, c.1 ≠ "OR") :
    (ofConditions conditions).complete = [] := by
  cases conditions with
  | nil => rfl
  | cons c rest => exact complete_further ⟨[], [c.2]⟩ rest h

end Reading

/-! ### Conditions of a statement -/

/-- A condition as a statement has it, with its values; nothing if it cannot be written. -/
def Clause.predicate (table : String) (c : Clause) : Layout := (Compile.condition table c).toOption.getD []

/-- The conditions of a statement as they are read. -/
def Clause.reading (table : String) (cs : List Clause) : Reading Layout :=
  Reading.ofConditions (cs.map fun c => (c.junction, c.predicate table))

/-- The text of conditions that have to hold together. -/
def Layout.together (g : List Layout) : String := " AND ".intercalate (g.map sql)

/-- The text of conditions with their alternatives told apart. -/
def Reading.sql (r : Reading Layout) : String := " OR ".intercalate (r.alternatives.map Layout.together)

theorem Clause.predicate_eq {table : String} {c : Clause} {l : Layout} (h : Compile.condition table c = .ok l) :
    c.predicate table = l := by
  rw [predicate, h]
  rfl

theorem intercalate_concat (separator : String) {parts : List String} (h : parts ≠ []) (part : String) :
    separator.intercalate (parts ++ [part]) = separator.intercalate parts ++ separator ++ part := by
  rw [String.intercalate_append_of_ne_nil h (List.cons_ne_nil part []), String.intercalate_singleton]

theorem Layout.together_concat {g : List Layout} (h : g ≠ []) (l : Layout) :
    together (g ++ [l]) = together g ++ " AND " ++ l.sql := by
  rw [together, List.map_append, List.map_singleton, intercalate_concat _ (by simpa using h), together]

/-- One more condition is one more piece of text. -/
theorem Reading.sql_step {r : Reading Layout} (hcurrent : r.current ≠ []) {word : String}
    (hword : word = "AND" ∨ word = "OR") (l : Layout) :
    (r.step word l).sql = r.sql ++ (" " ++ word ++ " ") ++ l.sql := by
  rcases hword with rfl | rfl
  · have hword : " " ++ "AND" ++ " " = " AND " := by decide
    rw [step, if_neg (by decide), sql, sql, alternatives, alternatives, hword]
    cases r.complete with
    | nil =>
      rw [List.nil_append, List.nil_append, List.map_singleton, List.map_singleton, String.intercalate_singleton,
        String.intercalate_singleton, Layout.together_concat hcurrent]
    | cons g gs =>
      rw [List.map_append, List.map_append, List.map_singleton, List.map_singleton, intercalate_concat _ (by simp),
        intercalate_concat _ (by simp), Layout.together_concat hcurrent]
      simp only [String.append_assoc]
  · have hword : " " ++ "OR" ++ " " = " OR " := by decide
    have hsingle : Layout.together [l] = l.sql := String.intercalate_singleton
    rw [step, if_pos rfl, sql, sql, alternatives, alternatives, hword, List.map_append, List.map_singleton,
      intercalate_concat _ (by simp), hsingle]

namespace Compile

open Layout

theorem sql_furtherConditions {table : String} : ∀ (cs : List Clause) (r : Reading Layout) {l : Layout},
    r.current ≠ [] → (∀ c ∈ cs, c.junction = "AND" ∨ c.junction = "OR") → furtherConditions table cs = .ok l →
    (r.further (cs.map fun c => (c.junction, c.predicate table))).sql = r.sql ++ l.sql
  | [], r, l, _, _, h => by
    rw [← Except.ok.inj h]
    exact String.append_empty.symm
  | c :: rest, r, l, hcurrent, hwords, h => by
    obtain ⟨this, further, hthis, hfurther, rfl⟩ := furtherConditions_cons_eq_ok.1 h
    have hstep : (r.step c.junction this).current ≠ [] := by
      rw [Reading.step]
      split <;> simp
    have ih := sql_furtherConditions rest (r.step c.junction this) hstep
      (fun d hd => hwords d (List.mem_cons_of_mem _ hd)) hfurther
    rw [List.map_cons, Reading.further, List.foldl_cons, ← Reading.further, Clause.predicate_eq hthis, ih,
      Reading.sql_step hcurrent (hwords c List.mem_cons_self)]
    simp only [sql, render_append, render_words, String.append_assoc]

/-- The text of conditions tells how they are read. -/
theorem sql_conditions {table : String} {cs : List Clause} {l : Layout} (hne : cs ≠ [])
    (hwords : ∀ c ∈ cs, c.junction = "AND" ∨ c.junction = "OR") (h : conditions table cs = .ok l) :
    l.sql = " WHERE " ++ (Clause.reading table cs).sql := by
  obtain ⟨c, rest, rfl⟩ := List.exists_cons_of_ne_nil hne
  obtain ⟨first, further, hfirst, hfurther, rfl⟩ := conditions_cons_eq_ok.1 h
  have hrest := sql_furtherConditions rest ⟨[], [first]⟩ (List.cons_ne_nil first [])
    (fun d hd => hwords d (List.mem_cons_of_mem _ hd)) hfurther
  have hsingle : Reading.sql ⟨[], [first]⟩ = first.sql := by
    simp [Reading.sql, Reading.alternatives, Layout.together]
  rw [Clause.reading, List.map_cons, Reading.ofConditions, Clause.predicate_eq hfirst, hrest, hsingle]
  simp only [sql, render_append, render_words, String.append_assoc]

end Compile

end RecordMapper
