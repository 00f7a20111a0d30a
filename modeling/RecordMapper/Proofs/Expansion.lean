import RecordMapper.Proofs.Slots

/-!
Widening list bindings. A statement with as many slots as bindings is widened by writing the marks of each binding
over its slot: one question mark for a value, as many as it has items for a list, and `NULL` for an empty list. Main
statement: what is written over the slots of the widened statement comes to stand where the bindings stood, because
no mark opens a literal and the text behind it is read as before.
-/
namespace RecordMapper

/-- What stands for a binding in a widened statement. -/
def slotMarks : Value → List Char
  | .list items => slotsFor items
  | _ => ['?']

/-- What a binding consists of when lists are widened. -/
def bound : Value → List Value
  | .list items => items
  | v => [v]

/-- A binding as it stands in a statement in the end: a list with its items one behind the other, an empty list as
`NULL`. -/
def slotText (r : Value → String) : Value → String
  | .list items => if items.isEmpty then "NULL" else ", ".intercalate (items.map r)
  | v => r v

/-! ### Marks -/

theorem slotsFor_cons_cons (v w : Value) (items : List Value) :
    slotsFor (v :: w :: items) = '?' :: ',' :: ' ' :: slotsFor (w :: items) := by
  simp only [slotsFor, List.isEmpty_cons, Bool.false_eq_true, if_false, List.map_cons, List.intercalate_cons_cons]
  rfl

/-- What is written over the slots of a list fills them all, and what follows is filled from the texts that are
left. -/
theorem fillFrom_slotsFor (r : Value → String) (t : List Char) (fs : List (List Char)) :
    ∀ items : List Value, items ≠ [] → fillFrom none (slotsFor items ++ t) ((items.map r).map String.toList ++ fs) =
      (", ".intercalate (items.map r)).toList ++ fillFrom none t fs
  | [], h => absurd rfl h
  | [v], _ => by
    rw [show slotsFor [v] = ['?'] from rfl, List.map_cons, List.map_nil, List.map_cons, List.map_nil,
      String.intercalate_singleton]
    exact fillFrom_slot t _ fs
  | v :: w :: items, _ => by
    have hrest := fillFrom_slotsFor r t fs (w :: items) (List.cons_ne_nil w items)
    have hcomma : ∀ k gs, fillFrom none (',' :: ' ' :: k) gs = ',' :: ' ' :: fillFrom none k gs :=
      fun k gs => fillFrom_plain gs k [',', ' '] (by decide)
    simp only [List.map_cons, List.cons_append] at hrest
    simp only [slotsFor_cons_cons, List.map_cons, List.cons_append]
    rw [fillFrom_slot, hcomma, hrest, String.intercalate_cons_cons, String.toList_append, String.toList_append,
      List.append_assoc, List.append_assoc]
    rfl

/-- The marks of a binding are filled from the texts of what it consists of. -/
theorem fillFrom_slotMarks (r : Value → String) (v : Value) (t : List Char) (fs : List (List Char)) :
    fillFrom none (slotMarks v ++ t) (((bound v).map r).map String.toList ++ fs) =
      (slotText r v).toList ++ fillFrom none t fs := by
  cases v with
  | list items =>
    rw [slotMarks, bound, slotText]
    cases items with
    | nil => exact fillFrom_plain fs t "NULL".toList (by decide)
    | cons w items => exact fillFrom_slotsFor r t fs (w :: items) (List.cons_ne_nil w items)
  | _ => exact fillFrom_slot t _ fs

theorem slots_slotsFor (t : List Char) : ∀ items : List Value,
    (segmentsFrom none (slotsFor items ++ t)).slots = (segmentsFrom none t).slots + items.length
  | [] => slots_segmentsFrom_plain t "NULL".toList (by decide)
  | [_] => slots_segmentsFrom_slot t
  | v :: w :: items => by
    have hcomma := slots_segmentsFrom_plain (slotsFor (w :: items) ++ t) [',', ' '] (by decide)
    rw [slotsFor_cons_cons, List.cons_append, slots_segmentsFrom_slot, List.cons_append, List.cons_append]
    rw [List.cons_append, List.cons_append, List.nil_append, slots_slotsFor t (w :: items)] at hcomma
    rw [hcomma]
    simp only [List.length_cons]
    omega

theorem slots_slotMarks (v : Value) (t : List Char) :
    (segmentsFrom none (slotMarks v ++ t)).slots = (segmentsFrom none t).slots + (bound v).length := by
  cases v with
  | list items => exact slots_slotsFor t items
  | _ => exact slots_segmentsFrom_slot t

/-! ### The widened statement -/

/-- The text of a statement that is widened. -/
def widened (state : Option Char) (t : List Char) (params : List Value) : List Char :=
  fillFrom state t (params.map slotMarks)

/-- Filling the widened statement is filling the statement. -/
theorem fillFrom_widened (r : Value → String) (state : Option Char) (t : List Char) (params : List Value) :
    fillFrom state (widened state t params) (((params.flatMap bound).map r).map String.toList) =
      fillFrom state t ((params.map (slotText r)).map String.toList) := by
  -- the reading of the widened text is in the same state as that of the text, behind each mark too
  induction t generalizing state params with
  | nil => cases state <;> rfl
  | cons c rest ih =>
    rw [widened]
    cases state with
    | some quote => rw [fillFrom, fillFrom, fillFrom, ← widened, ih]
    | none =>
      rw [fillFrom]
      split
      · rename_i hquote
        rw [fillFrom, fillFrom, if_pos hquote, if_pos hquote, ← widened, ih]
      · rename_i hquote
        split
        · rename_i hslot
          cases params with
          | nil =>
            simp only [List.map_nil, List.flatMap_nil, List.tail_nil, fillFrom_nil]
            rfl
          | cons v params =>
            rw [List.map_cons, List.headD_cons, List.tail_cons, List.flatMap_cons, List.map_append, List.map_append,
              fillFrom_slotMarks, ← widened, ih, beq_iff_eq.1 hslot, List.map_cons, List.map_cons, fillFrom_slot]
        · rename_i hslot
          rw [fillFrom, fillFrom, if_neg hquote, if_neg hslot, if_neg hquote, if_neg hslot, ← widened, ih]

/-- A widened statement has as many slots as there are values bound. -/
theorem slots_widened (state : Option Char) (t : List Char) (params : List Value)
    (hcount : (segmentsFrom state t).slots = params.length) :
    (segmentsFrom state (widened state t params)).slots = (params.flatMap bound).length := by
  induction t generalizing state params with
  | nil =>
    have hnil : params = [] := by
      cases state <;> exact List.length_eq_zero_iff.1 hcount.symm
    subst hnil
    cases state <;> rfl
  | cons c rest ih =>
    rw [widened]
    cases state with
    | some quote =>
      rw [segmentsFrom, slots_cons] at hcount
      rw [fillFrom, segmentsFrom, slots_cons, ← widened, ih _ _ hcount]
    | none =>
      rw [segmentsFrom] at hcount
      rw [fillFrom]
      split at hcount
      · rename_i hquote
        rw [slots_cons] at hcount
        rw [if_pos hquote, segmentsFrom, if_pos hquote, slots_cons, ← widened, ih _ _ hcount]
      · rename_i hquote
        rw [if_neg hquote]
        split at hcount
        · rename_i hslot
          rw [slots_slot] at hcount
          obtain ⟨v, params, rfl⟩ := List.exists_cons_of_length_pos (show 0 < params.length by omega)
          rw [List.length_cons] at hcount
          rw [if_pos hslot, List.map_cons, List.headD_cons, List.tail_cons, slots_slotMarks, ← widened,
            ih _ _ (by omega), List.flatMap_cons, List.length_append]
          omega
        · rename_i hslot
          rw [slots_cons] at hcount
          rw [if_neg hslot, segmentsFrom, if_neg hquote, if_neg hslot, slots_cons, ← widened, ih _ _ hcount]

/-! ### What widening does -/

theorem expandRest_cons (segment : List Char) (rest : List (List Char)) (v : Value) (params : List Value) :
    expandRest (segment :: rest) (v :: params) =
      (expandRest rest params).map fun (text, flat) => (slotMarks v ++ segment ++ text, bound v ++ flat) := by
  cases v <;> rfl

/-- Between the segments of a statement stand the marks of its bindings, if there are enough; those behind the last
slot stay as they are. -/
theorem expandRest_segmentsFrom (state : Option Char) (t : List Char) (params : List Value)
    (hcount : (segmentsFrom state t).slots ≤ params.length) :
    ∃ text, expandRest (segmentsFrom state t).rest params =
        some (text, (params.take (segmentsFrom state t).slots).flatMap bound ++
          params.drop (segmentsFrom state t).slots) ∧
      (segmentsFrom state t).first ++ text = widened state t params := by
  fun_induction segmentsFrom state t generalizing params with
  | case1 state => exact ⟨[], rfl, by cases state <;> rfl⟩
  | case2 quote c rest ih =>
    obtain ⟨text, hexpand, htext⟩ := ih params hcount
    refine ⟨text, hexpand, ?_⟩
    rw [widened, fillFrom, ← widened, ← htext]
    rfl
  | case3 c rest hquote ih =>
    obtain ⟨text, hexpand, htext⟩ := ih params hcount
    refine ⟨text, hexpand, ?_⟩
    rw [widened, fillFrom, if_pos hquote, ← widened, ← htext]
    rfl
  | case4 c rest hquote hslot ih =>
    rw [slots_slot] at hcount
    obtain ⟨v, params, rfl⟩ := List.exists_cons_of_length_pos (show 0 < params.length by omega)
    rw [List.length_cons, Nat.add_le_add_iff_right] at hcount
    obtain ⟨text, hexpand, htext⟩ := ih params hcount
    refine ⟨slotMarks v ++ (segmentsFrom none rest).first ++ text, ?_, ?_⟩
    · rw [Segments.slot, expandRest_cons, hexpand, ← Segments.slot, slots_slot, List.take_succ_cons, List.flatMap_cons,
        List.drop_succ_cons, List.append_assoc (bound v)]
      rfl
    · rw [widened, fillFrom, if_neg hquote, if_pos hslot, List.map_cons, List.headD_cons, List.tail_cons, ← widened,
        ← htext, List.append_assoc]
      rfl
  | case5 c rest hquote hslot ih =>
    obtain ⟨text, hexpand, htext⟩ := ih params hcount
    refine ⟨text, hexpand, ?_⟩
    rw [widened, fillFrom, if_neg hquote, if_neg hslot, ← widened, ← htext]
    rfl

/-- Slots filled with question marks are slots again. -/
theorem fillFrom_replicate (state : Option Char) (t : List Char) (n : Nat) :
    fillFrom state t (List.replicate n ['?']) = t := by
  induction t generalizing state n with
  | nil => cases state <;> rfl
  | cons c rest ih =>
    cases state with
    | some quote => rw [fillFrom, ih]
    | none =>
      rw [fillFrom, ih, ih, List.tail_replicate, ih]
      split
      · rfl
      · split
        · rename_i hslot
          rw [beq_iff_eq.1 hslot]
          cases n <;> rfl
        · rfl

/-- Where no binding is a list, widening changes nothing. -/
theorem widened_of_no_list (state : Option Char) (t : List Char) (params : List Value)
    (h : params.any Value.isList = false) : widened state t params = t ∧ params.flatMap bound = params := by
  have hmarks : ∀ v ∈ params, slotMarks v = ['?'] ∧ bound v = [v] := by
    intro v hv
    have hlist := List.any_eq_false.1 h v hv
    cases v with
    | list items => exact absurd rfl hlist
    | _ => exact ⟨rfl, rfl⟩
  constructor
  · rw [widened, List.map_congr_left fun v hv => (hmarks v hv).1, List.map_const', fillFrom_replicate]
  · rw [List.flatMap_def, List.map_congr_left fun v hv => (hmarks v hv).2, ← List.flatMap_def,
      List.flatMap_singleton']

/-- With enough bindings, or with bindings that are no lists, a statement is widened by the marks of its bindings;
those behind the last slot stay as they are. -/
theorem expandBindings_of_enough (sql : String) (params : List Value)
    (h : params.any Value.isList = true → (segmentsFrom none sql.toList).slots ≤ params.length) :
    expandBindings sql params =
      .ok (String.ofList (widened none sql.toList params),
        (params.take (segmentsFrom none sql.toList).slots).flatMap bound ++
          params.drop (segmentsFrom none sql.toList).slots) := by
  rw [expandBindings]
  cases hany : params.any Value.isList with
  | false =>
    have htaken : (params.take (segmentsFrom none sql.toList).slots).any Value.isList = false :=
      List.any_eq_false.2 fun v hv => List.any_eq_false.1 hany v (List.mem_of_mem_take hv)
    rw [(widened_of_no_list none sql.toList params hany).1, (widened_of_no_list none sql.toList _ htaken).2,
      List.take_append_drop, String.ofList_toList]
    rfl
  | true =>
    obtain ⟨text, hexpand, htext⟩ := expandRest_segmentsFrom none sql.toList params (h hany)
    simp only [Bool.not_true, Bool.false_eq_true, if_false, segments, hexpand, htext]

/-- With as many bindings as slots, a statement is widened by the marks of its bindings. -/
theorem expandBindings_eq (sql : String) (params : List Value)
    (hcount : (segmentsFrom none sql.toList).slots = params.length) :
    expandBindings sql params = .ok (String.ofList (widened none sql.toList params), params.flatMap bound) := by
  rw [expandBindings_of_enough sql params fun _ => Nat.le_of_eq hcount, hcount, List.take_length, List.drop_length,
    List.append_nil]

end RecordMapper
