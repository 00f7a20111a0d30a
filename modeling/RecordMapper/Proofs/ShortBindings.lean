import RecordMapper.Proofs.ListSlots

/-!
Bindings that do not match the slots. The slots of a statement are its question marks outside literals; here they are
counted by their places, apart from how a statement is cut at them. Main statement: widening refuses a statement exactly
if it has more slots than bindings and a list is among these, and otherwise the bindings for its slots come apart and
the ones behind them pass as they are. So a statement without lists is never refused, and a list without a slot is never
spread.
-/
namespace RecordMapper

/-- Whether a slot stands at a place of a text: a question mark before which no literal is open. -/
def isSlotAt (state : Option Char) (t : List Char) (k : Nat) : Bool :=
  t[k]? == some '?' && (quoteAfter state (t.take k)).isNone

/-- The number of question marks outside literals. -/
def slotCount (sql : String) : Nat := (List.range sql.toList.length).countP (isSlotAt none sql.toList)

/-! ### Counting slots by their places -/

/-- The state in which a text is read behind its first character. -/
def stateBehind (state : Option Char) (c : Char) : Option Char := quoteAfter state [c]

theorem quoteAfter_cons (state : Option Char) (c : Char) (t : List Char) :
    quoteAfter state (c :: t) = quoteAfter (stateBehind state c) t := by
  cases state <;> rfl

theorem isSlotAt_succ (state : Option Char) (c : Char) (t : List Char) (k : Nat) :
    isSlotAt state (c :: t) (k + 1) = isSlotAt (stateBehind state c) t k := by
  rw [isSlotAt, isSlotAt, List.take_succ_cons, quoteAfter_cons, List.getElem?_cons_succ]

theorem isSlotAt_zero (state : Option Char) (c : Char) (t : List Char) :
    isSlotAt state (c :: t) 0 = (c == '?' && state.isNone) := by
  cases state <;> rfl

/-- A character is a slot or not, and what follows is read in the state behind it. -/
theorem slots_segmentsFrom_cons (state : Option Char) (c : Char) (t : List Char) :
    (segmentsFrom state (c :: t)).slots =
      (segmentsFrom (stateBehind state c) t).slots + if c == '?' && state.isNone then 1 else 0 := by
  cases state with
  | some quote =>
    rw [segmentsFrom, slots_cons, Option.isNone_some, Bool.and_false]
    rfl
  | none =>
    rw [segmentsFrom, stateBehind, quoteAfter, quoteAfter, Option.isNone_none, Bool.and_true]
    split
    · rename_i hquote
      have hslot : ¬ (c == '?') = true := by
        intro h
        rw [beq_iff_eq.1 h] at hquote
        exact absurd hquote (by decide)
      rw [slots_cons, if_neg hslot, Nat.add_zero]
    · split
      · exact slots_slot _
      · exact slots_cons _ _

/-- The slots are those at the places of the text. -/
theorem slots_eq_countP (t : List Char) (state : Option Char) :
    (segmentsFrom state t).slots = (List.range t.length).countP (isSlotAt state t) := by
  induction t generalizing state with
  | nil => cases state <;> rfl
  | cons c t ih =>
    have hbehind : isSlotAt state (c :: t) ∘ Nat.succ = isSlotAt (stateBehind state c) t :=
      funext (isSlotAt_succ state c t)
    rw [slots_segmentsFrom_cons, ih, List.length_cons, List.range_succ_eq_map, List.countP_cons, List.countP_map,
      hbehind, isSlotAt_zero]

theorem slotCount_eq (sql : String) : slotCount sql = (segmentsFrom none sql.toList).slots :=
  (slots_eq_countP sql.toList none).symm

/-! ### Refusing and passing -/

/-- The slots of a text run out of bindings exactly if there are more of them. -/
theorem expandRest_eq_none_iff : ∀ (rest : List (List Char)) (params : List Value),
    expandRest rest params = none ↔ params.length < rest.length
  | [], params => iff_of_false nofun (Nat.not_lt_zero _)
  | _ :: rest, [] => iff_of_true rfl (Nat.succ_pos rest.length)
  | segment :: rest, v :: params => by
    rw [expandRest_cons, Option.map_eq_none_iff, expandRest_eq_none_iff rest params, List.length_cons, List.length_cons,
      Nat.add_lt_add_iff_right]

/-- A list among too few bindings is refused. -/
theorem expandBindings_of_short {sql : String} {params : List Value} (hlist : params.any Value.isList = true)
    (hshort : params.length < slotCount sql) : expandBindings sql params = .error tooFewBindings := by
  rw [slotCount_eq] at hshort
  have hnone : expandRest (segments sql).rest params = none := (expandRest_eq_none_iff _ _).2 hshort
  simp only [expandBindings, hlist, hnone, Bool.not_true, Bool.false_eq_true, if_false]

/-- Bindings without lists in lists come apart into values that are no lists. -/
theorem isList_of_mem_flatMap_bound {params : List Value}
    (hscalar : ∀ items, Value.list items ∈ params → ∀ v ∈ items, v.isList = false) :
    ∀ v ∈ params.flatMap bound, v.isList = false := by
  intro v hv
  obtain ⟨binding, hbinding, hv⟩ := List.mem_flatMap.1 hv
  cases binding with
  | list items => exact hscalar items hbinding v hv
  | _ =>
    rw [List.mem_singleton.1 hv]
    rfl

/-- Any text, and any bindings whose lists have no lists among their items. Widening fails exactly if a list is among
bindings of which there are fewer than slots, and then with the failure that says so. If it does not, it gives back the
bindings of the slots, the lists among them item by item, and behind them those without a slot as they are; so there is
a list in what it gives back exactly if one has no slot. -/
theorem expansion_refused_iff (sql : String) (params : Option (List Value))
    (hscalar : ∀ items, Value.list items ∈ params.getD [] → ∀ v ∈ items, v.isList = false) :
    let given := params.getD []
    let refused := given.any Value.isList = true ∧ given.length < slotCount sql
    (∀ e, expandBindings sql given = .error e ↔ e = tooFewBindings ∧ refused) ∧
      (¬refused → ∃ text flat, expandBindings sql given = .ok (text, flat) ∧
        flat = (given.take (slotCount sql)).flatMap bound ++ given.drop (slotCount sql) ∧
        ((∀ v ∈ flat, v.isList = false) ↔ ∀ v ∈ given.drop (slotCount sql), v.isList = false)) := by
  intro given refused
  have hpassed (h : ¬refused) : expandBindings sql given =
      .ok (String.ofList (widened none sql.toList given),
        (given.take (slotCount sql)).flatMap bound ++ given.drop (slotCount sql)) := by
    rw [slotCount_eq]
    refine expandBindings_of_enough sql given fun hlist => ?_
    rw [← slotCount_eq]
    exact Nat.le_of_not_lt fun hshort => h ⟨hlist, hshort⟩
  refine ⟨fun e => ?_, fun h => ⟨_, _, hpassed h, rfl, ?_⟩⟩
  · by_cases h : refused
    · rw [expandBindings_of_short h.1 h.2, Except.error.injEq]
      exact ⟨fun he => ⟨he.symm, h⟩, fun he => he.1.symm⟩
    · rw [hpassed h]
      exact iff_of_false nofun fun he => h he.2
  · have htaken := isList_of_mem_flatMap_bound fun items hitems =>
      hscalar items (List.mem_of_mem_take (i := slotCount sql) hitems)
    simp only [List.mem_append]
    exact ⟨fun hall v hv => hall v (.inr hv), fun hrest v hv => hv.elim (htaken v) (hrest v)⟩

/-- A list for one of two slots, where the third question mark is in a literal: with a second binding the statement is
widened, and without it, it is refused. -/
theorem expansion_of_one_list :
    let sql := "note = 'why?' AND id IN (?) AND age = ?"
    (∀ e, expandBindings sql [.list [.int 1, .int 2]] = .error e ↔
        e = tooFewBindings ∧ [Value.list [.int 1, .int 2]].any Value.isList = true ∧ 1 < slotCount sql) ∧
      ∃ text flat, expandBindings sql [.list [.int 1, .int 2], .int 30] = .ok (text, flat) ∧
        flat = [.int 1, .int 2, .int 30] ∧ ∀ v ∈ flat, v.isList = false := by
  intro sql
  have hscalar (more : List Value) (hmore : ∀ v ∈ more, v.isList = false) :
      ∀ items, Value.list items ∈ (some (Value.list [.int 1, .int 2] :: more)).getD [] →
        ∀ v ∈ items, v.isList = false := by
    intro items hitems
    rcases List.mem_cons.1 hitems with hitems | hitems
    · obtain rfl := Value.list.inj hitems
      decide
    · exact absurd (hmore _ hitems) Bool.noConfusion
  obtain ⟨hrefused, -⟩ := expansion_refused_iff sql (some [.list [.int 1, .int 2]]) (hscalar [] (by decide))
  obtain ⟨-, hpassed⟩ := expansion_refused_iff sql (some [.list [.int 1, .int 2], .int 30])
    (hscalar [.int 30] (by decide))
  have hcount : slotCount sql = 2 := by decide
  obtain ⟨text, flat, hexpand, hflat, hlists⟩ := hpassed fun h => by
    have hshort := h.2
    rw [hcount] at hshort
    exact absurd hshort (by decide)
  rw [hcount] at hflat hlists
  exact ⟨hrefused, text, flat, hexpand, hflat, hlists.2 (by decide)⟩

/-- A statement with two slots and one value is passed on as it is, and so is one with a slot and no bindings; a second
list for one slot stays a list. -/
theorem mismatched_bindings_pass :
    (expandBindings "a = ? AND b = ?" [.int 1] = .ok ("a = ? AND b = ?", [.int 1]) ∧
        slotCount "a = ? AND b = ?" = 2) ∧
      (expandBindings "a = ?" ((none : Option (List Value)).getD []) = .ok ("a = ?", []) ∧ slotCount "a = ?" = 1) ∧
      expandBindings "a IN (?)" [.list [.int 1], .list [.int 2]] = .ok ("a IN (?)", [.int 1, .list [.int 2]]) :=
  ⟨⟨rfl, by decide⟩, ⟨rfl, by decide⟩, rfl⟩

end RecordMapper
