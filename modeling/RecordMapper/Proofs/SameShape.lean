import Mathlib.Data.List.Forall2
import RecordMapper.Proofs.Expansion
import RecordMapper.Proofs.Requests
import RecordMapper.Query.Compile

/-!
What values cannot change. Two intents have the same shape if they differ only in values that become bindings, where
lists stay lists of the same length and what an assignment writes as a literal stays that literal. Main statement:
intents of the same shape have the same statement, and whatever the adapter, the same text reaches the driver. So a
value that comes from outside can become neither a condition nor a column nor another statement.
-/
namespace RecordMapper

/-- The number of items of a list; other values have none. -/
def Value.width? : Value → Option Nat
  | .list items => some items.length
  | _ => none

/-- What an assignment writes of a value in place of a binding. -/
def Value.literal? : Value → Option String
  | .null => some "NULL"
  | .bool b => some (if b then "1" else "0")
  | _ => none

/-- Whether an action assigns values to columns. -/
def ActionTag.assigns : ActionTag → Bool
  | .known .update | .known .insertUpdate => true
  | _ => false

/-- Operands that make one text: as many items behind a list operator, the same value behind `IS`, and elsewhere
both no list or lists of one length. -/
def SameOperand (operator : String) (v w : Value) : Prop :=
  if operator = "IN" ∨ operator = "NOT IN" then v.elements?.map List.length = w.elements?.map List.length
  else if operator = "IS" ∨ operator = "IS NOT" then v = w
  else v.width? = w.width?

/-- Conditions that differ in their operands at most. -/
inductive Clause.SameShape : Clause → Clause → Prop
  | raw (text junction : String) : SameShape (.raw text junction) (.raw text junction)
  | compare (field operator junction : String) {v w : Value} (h : SameOperand operator v w) :
      SameShape (.compare field operator v junction) (.compare field operator w junction)

theorem Clause.SameShape.junction_eq {c d : Clause} (h : c.SameShape d) : c.junction = d.junction := by
  cases h <;> rfl

/-- Entries of a record that differ in their values at most. -/
structure SameEntry (action : ActionTag) (e f : String × Value) : Prop where
  column : e.1 = f.1
  width : e.2.width? = f.2.width?
  literal : action.assigns = true → e.2.literal? = f.2.literal?

/-- Counts of rows of which neither or both are there, and which are integers if they are there. -/
structure SameCount (v w : Value) : Prop where
  truthy : v.isTruthy = w.isTruthy
  left : v.isTruthy = true → ∃ n, v.toInt = .ok n
  right : w.isTruthy = true → ∃ n, w.toInt = .ok n

/-- Intents that differ only in values that are bound. -/
structure Intent.SameShape (i j : Intent) : Prop where
  action : i.action = j.action
  select : i.select = j.select
  data : Option.Rel (List.Forall₂ (SameEntry i.action)) i.data j.data
  conditions : List.Forall₂ Clause.SameShape i.conditions j.conditions
  joins : i.joins = j.joins
  order : i.order = j.order
  groupBy : i.groupBy = j.groupBy
  limit : SameCount i.limit j.limit
  offset : SameCount i.offset j.offset
  rawQuery : i.rawQuery = j.rawQuery

/-! ### Results that agree -/

/-- Results of two computations: the same failure, or related values. -/
inductive Agree {α : Type} (R : α → α → Prop) : Except Failure α → Except Failure α → Prop
  | error (e : Failure) : Agree R (.error e) (.error e)
  | ok {a b : α} (h : R a b) : Agree R (.ok a) (.ok b)

namespace Agree

variable {α β : Type} {R : α → α → Prop} {S : β → β → Prop} {x y : Except Failure α}

theorem bind {f g : α → Except Failure β} (h : Agree R x y) (hnext : ∀ a b, R a b → Agree S (f a) (g b)) :
    Agree S (x >>= f) (y >>= g) := by
  cases h with
  | error e => exact .error e
  | ok hab => exact hnext _ _ hab

theorem map {f g : α → β} (h : Agree R x y) (hfg : ∀ a b, R a b → S (f a) (g b)) : Agree S (x.map f) (y.map g) := by
  cases h with
  | error e => exact .error e
  | ok hab => exact .ok (hfg _ _ hab)

/-- Results that agree are equal in everything that related values have in common. -/
theorem map_eq {f : α → β} (h : Agree R x y) (hf : ∀ a b, R a b → f a = f b) : x.map f = y.map f := by
  cases h with
  | error e => rfl
  | ok hab => exact congrArg Except.ok (hf _ _ hab)

end Agree

theorem isEmpty_eq_of_length_eq {α β : Type} {l : List α} {m : List β} (h : l.length = m.length) :
    l.isEmpty = m.isEmpty := by
  rw [Bool.eq_iff_iff, List.isEmpty_iff_length_eq_zero, h, List.isEmpty_iff_length_eq_zero]

/-! ### Layouts -/

namespace Layout

/-- Layouts that differ in their values at most, and in these neither where one is a list nor in its length. -/
inductive SameText : Layout → Layout → Prop
  | nil : SameText [] []
  | text (s : String) {l m : Layout} (h : SameText l m) : SameText (.text s :: l) (.text s :: m)
  | slot {v w : Value} (hv : v.width? = w.width?) {l m : Layout} (h : SameText l m) :
      SameText (.slot v :: l) (.slot w :: m)

namespace SameText

theorem refl : ∀ l : Layout, SameText l l
  | [] => nil
  | .text s :: rest => text s (refl rest)
  | .slot _ :: rest => slot rfl (refl rest)

theorem append {l l' m m' : Layout} (hl : SameText l l') (hm : SameText m m') : SameText (l ++ m) (l' ++ m') := by
  induction hl with
  | nil => exact hm
  | text s _ ih => exact text s ih
  | slot hv _ ih => exact slot hv ih

theorem separated (separator : String) {ls ms : List Layout} (h : List.Forall₂ SameText ls ms) :
    SameText (Layout.separated separator ls) (Layout.separated separator ms) := by
  induction h with
  | nil => exact nil
  | cons hpart hrest ih =>
    cases hrest with
    | nil => exact hpart
    | cons _ _ => exact (hpart.append (refl (words separator))).append ih

theorem sql_eq {l m : Layout} (h : SameText l m) : l.sql = m.sql := by
  induction h with
  | nil => rfl
  | text s _ ih => rw [sql, sql, render, render, ← sql, ← sql, ih]
  | slot _ _ ih => rw [sql, sql, render, render, ← sql, ← sql, ih]

theorem widths_eq {l m : Layout} (h : SameText l m) :
    l.bindings.map Value.width? = m.bindings.map Value.width? := by
  induction h with
  | nil => rfl
  | text s _ ih => exact ih
  | slot hv _ ih => rw [bindings, bindings, List.map_cons, List.map_cons, hv, ih]

end SameText

end Layout

/-! ### Parts of a statement -/

namespace Compile

open Layout

theorem assignment_eq (column : String) (v : Value) :
    assignment column v = match v.literal? with
      | some s => words (column ++ " = " ++ s)
      | none => [.text (column ++ " = "), .slot v] := by
  cases v with
  | null => dsimp only [Value.literal?]; rw [assignment, String.append_assoc]; rfl
  | bool b => rfl
  | _ => rfl

theorem sameText_assignments {action : ActionTag} (ha : action.assigns = true) {data data' : Row}
    (h : List.Forall₂ (SameEntry action) data data') : SameText (assignments data) (assignments data') := by
  refine SameText.separated ", " ?_
  rw [List.forall₂_map_left_iff, List.forall₂_map_right_iff]
  refine h.imp ?_
  rintro ⟨c, v⟩ ⟨d, w⟩ hentry
  obtain rfl : c = d := hentry.column
  have hliteral : v.literal? = w.literal? := hentry.literal ha
  dsimp only
  rw [assignment_eq, assignment_eq, hliteral]
  split
  · exact SameText.refl _
  · exact .text _ (.slot hentry.width .nil)

theorem sameText_insertion {action : ActionTag} (verb table : String) {data data' : Row}
    (h : List.Forall₂ (SameEntry action) data data') :
    SameText (insertion verb table data) (insertion verb table data') := by
  have hcolumns : data.columns = data'.columns := by
    induction h with
    | nil => rfl
    | cons hentry _ ih =>
      rw [Row.columns, Row.columns, List.map_cons, List.map_cons, ← Row.columns, ← Row.columns, hentry.column, ih]
  rw [insertion, insertion, hcolumns]
  refine ((SameText.refl _).append (SameText.separated ", " ?_)).append (SameText.refl _)
  rw [List.forall₂_map_left_iff, List.forall₂_map_right_iff]
  exact h.imp fun e f hef => .slot hef.width .nil

theorem agree_requireData {i j : Intent} (h : i.SameShape j) (table : String) (a : Action) :
    Agree (List.Forall₂ (SameEntry i.action)) (requireData table a i) (requireData table a j) := by
  rw [requireData, requireData]
  cases hi : i.data with
  | none =>
    cases hj : j.data with
    | none => exact .error _
    | some data' =>
      have hdata := h.data
      rw [hi, hj] at hdata
      cases hdata
  | some data =>
    have hdata := h.data
    rw [hi] at hdata
    generalize j.data = d at hdata
    cases hdata with
    | some hentries =>
      cases hentries with
      | nil => exact .error _
      | cons hentry hrest => exact .ok (.cons hentry hrest)

theorem agree_condition (table : String) {c d : Clause} (h : c.SameShape d) :
    Agree SameText (condition table c) (condition table d) := by
  cases h with
  | raw text junction => exact .ok (SameText.refl _)
  | compare field operator junction h =>
    rename_i v w
    rw [SameOperand] at h
    rw [condition, condition]
    split at h
    · rename_i hlist
      rw [if_pos hlist, if_pos hlist]
      cases hv : v.elements? with
      | none =>
        cases hw : w.elements? with
        | none => exact .error _
        | some _ => rw [hv, hw] at h; cases h
      | some items =>
        cases hw : w.elements? with
        | none => rw [hv, hw] at h; cases h
        | some items' =>
          rw [hv, hw, Option.map_some, Option.map_some, Option.some.injEq] at h
          cases items with
          | nil =>
            rw [List.length_eq_zero_iff.1 h.symm]
            exact .ok (SameText.refl _)
          | cons x items =>
            obtain ⟨y, items', rfl⟩ := List.exists_cons_of_length_pos (show 0 < items'.length by rw [← h]; simp)
            have hwidth : (Value.list (x :: items)).width? = (Value.list (y :: items')).width? := congrArg some h
            exact .ok (.text _ (.slot hwidth (.text _ .nil)))
    · rename_i hlist
      rw [if_neg hlist, if_neg hlist]
      split at h
      · rename_i his
        rw [if_pos his, if_pos his, h]
        exact .ok (SameText.refl _)
      · rename_i his
        rw [if_neg his, if_neg his]
        exact .ok (.text _ (.slot h .nil))

theorem agree_furtherConditions (table : String) {cs ds : List Clause} (h : List.Forall₂ Clause.SameShape cs ds) :
    Agree SameText (furtherConditions table cs) (furtherConditions table ds) := by
  induction h with
  | nil => exact .ok .nil
  | cons hc _ ih =>
    rw [furtherConditions, furtherConditions, hc.junction_eq]
    exact (agree_condition table hc).bind fun l m hthis => ih.bind fun l' m' hfurther =>
      .ok (((SameText.refl _).append hthis).append hfurther)

theorem agree_conditions (table : String) {cs ds : List Clause} (h : List.Forall₂ Clause.SameShape cs ds) :
    Agree SameText (conditions table cs) (conditions table ds) := by
  cases h with
  | nil => exact .ok .nil
  | cons hc hrest =>
    rw [conditions, conditions]
    exact (agree_condition table hc).bind fun l m hfirst => (agree_furtherConditions table hrest).bind
      fun l' m' hfurther => .ok (((SameText.refl _).append hfirst).append hfurther)

theorem agree_range {i j : Intent} (h : i.SameShape j) : Agree SameText (range i) (range j) := by
  rw [range, range, h.limit.truthy]
  cases hlimit : j.limit.isTruthy with
  | false => exact .ok .nil
  | true =>
    obtain ⟨n, hn⟩ := h.limit.left (h.limit.truthy.trans hlimit)
    obtain ⟨n', hn'⟩ := h.limit.right hlimit
    have hwidth (m m' : Int) : (Value.int m).width? = (Value.int m').width? := rfl
    rw [hn, hn', h.offset.truthy]
    cases hoffset : j.offset.isTruthy with
    | false => exact .ok (.text _ (.slot (hwidth n n') .nil))
    | true =>
      obtain ⟨k, hk⟩ := h.offset.left (h.offset.truthy.trans hoffset)
      obtain ⟨k', hk'⟩ := h.offset.right hoffset
      rw [hk, hk']
      exact .ok (.text _ (.slot (hwidth n n') (.text _ (.slot (hwidth k k') .nil))))

theorem agree_head {i j : Intent} (h : i.SameShape j) (table : String) {a : Action} (ha : i.action = .known a) :
    Agree SameText (head table a i) (head table a j) := by
  cases a with
  | select =>
    rw [head, head, selectList, selectList, h.select, h.joins]
    exact .ok (SameText.refl _)
  | insert | insertIgnore =>
    exact (agree_requireData h table _).bind fun data data' hdata => .ok (sameText_insertion _ table hdata)
  | insertUpdate =>
    exact (agree_requireData h table _).bind fun data data' hdata =>
      .ok (((sameText_insertion _ table hdata).append (SameText.refl _)).append
        (sameText_assignments (by rw [ha]; rfl) hdata))
  | update =>
    exact (agree_requireData h table _).bind fun data data' hdata =>
      .ok ((SameText.refl _).append (sameText_assignments (by rw [ha]; rfl) hdata))
  | delete =>
    have hempty : i.conditions.isEmpty = j.conditions.isEmpty := isEmpty_eq_of_length_eq h.conditions.length_eq
    rw [head, head, hempty]
    split
    · exact .error _
    · exact .ok (SameText.refl _)

theorem agree_statement {i j : Intent} (h : i.SameShape j) (table : String) {a : Action} (ha : i.action = .known a) :
    Agree SameText (statement table a i) (statement table a j) := by
  have hbehind : grouping i ++ ordering table i = grouping j ++ ordering table j := by
    rw [grouping, ordering, h.groupBy, h.order]
    rfl
  rw [statement, statement, h.joins, hbehind]
  exact (agree_head h table ha).bind fun l m hstart => (agree_conditions table h.conditions).bind
    fun l' m' hfiltered => (agree_range h).bind fun l'' m'' htail =>
      .ok ((((hstart.append (SameText.refl _)).append hfiltered).append (SameText.refl _)).append htail)

end Compile

/-- Statements of intents of the same shape differ in their values at most. -/
theorem Intent.agree_compile {i j : Intent} (h : i.SameShape j) (table : String) :
    Agree Layout.SameText (i.compile table) (j.compile table) := by
  rw [Intent.compile, Intent.compile, ← h.rawQuery, ← h.action]
  cases ha : i.action with
  | known a =>
    have hstatement := Compile.agree_statement h table ha
    cases i.rawQuery with
    | none => exact hstatement
    | some sql =>
      dsimp only
      split
      · exact hstatement
      · exact .ok (Layout.SameText.refl _)
  | unknown v =>
    cases i.rawQuery with
    | none => exact .error _
    | some sql =>
      dsimp only
      split
      · exact .error _
      · exact .ok (Layout.SameText.refl _)

/-! ### Texts for a driver -/

theorem slotsFor_eq {items items' : List Value} (h : items.length = items'.length) :
    slotsFor items = slotsFor items' := by
  rw [slotsFor, slotsFor, List.map_const', List.map_const', h, isEmpty_eq_of_length_eq h]

/-- What stands for a binding, and how many values are bound by it, is decided by its width. -/
theorem slotMarks_eq {v w : Value} (h : v.width? = w.width?) :
    slotMarks v = slotMarks w ∧ (bound v).length = (bound w).length := by
  cases v with
  | list items =>
    cases w with
    | list items' => exact ⟨slotsFor_eq (Option.some.inj h), Option.some.inj h⟩
    | _ => cases h
  | _ =>
    cases w with
    | list items' => cases h
    | _ => exact ⟨rfl, rfl⟩

theorem isList_eq (v : Value) : v.isList = v.width?.isSome := by cases v <;> rfl

/-- Widened statements of the same text, with equally many values. -/
def SameExpansion {τ : Type} (r r' : τ × List Value) : Prop := r.1 = r'.1 ∧ r.2.length = r'.2.length

/-- Segments are widened to the same text by bindings of the same widths, or to none by both. -/
theorem expandRest_sameExpansion : ∀ (rest : List (List Char)) (params params' : List Value),
    params.map Value.width? = params'.map Value.width? →
    Option.Rel SameExpansion (expandRest rest params) (expandRest rest params')
  | [], params, params', h => .some ⟨rfl, by simpa using congrArg List.length h⟩
  | _ :: _, [], [], _ => .none
  | _ :: _, [], _ :: _, h => by cases h
  | _ :: _, _ :: _, [], h => by cases h
  | segment :: rest, v :: params, w :: params', h => by
    rw [List.map_cons, List.map_cons, List.cons.injEq] at h
    obtain ⟨hmarks, hlength⟩ := slotMarks_eq h.1
    have ih := expandRest_sameExpansion rest params params' h.2
    rw [expandRest_cons, expandRest_cons, hmarks]
    generalize expandRest rest params = x, expandRest rest params' = y at ih ⊢
    cases ih with
    | none => exact .none
    | some hxy =>
      refine .some ⟨congrArg (slotMarks w ++ segment ++ ·) hxy.1, ?_⟩
      rw [List.length_append, List.length_append, hlength, hxy.2]

theorem agree_expandBindings (sql : String) {params params' : List Value}
    (h : params.map Value.width? = params'.map Value.width?) :
    Agree SameExpansion (expandBindings sql params) (expandBindings sql params') := by
  have hany : params.any Value.isList = params'.any Value.isList := by
    have hwidths (ps : List Value) : ps.any Value.isList = (ps.map Value.width?).any Option.isSome := by
      rw [List.any_map]
      exact congrArg (List.any ps) (funext isList_eq)
    rw [hwidths, h, ← hwidths]
  have hrest := expandRest_sameExpansion (segments sql).rest params params' h
  rw [expandBindings, expandBindings, hany]
  cases hlist : params'.any Value.isList with
  | false => exact .ok ⟨rfl, by simpa using congrArg List.length h⟩
  | true =>
    simp only [Bool.not_true, Bool.false_eq_true, if_false]
    generalize expandRest (segments sql).rest params = x, expandRest (segments sql).rest params' = y at hrest ⊢
    cases hrest with
    | none => exact .error _
    | some hxy => exact .ok ⟨congrArg (fun t => String.ofList ((segments sql).first ++ t)) hxy.1, hxy.2⟩

/-- Every kind of adapter makes the same text of a statement whose bindings have the same widths. -/
theorem agree_request (kind : AdapterKind) (sql : String) {params params' : List Value}
    (h : params.map Value.width? = params'.map Value.width?) :
    Agree (fun r r' => r.1 = r'.1) (kind.request sql params) (kind.request sql params') := by
  cases kind with
  | stub => exact .ok rfl
  | mysql =>
    refine (agree_expandBindings sql h).map ?_
    rintro ⟨text, bindings⟩ ⟨text', bindings'⟩ ⟨htext, hlength⟩
    obtain rfl : text = text' := htext
    dsimp only
    rw [isEmpty_eq_of_length_eq hlength]
    split <;> rfl
  | sqlite => exact (agree_expandBindings _ h).map fun r r' hr => hr.1

/-- The texts that have reached a store, in order. -/
def Store.texts (s : Store) : List String := s.requests.map Prod.fst

/-- Intents of the same shape compile to the same text, and whatever the adapter and its state, the same texts reach
the driver when their statements are run. -/
theorem same_text_of_sameShape {i j : Intent} (h : i.SameShape j) (table : String) :
    (i.compile table).map Layout.sql = (j.compile table).map Layout.sql ∧
      ∀ l m, i.compile table = .ok l → j.compile table = .ok m → ∀ s : System,
        ((Adapter.execute l.sql (some l.bindings)).perform s).2.store.texts =
          ((Adapter.execute m.sql (some m.bindings)).perform s).2.store.texts := by
  have hagree := Intent.agree_compile h table
  refine ⟨hagree.map_eq fun l m hlm => hlm.sql_eq, fun l m hl hm s => ?_⟩
  rw [hl, hm] at hagree
  cases hagree with
  | ok hlm =>
    have hrequest : (s.adapter.kind.request l.sql l.bindings).map Prod.fst =
        (s.adapter.kind.request m.sql m.bindings).map Prod.fst := by
      rw [hlm.sql_eq]
      exact (agree_request s.adapter.kind m.sql hlm.widths_eq).map_eq fun r r' hr => hr
    have htexts (r : Except Failure Request) :
        r.toOption.toList.map Prod.fst = (r.map Prod.fst).toOption.toList := by cases r <;> rfl
    rw [Store.texts, Store.texts, (Adapter.perform_execute l.sql l.bindings s).2,
      (Adapter.perform_execute m.sql m.bindings s).2, List.map_append, List.map_append]
    split
    · rw [htexts, htexts, hrequest]
    · rfl

/-- A change of the rows of some names, and how many of them. -/
def renamed (name reason : String) (names : List String) (limit : Value) : Intent where
  action := .known .update
  data := some [("name", .text name), ("note", .null), ("reason", .text reason)]
  conditions := [.compare "name" "IN" (.list (names.map .text)) "AND", .compare "open" "IS" (.bool true) "OR"]
  limit := limit

/-- Names that are written like parts of statements change nothing but the bindings. -/
theorem same_text_of_renamed :
    let i := renamed "x" "typo" ["y", "z"] (.int 1)
    let j := renamed "', name = '?" "1; DROP TABLE users --" ["?) OR 1 = 1 --", "%s"] (.text "2")
    (i.compile "users").map Layout.sql = (j.compile "users").map Layout.sql ∧
      ∀ l m, i.compile "users" = .ok l → j.compile "users" = .ok m → ∀ s : System,
        ((Adapter.execute l.sql (some l.bindings)).perform s).2.store.texts =
          ((Adapter.execute m.sql (some m.bindings)).perform s).2.store.texts := by
  intro i j
  have htext (c s t : String) : SameEntry (.known .update) (c, .text s) (c, .text t) := ⟨rfl, rfl, fun _ => rfl⟩
  have hnull : SameEntry (.known .update) ("note", .null) ("note", .null) := ⟨rfl, rfl, fun _ => rfl⟩
  have hshape : i.SameShape j :=
    { action := rfl
      select := rfl
      data := .some (.cons (htext ..) (.cons hnull (.cons (htext ..) .nil)))
      conditions := .cons (.compare _ _ _ rfl) (.cons (.compare _ _ _ rfl) .nil)
      joins := rfl
      order := rfl
      groupBy := rfl
      limit := ⟨rfl, fun _ => ⟨1, rfl⟩, fun _ => ⟨2, rfl⟩⟩
      offset := ⟨rfl, fun h => absurd h Bool.false_ne_true, fun h => absurd h Bool.false_ne_true⟩
      rawQuery := rfl }
  exact same_text_of_sameShape hshape "users"

end RecordMapper
