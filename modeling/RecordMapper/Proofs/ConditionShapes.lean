import RecordMapper.Proofs.AlikeIntents
import RecordMapper.Proofs.Chains
import RecordMapper.Proofs.FailedCalls
import RecordMapper.Proofs.IntegerTexts

/-!
Ways to put a condition. A dictionary stands for its entries, a value for the operator `=`, and the calls for lists and
nulls for operators that may be written in capital or small letters with white space around them. Main statement:
wherever in a chain one way is taken for another, the statement stays the same, and so does all that a terminal does.
-/
namespace RecordMapper

/-- A word in capital and small letters, with white space around it. -/
def Spells (word text : String) : Prop :=
  ∃ left inner right, text.toList = left ++ inner ++ right ∧ (∀ c ∈ left ++ right, Text.isBlank c = true) ∧
    inner.map Char.toUpper = word.toList

/-- Calls in place of which others may stand. -/
inductive Interchangeable : List ChainCall → List ChainCall → Prop
  /-- A dictionary, and its entries one by one. -/
  | entries (j : Junction) (entries : List (Value × Value)) :
      Interchangeable [.whereArgs j [.dict entries]] (entries.map fun (k, v) => .whereArgs j [k, v])
  /-- A field with its value, with the operator `=` between them or without. -/
  | equals (j : Junction) (field v : Value) :
      Interchangeable [.whereArgs j [field, v]] [.whereArgs j [field, .text "=", v]]
  /-- A list condition, and the operator written out. -/
  | among (negated : Bool) (field : String) {values : Value} {items : List Value} {operator : String} :
      values.elements? = some items → Spells (if negated then "NOT IN" else "IN") operator →
      Interchangeable [.whereIn negated field values] [.whereArgs .and [.text field, .text operator, values]]
  /-- A null condition, and the operator written out. -/
  | isNull (negated : Bool) (field : String) {operator : String} :
      Spells (if negated then "IS NOT" else "IS") operator →
      Interchangeable [.whereNull negated field] [.whereArgs .and [.text field, .text operator, .text "NULL"]]

/-! ### Operators -/

namespace Text

/-- White space that is added at the ends is trimmed away. -/
theorem trimWhile_append_append {p : Char → Bool} {left right : List Char} (inner : List Char)
    (hends : ∀ c ∈ left ++ right, p c = true) : trimWhile p (left ++ inner ++ right) = trimWhile p inner := by
  have hleft : ∀ c ∈ left, p c = true := fun c hc => hends c (List.mem_append_left _ hc)
  have hright : ∀ c ∈ right, p c = true := fun c hc => hends c (List.mem_append_right _ hc)
  have hdropped : right.dropWhile p = [] := List.dropWhile_eq_nil_iff.2 hright
  rw [trimWhile, trimWhile, List.append_assoc, List.dropWhile_append_of_pos hleft, List.dropWhile_append, hdropped]
  split
  · rename_i hempty
    rw [List.isEmpty_iff.1 hempty]
  · rw [dropRightWhile, dropRightWhile, List.reverse_append, List.dropWhile_append_of_pos (by simpa using hright)]

theorem toUpper_eq_self {c : Char} (h : ¬ (97 ≤ c.toNat ∧ c.toNat ≤ 122)) : c.toUpper = c :=
  dif_neg fun ⟨hfirst, hlast⟩ => h ⟨(UInt32.le_iff_toNat_le.1 hfirst :), (UInt32.le_iff_toNat_le.1 hlast :)⟩

/-- White space has no capitals. -/
theorem toUpper_of_isBlank {c : Char} (h : isBlank c = true) : c.toUpper = c := by
  refine toUpper_eq_self fun hsmall => ?_
  simp only [isBlank, Bool.or_eq_true, Bool.and_eq_true, beq_iff_eq, decide_eq_true_eq] at h
  omega

theorem capital_of_toUpper {c : Char} (h : c.toUpper.toNat < 128) : capital c = [c.toUpper] := by
  have hc : c.toNat < 128 := by
    by_cases hsmall : 97 ≤ c.toNat ∧ c.toNat ≤ 122
    · omega
    · rwa [toUpper_eq_self hsmall] at h
  rw [capital, mapCase, if_pos hc]

/-- What is spelled, without the white space and in capitals, is the word. -/
theorem toCapitals_trim_of_spells {word text : String} (h : Spells word text)
    (hascii : word.toList.all (·.toNat < 128) = true) (hfirst : word.toList.head?.all (!isBlank ·) = true)
    (hlast : word.toList.getLast?.all (!isBlank ·) = true) : toCapitals (trim text) = word := by
  obtain ⟨left, inner, right, htext, hends, hinner⟩ := h
  rw [← hinner] at hascii hfirst hlast
  -- a character that is white space is so in capitals too
  have hkeeps {c : Char} (hc : (!isBlank c.toUpper) = true) : isBlank c = false := by
    rw [Bool.eq_false_iff]
    intro hblank
    rw [toUpper_of_isBlank hblank, hblank] at hc
    cases hc
  have hkept : trimWhile isBlank inner = inner := by
    refine trimWhile_eq_self (fun c hc => hkeeps ?_) fun c hc => hkeeps ?_
    · rw [List.head?_map, hc] at hfirst
      exact hfirst
    · rw [List.getLast?_map, hc] at hlast
      exact hlast
  have hcapitals : inner.flatMap capital = word.toList := by
    rw [← hinner, List.map_eq_flatMap]
    refine List.flatMap_congr fun c hc => capital_of_toUpper ?_
    exact of_decide_eq_true (List.all_eq_true.1 hascii _ (List.mem_map_of_mem hc))
  rw [toCapitals, trim, String.toList_ofList, htext, trimWhile_append_append inner hends, hkept, hcapitals,
    String.ofList_toList]

end Text

namespace Chain

theorem operatorOf_among {negated : Bool} {text : String} (h : Spells (if negated then "NOT IN" else "IN") text) :
    operatorOf (.text text) = if negated then "NOT IN" else "IN" := by
  cases negated <;> exact Text.toCapitals_trim_of_spells h rfl rfl rfl

theorem operatorOf_isNull {negated : Bool} {text : String} (h : Spells (if negated then "IS NOT" else "IS") text) :
    operatorOf (.text text) = if negated then "IS NOT" else "IS" := by
  cases negated <;> exact Text.toCapitals_trim_of_spells h rfl rfl rfl

/-- A list condition is like the same condition on the items of the list. -/
theorem alike_items (table field junction : String) {negated : Bool} {values : Value} {items : List Value}
    (h : values.elements? = some items) :
    (Clause.compare field (if negated then "NOT IN" else "IN") (.list items) junction).Alike table
      (.compare field (if negated then "NOT IN" else "IN") values junction) := by
  have hlist : (Value.list items).elements? = some items := rfl
  have hword : (if negated then "NOT IN" else "IN") = "IN" ∨ (if negated then "NOT IN" else "IN") = "NOT IN" := by
    cases negated <;> decide
  refine ⟨rfl, ?_⟩
  rw [Compile.condition, Compile.condition, if_pos hword, if_pos hword, hlist, h]

/-! ### What the calls add -/

/-- A call that adds conditions and nothing else, whatever the intent is. -/
def AddsOnly (classes : Catalogue) (s : Schema) (c : ChainCall) (cs : List Clause) : Prop :=
  ∀ run i, call classes s run i c = ok (i.addConditions cs)

variable {classes : Catalogue} {s : Schema} {c : ChainCall} {cs : List Clause}

theorem addsOnly_whereArgs {j : Junction} {args : List Value} (h : conditionsOf s j args = .ok cs) :
    AddsOnly classes s (.whereArgs j args) cs := fun run i => by
  rw [call, h]
  rfl

theorem addsOnly_pair (j : Junction) (field v : Value) :
    AddsOnly classes s (.whereArgs j [field, v]) [.compare field.shown "=" v j.word] :=
  addsOnly_whereArgs (by rw [conditionsOf])

theorem addsOnly_operator (j : Junction) (field v : Value) {text operator : String}
    (h : operatorOf (.text text) = operator) :
    AddsOnly classes s (.whereArgs j [field, .text text, v]) [.compare field.shown operator v j.word] :=
  addsOnly_whereArgs (by rw [conditionsOf, h])

theorem addsOnly_entries (j : Junction) (entries : List (Value × Value)) :
    AddsOnly classes s (.whereArgs j [.dict entries]) (entries.map fun (k, v) => .compare k.shown "=" v j.word) :=
  addsOnly_whereArgs rfl

theorem addsOnly_whereIn (negated : Bool) (field : String) {values : Value} {items : List Value}
    (h : values.elements? = some items) : AddsOnly classes s (.whereIn negated field values)
      [.compare field (if negated then "NOT IN" else "IN") (.list items) Junction.and.word] := fun run i => by
  rw [call, itemsOf, h]
  rfl

theorem addsOnly_whereNull (negated : Bool) (field : String) : AddsOnly classes s (.whereNull negated field)
    [.compare field (if negated then "IS NOT" else "IS") (.text "NULL") Junction.and.word] := fun _ _ => rfl

theorem AddsOnly.chain {m : Model} (h : AddsOnly classes m.schema c cs) :
    m.chain classes [c] = ({ m with intent := m.intent.addConditions cs }, .ok ()) := by
  rw [chain_singleton, h]
  rfl

theorem AddsOnly.called {m : Model} (h : AddsOnly classes m.schema c cs) :
    m.called classes [c] = { m with intent := m.intent.addConditions cs } :=
  congrArg Prod.fst h.chain

end Chain

open Chain

theorem Model.called_append (classes : Catalogue) (m : Model) (before after : List ChainCall) :
    m.called classes (before ++ after) = (m.called classes before).called classes after :=
  List.foldl_append

/-- The entries of a dictionary, one by one, add what the dictionary adds. -/
theorem Model.called_entries (classes : Catalogue) (j : Junction) : ∀ (entries : List (Value × Value)) (m : Model),
    m.called classes (entries.map fun (k, v) => .whereArgs j [k, v]) =
      { m with intent := m.intent.addConditions (entries.map fun (k, v) => .compare k.shown "=" v j.word) }
  | [], m => by
    rw [List.map_nil, List.map_nil, Intent.addConditions, List.append_nil]
    rfl
  | (k, v) :: rest, m => by
    rw [List.map_cons, ← List.singleton_append, called_append, (addsOnly_pair j k v).called,
      called_entries classes j rest, List.map_cons]
    simp [Intent.addConditions]

namespace Interchangeable

variable {p q : List ChainCall}

/-- None of the calls fails. -/
theorem exists_addsOnly (h : Interchangeable p q) (classes : Catalogue) (s : Schema) :
    ∀ c ∈ p ++ q, ∃ cs, AddsOnly classes s c cs := by
  cases h with
  | entries j entries =>
    refine List.forall_mem_cons.2 ⟨⟨_, addsOnly_entries j entries⟩, fun c hc => ?_⟩
    obtain ⟨⟨k, v⟩, -, rfl⟩ := List.mem_map.1 hc
    exact ⟨_, addsOnly_pair j k v⟩
  | equals j field v =>
    exact List.forall_mem_cons.2 ⟨⟨_, addsOnly_pair j field v⟩,
      List.forall_mem_singleton.2 ⟨_, addsOnly_operator j field v rfl⟩⟩
  | among negated field hitems hspells =>
    exact List.forall_mem_cons.2 ⟨⟨_, addsOnly_whereIn negated field hitems⟩,
      List.forall_mem_singleton.2 ⟨_, addsOnly_operator _ _ _ rfl⟩⟩
  | isNull negated field hspells =>
    exact List.forall_mem_cons.2 ⟨⟨_, addsOnly_whereNull negated field⟩,
      List.forall_mem_singleton.2 ⟨_, addsOnly_operator _ _ _ rfl⟩⟩

/-- They leave intents that are alike. -/
theorem exists_alike (h : Interchangeable p q) (classes : Catalogue) (m : Model) :
    ∃ i i', m.called classes p = { m with intent := i } ∧ m.called classes q = { m with intent := i' } ∧
      i.Alike m.schema.tableName i' := by
  cases h with
  | entries j entries =>
    exact ⟨_, _, (addsOnly_entries j entries).called, Model.called_entries classes j entries m, .refl _⟩
  | equals j field v =>
    have hequals : operatorOf (.text "=") = "=" := by decide
    exact ⟨_, _, (addsOnly_pair j field v).called, (addsOnly_operator j field v hequals).called, .refl _⟩
  | among negated field hitems hspells =>
    exact ⟨_, _, (addsOnly_whereIn negated field hitems).called,
      (addsOnly_operator _ _ _ (operatorOf_among hspells)).called,
      (Intent.Alike.refl m.intent).addConditions (.cons (alike_items _ field _ hitems) .nil)⟩
  | isNull negated field hspells =>
    exact ⟨_, _, (addsOnly_whereNull negated field).called,
      (addsOnly_operator _ _ _ (operatorOf_isNull hspells)).called, .refl _⟩

end Interchangeable

/-- A model, a chain before and a chain after, and calls between them in place of which others may stand; none of these
fails. The statement is the same with the one and with the other, and so is how any further call ends, and what any
terminal gives back and does. A dictionary of alternatives puts one condition for each entry between those of the
chains, joined by `OR`. -/
theorem interchangeable_everywhere {p q : List ChainCall} (h : Interchangeable p q) (classes : Catalogue) (m : Model)
    (before after : List ChainCall) :
    let x := m.called classes (before ++ p ++ after)
    let y := m.called classes (before ++ q ++ after)
    (∀ c ∈ p ++ q, ∀ k : Model, (k.chain classes [c]).2 = .ok ()) ∧
      x.statement = y.statement ∧ (∀ c, (x.chain classes [c]).2 = (y.chain classes [c]).2) ∧
      (∀ env t sys, x.finish env t sys = y.finish env t sys) ∧
      ∀ entries, (m.called classes (before ++ [.whereArgs .or [.dict entries]] ++ after)).intent.conditions =
        (m.called classes before).intent.conditions ++ (entries.map fun (k, v) => .compare k.shown "=" v "OR") ++
          after.flatMap (added classes m.schema) := by
  intro x y
  let b := m.called classes before
  obtain ⟨i, i', hp, hq, halike⟩ := h.exists_alike classes b
  have hx : x = Model.called classes ⟨b.schema, i⟩ after := by
    rw [show x = m.called classes (before ++ p ++ after) from rfl, Model.called_append, Model.called_append, hp]
  have hy : y = Model.called classes ⟨b.schema, i'⟩ after := by
    rw [show y = m.called classes (before ++ q ++ after) from rfl, Model.called_append, Model.called_append, hq]
  have hschema : x.schema = b.schema ∧ y.schema = b.schema := by
    rw [hx, hy]
    exact ⟨Model.schema_of_called classes after _, Model.schema_of_called classes after _⟩
  have hintents : x.intent.Alike b.schema.tableName y.intent := by
    rw [hx, hy]
    exact Model.alike_called classes b.schema after i i' halike
  refine ⟨fun c hc k => ?_, ?_, fun c => ?_, fun env t sys => ?_, fun entries => ?_⟩
  · obtain ⟨cs, hcs⟩ := h.exists_addsOnly classes k.schema c hc
    rw [hcs.chain]
  · rw [Model.statement, Model.statement, hschema.1, hschema.2]
    exact hintents.compile
  · rw [Model.chain, Model.chain, hschema.1, hschema.2]
    exact (alike_runCalls maxDepth [c] _ _ hintents).2
  · rw [Model.finish_eq, Model.finish_eq, hschema.1, hschema.2, Terminal.perform_alike hintents t]
  · rw [Model.called_append, Model.called_append, (addsOnly_entries .or entries).called, conditions_called,
      Model.schema_of_called]
    rfl

/-- Some users left out in two ways, between alternatives and a range. -/
theorem left_out_either_way :
    let users : Model := ⟨{ Schema.root with name := "User", table := some "users" }, .empty⟩
    let ids : Value := .list [.int 1, .int 2]
    let alternatives : ChainCall := .whereArgs .or [.dict [(.text "age", .int 3), (.text "city", .text "Rome")]]
    let x := users.called .start [alternatives, .whereIn true "id" ids, .limit (.int 5) .null]
    let y := users.called .start
      [alternatives, .whereArgs .and [.text "id", .text " Not iN\t", ids], .limit (.int 5) .null]
    x.statement = y.statement ∧ x.statement.map Layout.sql =
      .ok "SELECT users.* FROM users WHERE users.age = ? OR users.city = ? AND users.id NOT IN (?) LIMIT ?" := by
  intro users ids alternatives x y
  have hspells : Spells "NOT IN" " Not iN\t" := ⟨[' '], "Not iN".toList, ['\t'], rfl, by simp [Text.isBlank], rfl⟩
  have h : Interchangeable [.whereIn true "id" ids] [.whereArgs .and [.text "id", .text " Not iN\t", ids]] :=
    .among true "id" rfl hspells
  exact ⟨(interchangeable_everywhere h .start users [alternatives] [.limit (.int 5) .null]).2.1, rfl⟩

end RecordMapper
