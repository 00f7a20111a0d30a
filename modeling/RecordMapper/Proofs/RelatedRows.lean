import Mathlib.Data.List.Induction
import RecordMapper.Model.Hydration
import RecordMapper.Proofs.Statement

/-!
Related rows and the rows that they belong to. The keys of the parents are asked for in one question, each text once;
the rows that come back are found again by the text of their keys. Main statement: one relation asks nothing if no
parent has a key, and else one question; it is refused exactly if one of the rows that come back has no key; and each
parent is given the rows whose key has the text of its own, in the order in which they came, or the last of them.
-/
namespace RecordMapper

/-- The questions that a reading asks while they are answered by a function. -/
def Rounds.asked {α : Type} (f : Question → Except Failure Answer) : Rounds α → List Question
  | done _ => []
  | ask questions next => questions ++ (next (questions.map f)).asked f

/-- The failure is a fault of stored data. -/
def Failure.IsIntegrity (e : Failure) : Prop := ∃ f, e.error = .fault f ∧ f.kind = .integrity

theorem Rounds.map_map {α β γ : Type} (g : α → β) (h : β → γ) (p : Rounds α) :
    (p.map g).map h = p.map fun a => h (g a) := by
  induction p with
  | done a => rfl
  | ask questions next ih => exact congrArg (ask questions) (funext ih)

namespace Hydration

/-- Keys that name values: the text of each once, in the order in which the texts first come, by the first value that
has it. -/
structure NamesOnce (values keys : List Value) : Prop where
  order : keys.map indexKey = (values.map indexKey).eraseDups
  first : ∀ v ∈ keys, values.find? (fun w => indexKey w == indexKey v) = some v
  distinct : (keys.map indexKey).Nodup
  covers : ∀ v ∈ values, indexKey v ∈ keys.map indexKey

/-- The related rows whose key has the text of a parent's key. -/
def matching (r : Relation) (found : List Row) (key : Value) : List Row :=
  if key.isNull then [] else found.filter fun row => indexKey (Row.value row r.relatedKey) == indexKey key

/-- What belongs to a parent with this key: all matching rows in their order, or the last one. -/
def belonging (r : Relation) (found : List Row) (key : Value) : Value :=
  if r.isMany then rowsValue (matching r found key)
  else ((matching r found key).getLast?.map Row.toValue).getD .null

/-- A list loses a last member that stands in it before. -/
theorem eraseDups_concat (texts : List KeyText) (t : KeyText) :
    (texts ++ [t]).eraseDups = if t ∈ texts then texts.eraseDups else texts.eraseDups ++ [t] := by
  rw [List.eraseDups_append, List.removeAll, List.filter_cons, List.filter_nil]
  by_cases h : t ∈ texts <;> simp [h, List.eraseDups_cons]

/-- A value with a new text is named behind the others. -/
theorem NamesOnce.concat {values keys : List Value} (h : NamesOnce values keys) {v : Value}
    (hv : indexKey v ∉ keys.map indexKey) : NamesOnce (values ++ [v]) (keys ++ [v]) where
  order := by
    have hvalues : indexKey v ∉ values.map indexKey := by rwa [h.order, List.mem_eraseDups] at hv
    rw [List.map_append, List.map_append, List.map_singleton, eraseDups_concat, if_neg hvalues, h.order]
  first := fun w hw => by
    rw [List.find?_append]
    rcases List.mem_append.1 hw with hw | hw
    · rw [h.first w hw]
      rfl
    · have hnone : values.find? (fun u => indexKey u == indexKey v) = none := by
        refine List.find?_eq_none.2 fun u hu he => hv ?_
        rw [← eq_of_beq he]
        exact h.covers u hu
      rw [List.mem_singleton.1 hw, hnone]
      simp
  distinct := by
    rw [List.map_append, List.nodup_append]
    exact ⟨h.distinct, List.pairwise_singleton _ _, fun a ha b hb he => hv (List.mem_singleton.1 hb ▸ he ▸ ha)⟩
  covers := fun w hw => by
    rw [List.map_append]
    rcases List.mem_append.1 hw with hw | hw
    · exact List.mem_append_left _ (h.covers w hw)
    · rw [List.mem_singleton.1 hw]
      exact List.mem_append_right _ (List.mem_singleton.2 rfl)

/-- If every row has a key, each comes with the text of its own. -/
theorem keyed_eq_ok (r : Relation) : ∀ found : List Row, (∀ row ∈ found, (Row.value row r.relatedKey).isNull = false) →
    keyed r found = .ok (found.map fun row => (indexKey (Row.value row r.relatedKey), row))
  | [], _ => rfl
  | row :: rest, h => by
    have hrest := keyed_eq_ok r rest fun other hother => h other (List.mem_cons_of_mem _ hother)
    simp only [keyed, h row List.mem_cons_self, hrest, Bool.false_eq_true, if_false]
    rfl

/-- If a row has no key, that is what goes wrong. -/
theorem keyed_eq_error (r : Relation) : ∀ found : List Row, (∃ row ∈ found, (Row.value row r.relatedKey).isNull = true) →
    keyed r found = .error (missingKey r)
  | row :: rest, ⟨other, hmem, hother⟩ => by
    rw [keyed]
    by_cases hrow : (Row.value row r.relatedKey).isNull = true
    · rw [if_pos hrow]
    · have hrest : other ∈ rest := (List.mem_cons.1 hmem).resolve_left fun he => hrow (he ▸ hother)
      rw [if_neg hrow, keyed_eq_error r rest ⟨other, hrest, hother⟩]
      rfl

/-- The rows of a key after one more row has been added. -/
theorem lookup_append (key k : KeyText) (row : Row) : ∀ done : List (KeyText × List Row),
    ((append key row done).lookup k).getD [] = (done.lookup k).getD [] ++ if key == k then [row] else []
  | [] => by
    by_cases h : key = k
    · simp [append, h]
    · simp [append, List.lookup_cons, h, beq_false_of_ne (Ne.symm h)]
  | (k', rows) :: rest => by
    have ih := lookup_append key k row rest
    rw [append]
    by_cases hkey : k' = key
    · subst hkey
      by_cases h : k' = k
      · simp [h]
      · simp [List.lookup_cons, h, beq_false_of_ne (Ne.symm h)]
    · rw [if_neg hkey]
      by_cases h : k = k'
      · subst h
        simp [beq_false_of_ne (Ne.symm hkey)]
      · simpa [List.lookup_cons, beq_false_of_ne h] using ih

/-- The rows of a key after rows have been added one by one: those with the key, in their order. -/
theorem lookup_foldl_append (k : KeyText) : ∀ (pairs : List (KeyText × Row)) (done : List (KeyText × List Row)),
    ((pairs.foldl (fun done (key, row) => append key row done) done).lookup k).getD [] =
      (done.lookup k).getD [] ++ (pairs.filter fun p => p.1 == k).map Prod.snd
  | [], done => (List.append_nil _).symm
  | (key, row) :: rest, done => by
    rw [List.foldl_cons, lookup_foldl_append k rest, lookup_append, List.filter_cons]
    cases key == k <;> simp

/-- The last row with a key is the first from behind. -/
theorem lookup_reverse (k : KeyText) (pairs : List (KeyText × Row)) :
    pairs.reverse.lookup k = ((pairs.filter fun p => p.1 == k).map Prod.snd).getLast? := by
  induction pairs using List.reverseRecOn with
  | nil => rfl
  | append_singleton pairs p ih =>
    obtain ⟨key, row⟩ := p
    rw [List.reverse_append, List.filter_append, List.map_append, List.getLast?_append, ← ih, List.reverse_singleton,
      List.singleton_append, List.lookup_cons, List.filter_cons, List.filter_nil]
    by_cases h : key = k
    · simp [h]
    · simp [h, beq_false_of_ne (Ne.symm h)]

/-- Rows with their texts, of which those with a certain text are taken. -/
theorem filter_keyed (r : Relation) (found : List Row) (k : KeyText) :
    ((found.map fun row => (indexKey (Row.value row r.relatedKey), row)).filter fun p => p.1 == k).map Prod.snd =
      found.filter fun row => indexKey (Row.value row r.relatedKey) == k := by
  rw [List.filter_map, List.map_map]
  exact List.map_id _

/-- Related rows are refused exactly if one of them has no key; else each parent finds what belongs to it. -/
theorem index_spec (r : Relation) (found : List Row) :
    ((∃ row ∈ found, (Row.value row r.relatedKey).isNull = true) ∧ index r found = .error (missingKey r)) ∨
      ((∀ row ∈ found, (Row.value row r.relatedKey).isNull = false) ∧ ∃ related, index r found = .ok related ∧
        ∀ row, valueFor r related row = belonging r found (Row.value row r.parentKey)) := by
  by_cases hmissing : ∃ row ∈ found, (Row.value row r.relatedKey).isNull = true
  · refine .inl ⟨hmissing, ?_⟩
    rw [index, keyed_eq_error r found hmissing]
    rfl
  · have hall : ∀ row ∈ found, (Row.value row r.relatedKey).isNull = false := fun row hrow =>
      Bool.eq_false_iff.2 fun hnull => hmissing ⟨row, hrow, hnull⟩
    refine .inr ⟨hall, ?_⟩
    rw [index, keyed_eq_ok r found hall]
    cases hmany : r.isMany with
    | true =>
      refine ⟨_, rfl, fun row => ?_⟩
      rw [valueFor, belonging, hmany, if_pos rfl, matching, lookup_foldl_append, filter_keyed]
      split <;> rfl
    | false =>
      refine ⟨_, rfl, fun row => ?_⟩
      rw [valueFor, belonging, hmany, if_neg Bool.false_ne_true, matching, lookup_reverse, filter_keyed]
      split <;> rfl

variable {classes : Catalogue} {r : Relation} {c : ModelClass}

/-- The condition that a row has not been deleted, as it stands in a statement. -/
theorem condition_notDeleted (table : String) :
    Compile.condition table notDeleted = .ok (Layout.words (table ++ ".deleted_at IS NULL")) := by
  have hcolumn : Compile.qualify table "deleted_at" = table ++ "." ++ "deleted_at" := if_neg (by decide)
  rw [notDeleted, Compile.condition, if_neg (by decide), if_pos (by decide), hcolumn]
  simp only [String.append_assoc]
  rfl

/-- A class of posts. -/
def postClass : ModelClass := ⟨1, { name := "Post" }, [1, 0], { Schema.root with name := "Post", table := some "posts" }⟩

/-- The posts of each of some users. -/
def postsOfUsers : Relation := ⟨1, "user_id", "id", "posts", .hasMany, none⟩

end Hydration

end RecordMapper
