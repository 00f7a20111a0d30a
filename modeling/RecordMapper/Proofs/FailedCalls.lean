import Mathlib.Data.List.DropRight
import RecordMapper.Proofs.Chains
import RecordMapper.Proofs.IntegerTexts
import RecordMapper.Proofs.ParentCasts

/-!
Calls of chains that fail. A call makes its one change at the end, so that one that fails leaves the intent as it was;
but relations that are declared by name are declared one after another. Main statement: a declaration that fails leaves
what the names before the failed one have declared, and what this one has done by itself; any other call that fails
leaves nothing.
-/
namespace RecordMapper

/-- Whether a call makes the calls of a relation or of a method. -/
def ChainCall.declares : ChainCall → Bool
  | withRelations _ | relation _ => true
  | _ => false

/-! ### Names -/

namespace Text

/-- What has been trimmed is kept by trimming. -/
theorem trimWhile_trimWhile (p : Char → Bool) (s : List Char) : trimWhile p (trimWhile p s) = trimWhile p s := by
  have hfirst : (trimWhile p s).dropWhile p = trimWhile p s := by
    rw [trimWhile, dropRightWhile, ← List.rdropWhile]
    have hdropped : (s.dropWhile p).dropWhile p = s.dropWhile p := List.dropWhile_idempotent p s
    obtain ⟨rest, hrest⟩ := List.rdropWhile_prefix p (s.dropWhile p)
    cases hkept : (s.dropWhile p).rdropWhile p with
    | nil => rfl
    | cons c kept =>
      rw [hkept, List.cons_append] at hrest
      rw [← hrest] at hdropped
      cases hc : p c with
      | false => exact List.dropWhile_cons_of_neg (by rw [hc]; exact Bool.false_ne_true)
      | true =>
        have hlength := congrArg List.length hdropped
        rw [List.dropWhile_cons_of_pos hc, List.length_cons] at hlength
        have := (List.dropWhile_sublist (l := kept ++ rest) p).length_le
        omega
  rw [trimWhile, hfirst]
  exact List.rdropWhile_idempotent p _

theorem trim_trim (s : String) : trim (trim s) = trim s := by
  rw [trim, trim, String.toList_ofList, trimWhile_trimWhile]

end Text

namespace Chain

/-- Names as one list of texts. -/
def listed (names : List String) : List Value := [.list (names.map .text)]

/-- What is read as a name is a text that is read so. -/
theorem name?_of_name? {v : Value} {name : String} (h : name? v = .ok (some name)) :
    name? (.text name) = .ok (some name) := by
  have htext {text : String} (h : name? (.text text) = .ok (some name)) : name? (.text name) = .ok (some name) := by
    rw [name?, Except.ok.injEq] at h ⊢
    obtain ⟨htrim, hempty⟩ := Option.filter_eq_some_iff.1 h
    have hname : Text.trim name = name := by rw [← Option.some.inj htrim, Text.trim_trim]
    rw [hname, Option.filter_eq_some_iff]
    exact ⟨rfl, hempty⟩
  cases v with
  | text text => exact htext h
  | _ =>
    simp only [name?] at h
    split at h <;> cases h

theorem name?_of_mem_names {fields : List Value} {given : List String} {name : String}
    (hgiven : names fields = .ok given) (h : name ∈ given) : name? (.text name) = .ok (some name) := by
  rw [names] at hgiven
  obtain ⟨found, hfound, hgiven⟩ := bind_eq_ok.1 hgiven
  cases hgiven
  rw [List.mem_filterMap] at h
  obtain ⟨_, hmem, rfl⟩ := h
  obtain ⟨k, hk, hname⟩ := List.mem_iff_getElem.1 hmem
  have hall := mapM_eq_ok.1 hfound
  have hread := hall.get (hall.length_eq ▸ hk) hk
  rw [List.get_eq_getElem, List.get_eq_getElem, hname] at hread
  exact name?_of_name? hread

/-- Parts of which each is read as a name. -/
theorem names_of_forall₂ {fields : List Value} {given : List String}
    (h : List.Forall₂ (fun v name => name? v = .ok (some name)) (nameParts fields) given) :
    names fields = .ok given := by
  have hfound : (nameParts fields).mapM name? = .ok (given.map some) :=
    mapM_eq_ok.2 (List.forall₂_map_right_iff.2 h)
  rw [names, hfound]
  exact congrArg Except.ok (by simp)

theorem names_listed {given : List String} (h : ∀ name ∈ given, name? (.text name) = .ok (some name)) :
    names (listed given) = .ok given :=
  names_of_forall₂ (List.forall₂_map_left_iff.2 (List.forall₂_same.2 h))

/-! ### Where a call fails -/

section
variable {classes : Catalogue} {s : Schema} {run : Intent → List ChainCall → Step} {k : Intent} {e : Failure}

theorem eq_of_orElse_failed {α : Type} {i : Intent} {r : Except Failure α} {f : α → Intent}
    (h : orElse i r f = (k, .error e)) : k = i := by
  cases r with
  | error d =>
    cases h
    rfl
  | ok a => cases h

/-- Names whose declaration fails: the first ones are declared, and the next is unknown or its calls fail. -/
theorem declare_failed : ∀ (names : List String) (i : Intent), declare s run i names = (k, .error e) →
    ∃ done name rest j, names = done ++ name :: rest ∧ declare s run i done = (j, .ok ()) ∧
      match s.relations.lookup name with
      | none => e = misuse s ("relation '" ++ name ++ "' does not exist") ∧ k = j
      | some calls => run j calls = (k, .error e)
  | [], _, h => by cases h
  | name :: rest, i, h => by
    rw [declare] at h
    cases hcalls : s.relations.lookup name with
    | none =>
      rw [hcalls] at h
      obtain ⟨hk, he⟩ := Prod.mk.inj h
      refine ⟨[], name, rest, i, rfl, rfl, ?_⟩
      rw [hcalls]
      exact ⟨(Except.error.inj he).symm, hk.symm⟩
    | some calls =>
      rw [hcalls] at h
      dsimp only at h
      split at h
      · rename_i j _ hj
        obtain ⟨done, failed, behind, j', rfl, hdone, hfailed⟩ := declare_failed rest j h
        refine ⟨name :: done, failed, behind, j', rfl, ?_, hfailed⟩
        rw [declare, hcalls]
        dsimp only
        rw [hj]
        exact hdone
      · refine ⟨[], name, rest, i, rfl, rfl, ?_⟩
        rw [hcalls]
        exact h

/-- A call that declares no relation by its name, and fails, leaves the intent as it was. -/
theorem eq_of_call_failed {c : ChainCall} {i : Intent} (hdeclares : c.declares = false)
    (h : call classes s run i c = (k, .error e)) : k = i := by
  cases c with
  | selectMore | join | whereRaw | whereNull | withTrashed | orderBy | limit => cases h
  | select | groupBy | whereArgs | whereIn | relate => exact eq_of_orElse_failed h
  | withRelations | relation => cases hdeclares

/-- A chain of one call is the call. -/
theorem chain_singleton (classes : Catalogue) (m : Model) (c : ChainCall) :
    m.chain classes [c] =
      let step := call classes m.schema (runCalls classes m.schema (maxDepth - 1)) m.intent c
      ({ m with intent := step.1 }, step.2) := by
  have hruns : runCalls classes m.schema maxDepth m.intent [c] =
      call classes m.schema (runCalls classes m.schema (maxDepth - 1)) m.intent c := by
    rw [show maxDepth = maxDepth - 1 + 1 from rfl, runCalls, callAll]
    split
    · rename_i h
      exact h.symm
    · rfl
  rw [Model.chain, hruns]

end

end Chain

open Chain in
/-- A call of a chain that fails, on any model and whatever its chain has come to. If it declares relations by their
names, and what it is given can be read as names, the names before the one at which it fails have been declared as they
are by themselves; that one is unknown, or the calls that it stands for fail there, and what they have done is left. A
call of a method leaves what the calls of the method have done. Every other call leaves the model as it was. -/
theorem failed_call_leaves (classes : Catalogue) (m : Model) (c : ChainCall) {e : Failure}
    (h : (m.chain classes [c]).2 = .error e) :
    let after := (m.chain classes [c]).1
    match c with
    | .withRelations fields =>
      match names fields with
      | .error problem => e = problem ∧ after = m
      | .ok given =>
        ∃ done name rest j, given = done ++ name :: rest ∧
          m.chain classes [.withRelations (listed done)] = (j, .ok ()) ∧
          match m.schema.relations.lookup name with
          | none => e = misuse m.schema ("relation '" ++ name ++ "' does not exist") ∧ after = j
          | some calls => runCalls classes m.schema (maxDepth - 1) j.intent calls = (after.intent, .error e)
    | .relation method =>
      match m.schema.methods.lookup method with
      | none => e = noSuchMethod method ∧ after = m
      | some calls => runCalls classes m.schema (maxDepth - 1) m.intent calls = (after.intent, .error e)
    | _ => after = m := by
  intro after
  have hstep : call classes m.schema (runCalls classes m.schema (maxDepth - 1)) m.intent c =
      (after.intent, .error e) := by
    have hintent := congrArg (fun r => r.1.intent) (chain_singleton classes m c)
    rw [chain_singleton] at h
    exact Prod.ext hintent.symm h
  have hafter {j : Intent} (hj : after.intent = j) : after = ⟨m.schema, j⟩ := by
    rw [← hj]
    rfl
  have hsame (hdeclares : c.declares = false) : after = m := hafter (eq_of_call_failed hdeclares hstep)
  cases c with
  | withRelations fields =>
    rw [call] at hstep
    dsimp only
    cases hgiven : names fields with
    | error problem =>
      rw [hgiven] at hstep
      obtain ⟨hintent, herror⟩ := Prod.mk.inj hstep
      exact ⟨(Except.error.inj herror).symm, hafter hintent.symm⟩
    | ok given =>
      rw [hgiven] at hstep
      obtain ⟨done, name, rest, j, hnames, hdone, hfailed⟩ := declare_failed _ _ hstep
      have hlisted : names (listed done) = .ok done := names_listed fun d hd =>
        name?_of_mem_names hgiven (hnames ▸ List.mem_append_left _ hd)
      refine ⟨done, name, rest, ⟨m.schema, j⟩, hnames, ?_, ?_⟩
      · rw [chain_singleton, call, hlisted]
        dsimp only
        rw [hdone]
      · cases hcalls : m.schema.relations.lookup name with
        | none =>
          rw [hcalls] at hfailed
          exact ⟨hfailed.1, hafter hfailed.2⟩
        | some calls =>
          rw [hcalls] at hfailed
          exact hfailed
  | relation method =>
    rw [call] at hstep
    dsimp only
    cases hcalls : m.schema.methods.lookup method with
    | none =>
      rw [hcalls] at hstep
      obtain ⟨hintent, herror⟩ := Prod.mk.inj hstep
      exact ⟨(Except.error.inj herror).symm, hafter hintent.symm⟩
    | some calls =>
      rw [hcalls] at hstep
      exact hstep
  | _ => exact hsame rfl

/-- Users with a relation to their posts, behind a condition. -/
def declaringUsers : Model :=
  Model.called [Hydration.postClass]
    ⟨{ userSchema with relations := [("posts", [.relate .hasMany "Post" "user_id" "id" none none])] }, .empty⟩
    [.whereArgs .and [.text "age", .int 40]]

/-- Posts are declared where a name behind them is unknown, as they are by themselves; and a condition without a value
changes nothing. -/
theorem declaringUsers_after_failure :
    let fields := [Value.text "posts", .text "nope"]
    let declared := declaringUsers.chain [Hydration.postClass] [.withRelations fields]
    let limited := declaringUsers.chain [Hydration.postClass] [.whereArgs .and [.text "age"]]
    (∃ e, declared.2 = .error e) ∧ (∃ e, limited.2 = .error e) ∧
      declaringUsers.chain [Hydration.postClass] [.withRelations [.list [.text "posts"]]] = (declared.1, .ok ()) ∧
      limited.1 = declaringUsers := by
  intro fields declared limited
  have hdeclared : ∃ e, declared.2 = .error e := ⟨_, rfl⟩
  have hlimited : ∃ e, limited.2 = .error e := ⟨_, rfl⟩
  refine ⟨hdeclared, hlimited, ?_, ?_⟩
  · obtain ⟨e, he⟩ := hdeclared
    obtain ⟨done, name, rest, j, hnames, hdone, hfailed⟩ := failed_call_leaves [Hydration.postClass] declaringUsers _ he
    replace hnames : ["posts", "nope"] = done ++ name :: rest := hnames
    cases done with
    | nil =>
      -- the posts are declared without a failure
      rw [List.nil_append, List.cons.injEq] at hnames
      obtain ⟨rfl, -⟩ := hnames
      have hdeclares : (Chain.runCalls [Hydration.postClass] declaringUsers.schema (Chain.maxDepth - 1) j.intent
        [.relate .hasMany "Post" "user_id" "id" none none]).2 = .ok () := rfl
      exact absurd (hdeclares.symm.trans (congrArg Prod.snd hfailed)) nofun
    | cons first done =>
      rw [List.cons_append, List.cons.injEq] at hnames
      obtain ⟨rfl, hnames⟩ := hnames
      cases done with
      | nil =>
        rw [List.nil_append, List.cons.injEq] at hnames
        obtain ⟨rfl, -⟩ := hnames
        rw [show declared.1 = j from hfailed.2]
        exact hdone
      | cons second done =>
        rw [List.cons_append, List.cons.injEq] at hnames
        exact absurd hnames.2.symm (by simp)
  · obtain ⟨e, he⟩ := hlimited
    exact failed_call_leaves [Hydration.postClass] declaringUsers _ he

/-- Where a name behind the posts is unknown, the fault of that leaves an intent that it has not found. -/
theorem posts_left_by_fault :
    let declared := declaringUsers.chain [Hydration.postClass] [.withRelations [.text "posts", .text "nope"]]
    declared.2 = .error (Chain.misuse declaringUsers.schema "relation 'nope' does not exist") ∧
      declaringUsers.intent.relations.map Relation.identifier = [] ∧
      declared.1.intent.relations.map Relation.identifier = ["posts"] ∧
      declared.1.intent ≠ declaringUsers.intent := by
  intro declared
  have hbefore : declaringUsers.intent.relations.map Relation.identifier = [] := rfl
  have hafter : declared.1.intent.relations.map Relation.identifier = ["posts"] := rfl
  refine ⟨rfl, hbefore, hafter, fun h => ?_⟩
  rw [h, hbefore] at hafter
  cases hafter

end RecordMapper
