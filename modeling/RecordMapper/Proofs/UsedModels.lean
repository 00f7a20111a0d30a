import RecordMapper.Proofs.Chains
import RecordMapper.Proofs.Scripts

/-!
Models that are used again and again. One model serves for one chain after another, and what a chain has come to is
given up when its terminal begins, however that ends. Main statement: after a terminal a model is as good as new. It
holds no trace of what was done with it, and from there on a chain and its terminal follow the script that they follow
on a new model; so they send the same wherever they are given the same.
-/
namespace RecordMapper

/-- What may be done with a model: a call of a chain, and the end of a chain, in whatever state the system is by then. -/
inductive Use where
  | call (classes : Catalogue) (c : ChainCall)
  | finish (env : Surroundings) (t : Terminal) (sys : System)

namespace Model

/-- A model after a use, whether it succeeded or failed. -/
def use (m : Model) : Use → Model
  | .call classes c => (m.chain classes [c]).1
  | .finish env t sys => (m.finish env t sys).1

/-- A model after one use after another. -/
def used (m : Model) (uses : List Use) : Model := uses.foldl use m

theorem schema_use (m : Model) (u : Use) : (m.use u).schema = m.schema := by
  cases u with
  | call classes c => rfl
  | finish env t sys => rw [use, finish_eq]

/-- A model stays of its class. -/
theorem schema_used : ∀ (uses : List Use) (m : Model), (m.used uses).schema = m.schema
  | [], _ => rfl
  | u :: rest, m => (schema_used rest (m.use u)).trans (schema_use m u)

/-- After a terminal a model is a new one of its class, whatever its intent was. -/
theorem finish_eq_new (m : Model) (env : Surroundings) (t : Terminal) (sys : System) :
    (m.finish env t sys).1 = ⟨m.schema, .empty⟩ := by
  rw [finish_eq]

end Model

/-- A model that has been used in any way and then by a terminal, which may have ended with a result or with a failure.
It holds the empty intent. Any further chain and terminal follow the same script on it as on a new model of its class.
In two systems that give this script the same answers and identifiers, it sends the same statements, and both ends come
to the same. -/
theorem like_new_after_terminal (s : Schema) (uses : List Use) (env : Surroundings) (t : Terminal) (sys : System) :
    let m := ((Model.used ⟨s, .empty⟩ uses).finish env t sys).1
    m.intent = .empty ∧
      ∀ (classes : Catalogue) (calls : List ChainCall) (env' : Surroundings) (t' : Terminal),
        let again := m.called classes calls
        let new := Model.called classes ⟨s, .empty⟩ calls
        let script := (t'.scripted env' s new.intent).script
        (∀ sys, (again.finish env' t' sys).2 = script.perform.perform sys) ∧
          (∀ sys, (new.finish env' t' sys).2 = script.perform.perform sys) ∧
          ∀ sys₁ sys₂, SameGiven (script.log sys₁) (script.log sys₂) →
            script.log sys₁ = script.log sys₂ ∧
              (again.finish env' t' sys₁).2.1 = (new.finish env' t' sys₂).2.1 := by
  intro m
  have hm : m = ⟨s, .empty⟩ := by
    rw [show m = ⟨(Model.used ⟨s, .empty⟩ uses).schema, .empty⟩ from Model.finish_eq_new _ env t sys, Model.schema_used]
  rw [hm]
  refine ⟨rfl, fun classes calls env' t' => ?_⟩
  intro again new script
  have hfollows (sys : System) : (new.finish env' t' sys).2 = script.perform.perform sys :=
    (Chain.finish_called classes s calls env' t' sys).trans ((t'.scripted env' s new.intent).performs sys)
  refine ⟨hfollows, hfollows, fun sys₁ sys₂ hgiven => ?_⟩
  obtain ⟨hlog, hended⟩ := script.log_eq_of_sameGiven hgiven
  refine ⟨hlog, ?_⟩
  rw [show again = new from rfl, hfollows, hfollows]
  exact hended

/-- Users after a chain that fails when its terminal begins: the page that it asks for is no number. -/
def failedUsers : Model × Except Failure Result × System :=
  (Model.used ⟨keepingUsers, .empty⟩ [.call .start (.whereArgs .and [.text "a", .int 1])]).finish ⟨.start, default⟩
    (.paginate (.text "x") .null) connectedPlain

/-- A system that has given more identifiers. -/
def laterPlain : System := { connectedPlain with issued := 7 }

theorem failedUsers_like_new :
    let calls := [ChainCall.whereArgs .and [.text "b", .int 2]]
    let again := failedUsers.1.called .start calls
    let new := Model.called .start ⟨keepingUsers, .empty⟩ calls
    (∃ e, failedUsers.2.1 = .error e) ∧ failedUsers.1.intent = .empty ∧
      (again.finish ⟨.start, default⟩ .get laterPlain).2.2.store.requests =
        [("SELECT users.* FROM users WHERE users.b = ? AND users.deleted_at IS NULL", some [.int 2])] ∧
      (again.finish ⟨.start, default⟩ .get laterPlain).2.1 = (new.finish ⟨.start, default⟩ .get connectedPlain).2.1 := by
  obtain ⟨hempty, hlike⟩ := like_new_after_terminal keepingUsers [.call .start (.whereArgs .and [.text "a", .int 1])]
    ⟨.start, default⟩ (.paginate (.text "x") .null) connectedPlain
  obtain ⟨-, -, hsame⟩ := hlike .start [.whereArgs .and [.text "b", .int 2]] ⟨.start, default⟩ .get
  have hlike := (hsame laterPlain connectedPlain (.of_eq rfl)).2
  unfold failedUsers
  exact ⟨⟨_, rfl⟩, hempty, rfl, hlike⟩

end RecordMapper
