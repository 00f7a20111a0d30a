import RecordMapper.Client

/-!
Readings in rounds. A reading asks some questions at once, goes on with the answers, and in the end has a result.
Readings done together ask the questions of their first rounds one after another, then those of their second rounds,
and so on; each goes on with its own answers only, whatever the others ask.
-/
namespace RecordMapper

/-- A statement to be run, with its bindings. -/
structure Question where
  sql : String
  bindings : List Value
  deriving Inhabited

/-- A reading that has a result after some rounds of questions. -/
inductive Rounds (α : Type) where
  | done (a : α)
  | ask (questions : List Question) (next : List (Except Failure Answer) → Rounds α)

namespace Rounds

variable {α β : Type}

instance [Inhabited α] : Inhabited (Rounds α) := ⟨done default⟩

/-- A reading whose result is changed. -/
def map (f : α → β) : Rounds α → Rounds β
  | done a => done (f a)
  | ask questions next => ask questions fun answers => (next answers).map f

/-- Two readings together. -/
def both : Rounds α → Rounds β → Rounds (α × β)
  | done a, q => q.map fun b => (a, b)
  | ask s k, done b => ask s fun answers => (k answers).map fun a => (a, b)
  | ask s k, ask t l =>
    ask (s ++ t) fun answers => (k (answers.take s.length)).both (l (answers.drop s.length))

/-- Any number of readings together. -/
def together : List (Rounds α) → Rounds (List α)
  | [] => done []
  | p :: rest => (p.both (together rest)).map fun (a, as) => a :: as

/-- The result of a reading whose questions are answered by a function. -/
def answer (f : Question → Except Failure Answer) : Rounds α → α
  | done a => a
  | ask questions next => (next (questions.map f)).answer f

/-- The answers to questions, one after another; a failure is an answer too. -/
def askAll : List Question → Operation (List (Except Failure Answer))
  | [] => pure []
  | q :: rest => do
    let first ← Operation.outcome (Client.execute q.sql q.bindings)
    return first :: (← askAll rest)

/-- The result of a reading whose questions a client answers. -/
def perform : Rounds α → Operation α
  | done a => pure a
  | ask questions next => do
    let answers ← askAll questions
    (next answers).perform

@[simp] theorem answer_map (f : Question → Except Failure Answer) (g : α → β) (p : Rounds α) :
    (p.map g).answer f = g (p.answer f) := by
  induction p with
  | done a => rfl
  | ask questions next ih => exact ih _

/-- Readings together have the results that they have alone, if equal questions have equal answers. -/
@[simp] theorem answer_both (f : Question → Except Failure Answer) (p : Rounds α) (q : Rounds β) :
    (p.both q).answer f = (p.answer f, q.answer f) := by
  induction p generalizing q with
  | done a => simp [both, answer]
  | ask s k ih =>
    cases q with
    | done b => simp [both, answer]
    | ask t l => simp [both, answer, ih]

@[simp] theorem answer_together (f : Question → Except Failure Answer) (ps : List (Rounds α)) :
    (together ps).answer f = ps.map (answer f) := by
  induction ps with
  | nil => rfl
  | cons p ps ih => simp [together, ih]

end Rounds

end RecordMapper
