/-!
Activities: computations on a shared state that say where others may go on. An activity runs until it pauses or waits
for a lock. `Activity.run` runs one alone; what several do together is told by `Activity.runTogether`.
-/
namespace RecordMapper

/-- What one activity keeps the others out of. -/
inductive Lock where
  | client
  | adapter
  deriving Repr, DecidableEq, Inhabited

/-- A computation of an `α` on a state `σ`: it looks at the state, sets it, pauses, takes and gives back locks. -/
inductive Activity (σ : Type) (α : Type) where
  | done (a : α)
  | look (next : σ → Activity σ α)
  | put (s : σ) (next : Activity σ α)
  | pause (next : Activity σ α)
  | acquire (l : Lock) (next : Activity σ α)
  | release (l : Lock) (next : Activity σ α)

namespace Activity

variable {σ α β γ : Type}

instance [Inhabited α] : Inhabited (Activity σ α) := ⟨done default⟩

/-- One activity after the other. -/
def andThen : Activity σ α → (α → Activity σ β) → Activity σ β
  | done a, f => f a
  | look next, f => look fun s => (next s).andThen f
  | put s next, f => put s (next.andThen f)
  | pause next, f => pause (next.andThen f)
  | acquire l next, f => acquire l (next.andThen f)
  | release l next, f => release l (next.andThen f)

instance : Monad (Activity σ) where
  pure := done
  bind := andThen

theorem andThen_done (x : Activity σ α) : x.andThen done = x := by
  induction x <;> simp_all [andThen]

theorem andThen_assoc (x : Activity σ α) (f : α → Activity σ β) (g : β → Activity σ γ) :
    (x.andThen f).andThen g = x.andThen fun a => (f a).andThen g := by
  induction x <;> simp_all [andThen]

instance : LawfulMonad (Activity σ) :=
  .mk' _ andThen_done (fun _ _ => rfl) andThen_assoc

instance : MonadStateOf σ (Activity σ) where
  get := look done
  set s := put s (done ())
  modifyGet f := look fun s => put (f s).2 (done (f s).1)

/-- Lets others go on. -/
def yield : Activity σ Unit := pause (done ())

/-- Does something while no other activity has the lock. -/
def locked (l : Lock) (x : Activity σ α) : Activity σ α :=
  acquire l (x.andThen fun a => release l (done a))

/-- Result and state of an activity that runs alone: it is never kept waiting. -/
def run : Activity σ α → σ → α × σ
  | done a, s => (a, s)
  | look next, s => (next s).run s
  | put s next, _ => next.run s
  | pause next, s => next.run s
  | acquire _ next, s => next.run s
  | release _ next, s => next.run s

@[simp] theorem run_andThen (x : Activity σ α) (f : α → Activity σ β) (s : σ) :
    (x.andThen f).run s = (f (x.run s).1).run (x.run s).2 := by
  induction x generalizing s with
  | done a => rfl
  | look next ih => exact ih s s
  | put t next ih => exact ih t
  | pause next ih => exact ih s
  | acquire l next ih => exact ih s
  | release l next ih => exact ih s

@[simp] theorem run_bind (x : Activity σ α) (f : α → Activity σ β) (s : σ) :
    (x >>= f).run s = (f (x.run s).1).run (x.run s).2 := run_andThen x f s

@[simp] theorem run_locked (l : Lock) (x : Activity σ α) (s : σ) : (locked l x).run s = x.run s := by
  simp [locked, run]

end Activity

end RecordMapper
