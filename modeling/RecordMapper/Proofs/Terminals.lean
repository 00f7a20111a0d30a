import RecordMapper.Model.Terminal

/-!
What terminals do to the model that they are called on. `ModelOperation.Does` tells an operation on a model apart into
what it does with the system, which is an operation of its own, and the model that it leaves behind, however it ends.
Main statement: each of the twelve terminals takes the intent of its model away before any step of it that may fail. So
it leaves a model without intent, at whatever step it ends, and does with the system what the class and the intent that
it has taken say.
-/
namespace RecordMapper

namespace ModelOperation

variable {α β : Type} {m m' : Model}

/-- On the model `m`, `x` does with the system what `y` does, and it leaves the model `m'`, also if it fails. -/
def Does (m : Model) (x : ModelOperation α) (y : Operation α) (m' : Model) : Prop :=
  x.on m = (ExceptT.run y).andThen fun outcome => .done (outcome, m')

namespace Does

theorem pure (a : α) : Does m (Pure.pure a) (Pure.pure a) m := rfl

theorem lift (y : Operation α) : Does m (liftM y) y m := rfl

/-- The class is that of the model. -/
theorem schema {f : Schema → ModelOperation α} {y : Operation α} (h : Does m (f m.schema) y m') :
    Does m (ModelOperation.schema >>= f) y m' := h

/-- When the intent has been taken, what follows is done on a model without any. -/
theorem take {f : Intent → ModelOperation α} {y : Operation α} (h : Does ⟨m.schema, .empty⟩ (f m.intent) y m') :
    Does m (ModelOperation.take >>= f) y m' := h

/-- One after the other: if the first fails, the model is the one that it leaves, and so the second may leave no
other. -/
theorem bind {x : ModelOperation α} {y : Operation α} {f : α → ModelOperation β} {g : α → Operation β}
    (hx : Does m x y m) (hf : ∀ a, Does m (f a) (g a) m) : Does m (x >>= f) (y >>= g) m := by
  have hcont (r : Except Failure α) :
      (ExceptT.bindCont f r).run m = (ExceptT.bindCont g r).andThen fun outcome => .done (outcome, m) := by
    cases r with
    | ok a => exact hf a
    | error e => rfl
  calc (x >>= f).on m
      = (x.on m).andThen fun p => (ExceptT.bindCont f p.1).run p.2 := rfl
    _ = (ExceptT.run y).andThen fun r => (ExceptT.bindCont f r).run m := by rw [hx, Activity.andThen_assoc]; rfl
    _ = (ExceptT.run y).andThen fun r => (ExceptT.bindCont g r).andThen fun outcome => .done (outcome, m) := by
      simp only [hcont]
    _ = (ExceptT.run (y >>= g)).andThen fun outcome => .done (outcome, m) := (Activity.andThen_assoc ..).symm

/-- An operation on the system, and then the result that is made of what it gives. -/
theorem map (f : α → β) (y : Operation α) : Does m (do return f (← liftM y)) (do return f (← y)) m :=
  .bind (.lift y) fun _ => .pure _

/-- What a terminal does with the system is what is left of it when the model is forgotten. -/
theorem perform_eq {env : Surroundings} {s : Schema} {i : Intent} {t : Terminal} {y : Operation Result}
    (h : Does ⟨s, i⟩ (t.run env) y m') : t.perform env s i = y := by
  calc t.perform env s i
      = ((t.run env).on ⟨s, i⟩).andThen fun p => .done p.1 := rfl
    _ = (ExceptT.run y).andThen .done := by rw [h, Activity.andThen_assoc]; rfl
    _ = y := Activity.andThen_done y

end Does

end ModelOperation

namespace Terminal

open ModelOperation

variable (env : Surroundings) (s : Schema) (i : Intent)

/-- All ways to insert take the intent alike, and use nothing of it. -/
theorem does_insertInto (action : Action) (data : Row) :
    Does ⟨s, i⟩ (insertInto env action data) (insertRow env s action data) ⟨s, .empty⟩ :=
  .take <| .schema <| .lift _

/-- Terminal by terminal: what it does with the system, and that it leaves a model without intent. -/
theorem does_run : (t : Terminal) → Does ⟨s, i⟩ (t.run env)
    (match t with
      | get => do return .answer (← rows env s i)
      | first => do return ofRow (← firstRow env s i)
      | find key => do
        return ofRow (← firstRow env s { i with conditions := [.compare s.primaryKey "=" key Junction.and.word] })
      | count => do return .number (← countRows env s i)
      | paginate page perPage => do return .page (← readPage env s i page perPage)
      | rawQuery sql => do return .answer (← runRead env s { i with rawQuery := some sql })
      | insert data => insertRow env s .insert data
      | insertIgnore data => insertRow env s .insertIgnore data
      | insertOrUpdate data => insertRow env s .insertUpdate data
      | update data => updateRows env s i data
      | delete => deleteRows env s i
      | forceDelete => deleteForGood s i) ⟨s, .empty⟩
  | get => .schema <| .take <| .map Result.answer _
  | first => .schema <| .take <| .map ofRow _
  | find _ => .schema <| .take <| .map ofRow _
  | count => .schema <| .take <| .map Result.number _
  | paginate _ _ => .schema <| .take <| .map Result.page _
  | rawQuery _ => .schema <| .take <| .map Result.answer _
  | insert data => does_insertInto env s i .insert data
  | insertIgnore data => does_insertInto env s i .insertIgnore data
  | insertOrUpdate data => does_insertInto env s i .insertUpdate data
  | update _ => .schema <| .take <| .lift _
  | delete => .schema <| .take <| .lift _
  | forceDelete => .schema <| .take <| .lift _

end Terminal

/-- What a terminal makes of a model: whatever comes of it, a model without intent. -/
theorem Model.finish_eq (m : Model) (env : Surroundings) (t : Terminal) (sys : System) :
    m.finish env t sys = (⟨m.schema, .empty⟩, (t.perform env m.schema m.intent).perform sys) := by
  have hdoes := t.does_run env m.schema m.intent
  rw [hdoes.perform_eq, Model.finish, hdoes, Activity.run_andThen]
  rfl

end RecordMapper
