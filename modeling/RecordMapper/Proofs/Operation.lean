import RecordMapper.System

/-!
Operations that run alone. `perform` is told for every way in which operations are put together, and `Keeps` says of
an operation that a property of systems that holds before it holds after it, however it ends. `Fails` says what its
failures are like, and `FailsFrom` what they are like in systems with a property.
-/
namespace RecordMapper.Operation

variable {α β : Type}

/-! ### Outcome and system -/

@[simp] theorem perform_pure (a : α) (s : System) : (pure a : Operation α).perform s = (.ok a, s) := rfl

@[simp] theorem perform_throw (e : Failure) (s : System) : (throw e : Operation α).perform s = (.error e, s) := rfl

/-- One operation after the other: the second runs only if the first has a result. -/
theorem perform_bind (x : Operation α) (f : α → Operation β) (s : System) :
    (x >>= f).perform s =
      match x.perform s with
      | (.ok a, t) => (f a).perform t
      | (.error e, t) => (.error e, t) := by
  change (ExceptT.run x >>= ExceptT.bindCont f).run s = _
  rw [Activity.run_bind, perform]
  obtain ⟨r, t⟩ := (ExceptT.run x).run s
  cases r <;> rfl

/-- Two operations one after the other have a result exactly if both have. -/
theorem perform_bind_eq_ok {x : Operation α} {f : α → Operation β} {s : System} {b : β} :
    ((x >>= f).perform s).1 = .ok b ↔ ∃ a, (x.perform s).1 = .ok a ∧ ((f a).perform (x.perform s).2).1 = .ok b := by
  rw [perform_bind]
  obtain ⟨r, t⟩ := x.perform s
  cases r <;> simp

/-- An operation of which only the result is changed. -/
theorem perform_map (x : Operation α) (f : α → β) (s : System) :
    (do return f (← x) : Operation β).perform s = ((x.perform s).1.map f, (x.perform s).2) := by
  rw [perform_bind]
  obtain ⟨r, t⟩ := x.perform s
  cases r <;> rfl

@[simp] theorem perform_ofResult (r : Except Failure α) (s : System) : (ofResult r).perform s = (r, s) := rfl

@[simp] theorem perform_system (s : System) : system.perform s = (.ok s, s) := rfl

@[simp] theorem perform_change (f : System → System) (s : System) : (change f).perform s = (.ok (), f s) := rfl

@[simp] theorem perform_yield (s : System) : yield.perform s = (.ok (), s) := rfl

@[simp] theorem perform_outcome (x : Operation α) (s : System) :
    (outcome x).perform s = (.ok (x.perform s).1, (x.perform s).2) :=
  Activity.run_andThen (ExceptT.run x) _ s

/-- The second operation runs behind the first, whether or not that fails. -/
theorem perform_ensuring (x : Operation α) (always : Operation Unit) (s : System) :
    (ensuring x always).perform s =
      match always.perform (x.perform s).2 with
      | (.ok _, t) => ((x.perform s).1, t)
      | (.error e, t) => (.error e, t) := by
  rw [ensuring, perform_bind, perform_outcome]
  dsimp only
  rw [perform_bind]
  cases always.perform (x.perform s).2 with
  | mk r t => cases r <;> rfl

@[simp] theorem perform_locked (l : Lock) (x : Operation α) (s : System) : (locked l x).perform s = x.perform s :=
  Activity.run_locked l (ExceptT.run x) s

@[simp] theorem perform_emit (e : Event) (s : System) :
    (emit e).perform s = (.ok (), { s with store := s.store.emit e }) := rfl

@[simp] theorem perform_reply (s : System) :
    reply.perform s = (.ok s.store.reply.1, { s with store := s.store.reply.2 }) := rfl

/-- The next attempt to connect fails with the store's error, if it has one. -/
theorem perform_nextConnect (s : System) :
    nextConnect.perform s =
      (match s.store.connectError.1 with
        | none => .ok ()
        | some e => .error (.ofError e), { s with store := s.store.connectError.2 }) := by
  rw [nextConnect, perform_bind, perform_system]
  dsimp only
  rw [perform_bind, perform_change]
  dsimp only
  cases s.store.connectError.1 <;> rfl

/-! ### What operations keep -/

/-- The property holds after the operation if it holds before, whether the operation has a result or fails. -/
def Keeps (I : System → Prop) (x : Operation α) : Prop := ∀ s, I s → I (x.perform s).2

section
variable {I : System → Prop}

theorem Keeps.pure (a : α) : Keeps I (pure a : Operation α) := fun _ hs => hs

theorem Keeps.throw (e : Failure) : Keeps I (throw e : Operation α) := fun _ hs => hs

theorem Keeps.ofResult (r : Except Failure α) : Keeps I (ofResult r) := fun _ hs => hs

theorem Keeps.system : Keeps I system := fun _ hs => hs

theorem Keeps.yield : Keeps I yield := fun _ hs => hs

theorem Keeps.bind {x : Operation α} {f : α → Operation β} (hx : Keeps I x) (hf : ∀ a, Keeps I (f a)) :
    Keeps I (x >>= f) := by
  intro s hs
  have hmid := hx s hs
  rw [perform_bind]
  split
  · rename_i a t h
    rw [h] at hmid
    exact hf a t hmid
  · rename_i e t h
    rw [h] at hmid
    exact hmid

/-- What is done after a look at the system, if it is one thing in every system with the property. -/
theorem Keeps.look {x : Operation α} {f : System → Operation α} (hsame : ∀ s, I s → f s = x) (hx : Keeps I x) :
    Keeps I (Operation.system >>= f) := by
  intro s hs
  rw [perform_bind, perform_system]
  dsimp only
  rw [hsame s hs]
  exact hx s hs

/-- What follows a failure is not done. -/
theorem Keeps.throwBind (e : Failure) (f : α → Operation β) : Keeps I ((MonadExcept.throw e : Operation α) >>= f) := by
  intro s hs
  rw [perform_bind, perform_throw]
  exact hs

/-- What follows a result is done with that result only. -/
theorem Keeps.bindResult {r : Except Failure α} {f : α → Operation β} (hf : ∀ a, r = .ok a → Keeps I (f a)) :
    Keeps I (Operation.ofResult r >>= f) := by
  intro s hs
  rw [perform_bind, perform_ofResult]
  cases r with
  | error e => exact hs
  | ok a => exact hf a rfl s hs

theorem Keeps.change {f : System → System} (hf : ∀ s, I s → I (f s)) : Keeps I (change f) := hf

theorem Keeps.outcome {x : Operation α} (hx : Keeps I x) : Keeps I (outcome x) := by
  intro s hs
  rw [perform_outcome]
  exact hx s hs

theorem Keeps.ensuring {x : Operation α} {always : Operation Unit} (hx : Keeps I x) (halways : Keeps I always) :
    Keeps I (ensuring x always) :=
  Keeps.bind (Keeps.outcome hx) fun _ => Keeps.bind halways fun _ => Keeps.ofResult _

theorem Keeps.locked {x : Operation α} (l : Lock) (hx : Keeps I x) : Keeps I (locked l x) := by
  intro s hs
  rw [perform_locked]
  exact hx s hs

theorem Keeps.failWith? (e : Option Error) : Keeps I (failWith? e) := by
  cases e with
  | none => exact Keeps.pure ()
  | some e => exact Keeps.throw _

/-- Of two operations one is done. -/
theorem Keeps.ite {c : Prop} [Decidable c] {x y : Operation α} (hx : Keeps I x) (hy : Keeps I y) :
    Keeps I (if c then x else y) := by
  split
  · exact hx
  · exact hy

end

/-! ### How operations fail -/

/-- If the operation fails, it does so with a failure of this property. -/
def Fails (P : Failure → Prop) (x : Operation α) : Prop := ∀ s e, (x.perform s).1 = .error e → P e

section
variable {P : Failure → Prop}

theorem Fails.pure (a : α) : Fails P (pure a : Operation α) := by
  intro s e h
  rw [perform_pure] at h
  cases h

theorem Fails.throw {e : Failure} (he : P e) : Fails P (throw e : Operation α) :=
  fun _ _ h => Except.error.inj h ▸ he

theorem Fails.ofResult {r : Except Failure α} (hr : ∀ e, r = .error e → P e) : Fails P (ofResult r) :=
  fun _ e h => hr e h

theorem Fails.change (f : System → System) : Fails P (change f) := by
  intro s e h
  rw [perform_change] at h
  cases h

theorem Fails.outcome (x : Operation α) : Fails P (outcome x) := by
  intro s e h
  rw [perform_outcome] at h
  cases h

theorem Fails.failWith? {e : Option Error} (he : ∀ error, e = some error → P (.ofError error)) :
    Fails P (failWith? e) := by
  cases e with
  | none => exact Fails.pure ()
  | some error => exact Fails.throw (he error rfl)

theorem Fails.bind {x : Operation α} {f : α → Operation β} (hx : Fails P x) (hf : ∀ a, Fails P (f a)) :
    Fails P (x >>= f) := by
  intro s e he
  rw [perform_bind] at he
  split at he
  · rename_i a t h
    exact hf a t e he
  · rename_i failure t h
    refine hx s e ?_
    rw [h]
    exact congrArg Except.error (Except.error.inj he)

/-- What follows an outcome is told for each result, and for each failure that there may be. -/
theorem Fails.outcomeBind {Q : Failure → Prop} {x : Operation α} {f : Except Failure α → Operation β}
    (hx : Fails Q x) (hok : ∀ a, Fails P (f (.ok a))) (herror : ∀ e, Q e → Fails P (f (.error e))) :
    Fails P (Operation.outcome x >>= f) := by
  intro s e he
  rw [perform_bind, perform_outcome] at he
  dsimp only at he
  cases hr : (x.perform s).1 with
  | ok a =>
    rw [hr] at he
    exact hok a _ e he
  | error failure =>
    rw [hr] at he
    exact herror failure (hx s failure hr) _ e he

theorem Fails.throwBind {e : Failure} (he : P e) (f : α → Operation β) :
    Fails P ((MonadExcept.throw e : Operation α) >>= f) := by
  intro s failure h
  rw [perform_bind, perform_throw] at h
  exact Except.error.inj h ▸ he

theorem Fails.ensuring {x : Operation α} {always : Operation Unit} (hx : Fails P x) (halways : Fails P always) :
    Fails P (ensuring x always) := by
  intro s e he
  rw [perform_ensuring] at he
  split at he
  · exact hx s e he
  · rename_i failure t h
    exact Except.error.inj he ▸ halways _ failure (congrArg Prod.fst h)

theorem Fails.system : Fails P system := by
  intro s e h
  rw [perform_system] at h
  cases h

theorem Fails.ite {c : Prop} [Decidable c] {x y : Operation α} (hx : Fails P x) (hy : Fails P y) :
    Fails P (if c then x else y) := by
  split
  · exact hx
  · exact hy

end

/-- If the operation fails in a system with the property, it does so with a failure of this other property. -/
def FailsFrom (I : System → Prop) (P : Failure → Prop) (x : Operation α) : Prop :=
  ∀ s e, I s → (x.perform s).1 = .error e → P e

section
variable {I : System → Prop} {P : Failure → Prop}

theorem Fails.failsFrom {x : Operation α} (hx : Fails P x) : FailsFrom I P x := fun s e _ he => hx s e he

/-- The second operation begins with the property if the first keeps it. -/
theorem FailsFrom.bind {x : Operation α} {f : α → Operation β} (hx : FailsFrom I P x) (hkeeps : Keeps I x)
    (hf : ∀ a, FailsFrom I P (f a)) : FailsFrom I P (x >>= f) := by
  intro s e hs he
  have hmid := hkeeps s hs
  rw [perform_bind] at he
  split at he
  · rename_i a t h
    rw [h] at hmid
    exact hf a t e hmid he
  · rename_i failure t h
    refine hx s e hs ?_
    rw [h]
    exact congrArg Except.error (Except.error.inj he)

/-- What follows a look at the system is told for each system with the property. -/
theorem FailsFrom.look {f : System → Operation α} (hf : ∀ s, I s → FailsFrom I P (f s)) :
    FailsFrom I P (system >>= f) := by
  intro s e hs he
  rw [perform_bind, perform_system] at he
  exact hf s hs s e hs he

/-- What follows a result fails as it does with that result. -/
theorem FailsFrom.bindResult {r : Except Failure α} {f : α → Operation β} (hr : ∀ e, r = .error e → P e)
    (hf : ∀ a, r = .ok a → FailsFrom I P (f a)) : FailsFrom I P (ofResult r >>= f) := by
  intro s e hs he
  rw [perform_bind, perform_ofResult] at he
  cases r with
  | error failure => exact hr e (congrArg Except.error (Except.error.inj he))
  | ok a => exact hf a rfl s e hs he

/-- An operation of which only the result is changed. -/
theorem FailsFrom.map {x : Operation α} (hx : FailsFrom I P x) (f : α → β) :
    FailsFrom I P (do return f (← x)) := by
  intro s e hs he
  rw [perform_map] at he
  cases hr : (x.perform s).1 with
  | ok a =>
    rw [hr] at he
    cases he
  | error failure =>
    rw [hr] at he
    exact Except.error.inj he ▸ hx s failure hs hr

theorem FailsFrom.locked {x : Operation α} (l : Lock) (hx : FailsFrom I P x) : FailsFrom I P (locked l x) := by
  intro s e hs he
  rw [perform_locked] at he
  exact hx s e hs he

theorem FailsFrom.ite {c : Prop} [Decidable c] {x y : Operation α} (hx : FailsFrom I P x) (hy : FailsFrom I P y) :
    FailsFrom I P (if c then x else y) := by
  split
  · exact hx
  · exact hy

end

end RecordMapper.Operation
