import Mathlib.Data.List.Forall2
import RecordMapper.Model.Rounds
import RecordMapper.Proofs.Operation

/-!
Readings by their results. `Gives P p` says that a reading ends with a result that has the property `P`, whatever the
answers to its questions are; `Paired R p q` says that two readings ask the same, as long as they get the same answers,
and end with results that are related by `R`. Main statement: a client that answers two such readings from the same
system is in one and the same system after them, and the results that it has are related. `AnsweredBy f p s` says that
the store gives the answers of a function; the result is then the one that these make.
-/
namespace RecordMapper

open Operation

namespace Rounds

variable {α β γ δ : Type}

/-- Whatever the answers are, the result has a property. -/
def Gives (P : α → Prop) : Rounds α → Prop
  | done a => P a
  | ask _ next => ∀ answers, (next answers).Gives P

/-- Both readings ask the same, whatever the answers are, and their results are related. -/
def Paired (R : α → β → Prop) : Rounds α → Rounds β → Prop
  | done a, done b => R a b
  | ask s k, ask t l => s = t ∧ ∀ answers, (k answers).Paired R (l answers)
  | _, _ => False

/-! ### One reading -/

theorem Gives.imp {P Q : α → Prop} (h : ∀ a, P a → Q a) : ∀ {p : Rounds α}, p.Gives P → p.Gives Q
  | done a, hp => h a hp
  | ask _ _, hp => fun answers => Gives.imp h (hp answers)

theorem gives_of_forall {P : α → Prop} (h : ∀ a, P a) : ∀ p : Rounds α, p.Gives P
  | done a => h a
  | ask _ next => fun answers => gives_of_forall h (next answers)

theorem Gives.map {P : β → Prop} {f : α → β} : ∀ {p : Rounds α}, p.Gives (fun a => P (f a)) → (p.map f).Gives P
  | done _, hp => hp
  | ask _ _, hp => fun answers => Gives.map (hp answers)

theorem Gives.both {P : α → Prop} {Q : β → Prop} : ∀ {p : Rounds α} {q : Rounds β}, p.Gives P → q.Gives Q →
    (p.both q).Gives fun r => P r.1 ∧ Q r.2
  | done _, _, hp, hq => Gives.map (hq.imp fun _ hb => ⟨hp, hb⟩)
  | ask _ _, done _, hp, hq => fun answers => Gives.map ((hp answers).imp fun _ ha => ⟨ha, hq⟩)
  | ask _ _, ask _ _, hp, hq => fun _ => Gives.both (hp _) (hq _)

/-- Readings together give what each of them gives. -/
theorem gives_together {P : γ → α → Prop} {f : γ → Rounds α} : ∀ {items : List γ},
    (∀ c ∈ items, (f c).Gives (P c)) → (together (items.map f)).Gives (List.Forall₂ P items)
  | [], _ => List.Forall₂.nil
  | c :: rest, h => by
    have hrest := gives_together fun d hd => h d (List.mem_cons_of_mem c hd)
    exact Gives.map (((h c List.mem_cons_self).both hrest).imp fun _ hr => .cons hr.1 hr.2)

/-! ### Two readings -/

/-- A reading whose result is changed in two ways. -/
theorem Gives.paired {R : β → γ → Prop} {f : α → β} {g : α → γ} : ∀ {p : Rounds α},
    p.Gives (fun a => R (f a) (g a)) → (p.map f).Paired R (p.map g)
  | done _, hp => hp
  | ask _ _, hp => ⟨rfl, fun answers => Gives.paired (hp answers)⟩

theorem Paired.imp {R S : α → β → Prop} (h : ∀ a b, R a b → S a b) : ∀ {p : Rounds α} {q : Rounds β},
    p.Paired R q → p.Paired S q
  | done a, done b, hp => h a b hp
  | ask _ _, ask _ _, ⟨hsame, hp⟩ => ⟨hsame, fun answers => Paired.imp h (hp answers)⟩

/-- A reading asks what it asks itself, and has one result. -/
theorem Gives.refl {P : α → Prop} : ∀ {p : Rounds α}, p.Gives P → p.Paired (fun a b => a = b ∧ P a) p
  | done _, hp => ⟨rfl, hp⟩
  | ask _ _, hp => ⟨rfl, fun answers => Gives.refl (hp answers)⟩

theorem Paired.map {R : γ → δ → Prop} {f : α → γ} {g : β → δ} : ∀ {p : Rounds α} {q : Rounds β},
    p.Paired (fun a b => R (f a) (g b)) q → (p.map f).Paired R (q.map g)
  | done _, done _, hp => hp
  | ask _ _, ask _ _, ⟨hsame, hp⟩ => ⟨hsame, fun answers => Paired.map (hp answers)⟩

/-- Two readings together ask what two others do together, if each asks the same as its counterpart. -/
theorem Paired.both {R : α → β → Prop} {S : γ → δ → Prop} : ∀ {p : Rounds α} {p' : Rounds β} {q : Rounds γ}
    {q' : Rounds δ}, p.Paired R p' → q.Paired S q' → (p.both q).Paired (fun a b => R a.1 b.1 ∧ S a.2 b.2) (p'.both q')
  | done _, done _, _, _, hp, hq => Paired.map (hq.imp fun _ _ hb => ⟨hp, hb⟩)
  | ask _ _, ask _ _, done _, done _, ⟨hsame, hp⟩, hq =>
    ⟨hsame, fun answers => Paired.map ((hp answers).imp fun _ _ ha => ⟨ha, hq⟩)⟩
  | ask _ _, ask _ _, ask _ _, ask _ _, ⟨hsame, hp⟩, ⟨hsame', hq⟩ => by
    subst hsame
    subst hsame'
    exact ⟨rfl, fun _ => Paired.both (hp _) (hq _)⟩

/-- Readings together of which one is replaced by another that asks the same: the others have the results that they
had. -/
theorem Paired.together_replace {R : α → α → Prop} {P : γ → α → Prop} {f : γ → Rounds α} {p p' : Rounds α}
    (hp : p.Paired R p') (hf : ∀ c, (f c).Gives (P c)) (after : List γ) : ∀ before : List γ,
    (together (before.map f ++ p :: after.map f)).Paired
      (fun ts ts' => ∃ bs t t' as, ts = bs ++ t :: as ∧ ts' = bs ++ t' :: as ∧ R t t' ∧ List.Forall₂ P before bs ∧
        List.Forall₂ P after as)
      (together (before.map f ++ p' :: after.map f))
  | [] => by
    have hafter := (gives_together fun c (_ : c ∈ after) => hf c).refl
    refine Paired.map ((hp.both hafter).imp ?_)
    rintro ⟨t, as⟩ ⟨t', _⟩ ⟨hR, rfl, hP⟩
    exact ⟨[], t, t', as, rfl, rfl, hR, .nil, hP⟩
  | c :: before => by
    refine Paired.map (((hf c).refl.both (Paired.together_replace hp hf after before)).imp ?_)
    rintro ⟨b, _⟩ ⟨_, _⟩ ⟨⟨rfl, hb⟩, bs, t, t', as, rfl, rfl, hR, hbefore, hafter⟩
    exact ⟨b :: bs, t, t', as, rfl, rfl, hR, .cons hb hbefore, hafter⟩

/-! ### Answers by a function -/

theorem Gives.answer {P : α → Prop} (f : Question → Except Failure Answer) : ∀ {p : Rounds α}, p.Gives P →
    P (p.answer f)
  | done _, hp => hp
  | ask questions next, hp => Gives.answer (p := next (questions.map f)) f (hp (questions.map f))

/-- The statements of a reading get the answers that a function gives, in a system and in those that it becomes. -/
def AnsweredBy (f : Question → Except Failure Answer) : Rounds α → System → Prop
  | done _, _ => True
  | ask questions next, s =>
    ((askAll questions).perform s).1 = .ok (questions.map f) ∧
      (next (questions.map f)).AnsweredBy f ((askAll questions).perform s).2

/-! ### Answers from a client -/

/-- Questions are answered whatever becomes of them. -/
theorem exists_perform_askAll : ∀ (questions : List Question) (s : System),
    ∃ answers t, (askAll questions).perform s = (.ok answers, t)
  | [], s => ⟨[], s, rfl⟩
  | q :: rest, s => by
    obtain ⟨answers, t, hrest⟩ := exists_perform_askAll rest ((Client.execute q.sql q.bindings).perform s).2
    refine ⟨((Client.execute q.sql q.bindings).perform s).1 :: answers, t, ?_⟩
    rw [askAll, perform_bind, perform_outcome]
    dsimp only
    rw [perform_bind, hrest]
    rfl

/-- One question has the outcome of its statement as its answer. -/
theorem perform_askAll_singleton (q : Question) (s : System) :
    (askAll [q]).perform s =
      (.ok [((Client.execute q.sql q.bindings).perform s).1], ((Client.execute q.sql q.bindings).perform s).2) := by
  rw [askAll, perform_bind, perform_outcome]
  rfl

/-- What a reading does once it has its first answers. -/
theorem perform_ask {questions : List Question} {next : List (Except Failure Answer) → Rounds α} {s t : System}
    {answers : List (Except Failure Answer)} (h : (askAll questions).perform s = (.ok answers, t)) :
    (ask questions next).perform.perform s = (next answers).perform.perform t := by
  rw [perform, perform_bind, h]

/-- A client that gets the answers of a function has the result that these make. -/
theorem AnsweredBy.perform {f : Question → Except Failure Answer} : ∀ {p : Rounds α} {s : System},
    p.AnsweredBy f s → ∃ t, p.perform.perform s = (.ok (p.answer f), t)
  | done a, s, _ => ⟨s, rfl⟩
  | ask questions next, s, ⟨hasked, hnext⟩ => by
    obtain ⟨t, ht⟩ := hnext.perform
    refine ⟨t, ?_⟩
    have hanswers : (askAll questions).perform s = (.ok (questions.map f), ((askAll questions).perform s).2) :=
      Prod.ext hasked rfl
    rw [perform_ask hanswers, ht]
    rfl

/-- Two readings that ask the same get the same answers, and leave the same system behind. -/
theorem Paired.perform {R : α → β → Prop} : ∀ {p : Rounds α} {q : Rounds β}, p.Paired R q → ∀ s : System,
    ∃ a b t, p.perform.perform s = (.ok a, t) ∧ q.perform.perform s = (.ok b, t) ∧ R a b
  | done a, done b, h, s => ⟨a, b, s, rfl, rfl, h⟩
  | ask questions k, ask _ l, ⟨hsame, h⟩, s => by
    subst hsame
    obtain ⟨answers, t, hasked⟩ := exists_perform_askAll questions s
    rw [perform_ask hasked, perform_ask hasked]
    exact (h answers).perform t

end Rounds

end RecordMapper
