import RecordMapper.Proofs.Lineages

/-!
Inherited relations. A class takes over what the classes behind it have under a name, whether these declare it or have
taken it over themselves. Main statement: what a name stands for is declared by the class that one comes to by going
on, from a class that does not declare the name, to the first class behind it that has it at all; no class in the order
declares the name exactly if there is no relation of that name. The class that one comes to is the first in the order
that declares the name, if all classes before that one that have the name extend it, as they do where every class
extends one other.
-/
namespace RecordMapper

/-- What a class declares itself under a name. -/
def ModelClass.own (c : ModelClass) (name : String) : Option (List ChainCall) :=
  c.declaration.ownRelations.lookup name

/-- Whether a class itself declares a relation of a name. -/
def ModelClass.declares (name : String) (c : ModelClass) : Bool := (c.own name).isSome

namespace Catalogue

/-- Whether a class of the order of a class declares a relation of a name. -/
def has (classes : Catalogue) (name : String) (c : ModelClass) : Bool :=
  (classes.order c).any (ModelClass.declares name)

/-- The class from which a class has the relation of a name: itself if it declares one, and otherwise the one from
which the first class behind it that has one has it. -/
inductive Source (classes : Catalogue) (name : String) : ModelClass → ModelClass → Prop
  | own {c : ModelClass} : c.declares name = true → Source classes name c c
  | behind {c a b : ModelClass} : c.declares name = false →
      (classes.behind c).find? (classes.has name) = some a → Source classes name a b → Source classes name c b

end Catalogue

/-! ### Registries -/

namespace Registry

variable {name n : String} {calls : List ChainCall} {registry later : Registry}

theorem lookup_cons (m : String) (c : List ChainCall) (rest : Registry) (n : String) :
    ((m, c) :: rest).lookup n = if n = m then some c else rest.lookup n := by
  rw [List.lookup_cons]
  by_cases hn : n = m
  · rw [if_pos hn, beq_iff_eq.2 hn]
  · rw [if_neg hn, beq_eq_false_iff_ne.2 hn]

theorem lookup_set (name n : String) (calls : List ChainCall) (registry : Registry) :
    (set name calls registry).lookup n = if n = name then some calls else registry.lookup n := by
  induction registry with
  | nil => exact lookup_cons name calls [] n
  | cons entry rest ih =>
    obtain ⟨m, c⟩ := entry
    rw [set, lookup_cons]
    split
    · rename_i hm
      subst hm
      rw [lookup_cons]
      split <;> rfl
    · rename_i hm
      rw [lookup_cons, ih]
      grind

theorem map_fst_set (name : String) (calls : List ChainCall) (registry : Registry) :
    (set name calls registry).map Prod.fst =
      if name ∈ registry.map Prod.fst then registry.map Prod.fst else registry.map Prod.fst ++ [name] := by
  induction registry with
  | nil => rfl
  | cons entry rest ih =>
    obtain ⟨m, c⟩ := entry
    rw [set]
    split
    · rename_i hm
      rw [List.map_cons, List.map_cons, if_pos (by simp [hm])]
    · rename_i hm
      have hname : ¬ name = m := Ne.symm hm
      rw [List.map_cons, ih, List.map_cons]
      simp only [List.mem_cons, hname, false_or]
      split <;> rfl

theorem nodup_set (h : (registry.map Prod.fst).Nodup) : ((set name calls registry).map Prod.fst).Nodup := by
  rw [map_fst_set]
  split
  · exact h
  · rename_i hname
    exact h.append (List.nodup_singleton _) (by simpa using hname)

theorem nodup_override (h : (registry.map Prod.fst).Nodup) : ((registry.override later).map Prod.fst).Nodup := by
  rw [override]
  induction later generalizing registry with
  | nil => exact h
  | cons entry rest ih => exact ih (nodup_set h)

/-- What stands on top comes first. -/
theorem lookup_override (hlater : (later.map Prod.fst).Nodup) (registry : Registry) (n : String) :
    (registry.override later).lookup n = (later.lookup n).or (registry.lookup n) := by
  induction later generalizing registry with
  | nil => rfl
  | cons entry rest ih =>
    obtain ⟨m, c⟩ := entry
    obtain ⟨hm, hrest⟩ := List.nodup_cons.1 hlater
    have hover : registry.override ((m, c) :: rest) = (set m c registry).override rest := rfl
    rw [hover, ih hrest, lookup_set, lookup_cons]
    by_cases hn : n = m
    · have hnone : rest.lookup n = none := by
        rw [List.lookup_eq_none_iff]
        rintro ⟨m', c'⟩ hmem
        rw [bne_iff_ne, hn]
        rintro rfl
        exact hm (List.mem_map.2 ⟨(m, c'), hmem, rfl⟩)
      rw [if_pos hn, if_pos hn, hnone]
      rfl
    · rw [if_neg hn, if_neg hn]

/-- Of registries on top of one another, the uppermost that has a name counts. -/
theorem lookup_foldl_override {registries : List Registry} (h : ∀ r ∈ registries, (r.map Prod.fst).Nodup) (n : String) :
    (registries.reverse.foldl override []).lookup n = registries.findSome? (·.lookup n) := by
  rw [List.foldl_reverse]
  induction registries with
  | nil => rfl
  | cons r rest ih =>
    obtain ⟨hr, hrest⟩ := List.forall_mem_cons.1 h
    rw [List.foldr_cons, lookup_override hr, ih hrest, List.findSome?_cons]
    cases r.lookup n <;> rfl

end Registry

theorem Declaration.nodup_ownRelations (d : Declaration) : (d.ownRelations.map Prod.fst).Nodup := by
  unfold ownRelations
  generalize d.relations.foldl _ [] = methods
  have hfold : ∀ (methods : List RelationDeclaration) (registry : Registry), (registry.map Prod.fst).Nodup →
      ((methods.foldl (fun done r =>
        Registry.set ((r.register.filter (!·.isEmpty)).getD r.method) r.calls done) registry).map Prod.fst).Nodup := by
    intro methods
    induction methods with
    | nil => exact fun _ h => h
    | cons r rest ih => exact fun registry h => ih _ (Registry.nodup_set h)
  exact hfold methods [] List.nodup_nil

namespace Catalogue

variable {classes : Catalogue} {name : String} {c a b f : ModelClass}

/-! ### What a class has -/

theorem Ordered.nodup_relations (h : Ordered classes) (hc : c ∈ classes) :
    (c.schema.relations.map Prod.fst).Nodup := by
  rw [h.relations c hc]
  refine Registry.nodup_override ?_
  rw [List.foldl_reverse]
  generalize (classes.behind c).map (fun a => a.schema.relations) = registries
  induction registries with
  | nil => exact List.nodup_nil
  | cons r rest ih => exact Registry.nodup_override ih

/-- What a class declares itself comes first, then what the nearest class behind it has. -/
theorem Ordered.lookup_relations (h : Ordered classes) (hc : c ∈ classes) (name : String) :
    c.schema.relations.lookup name =
      (c.own name).or ((classes.behind c).findSome? fun a => a.schema.relations.lookup name) := by
  have hnodup : ∀ r ∈ (classes.behind c).map fun a => a.schema.relations, (r.map Prod.fst).Nodup := by
    intro r hr
    obtain ⟨a, ha, rfl⟩ := List.mem_map.1 hr
    exact h.nodup_relations (h.mem_behind hc ha).1
  rw [h.relations c hc, Registry.lookup_override c.declaration.nodup_ownRelations,
    Registry.lookup_foldl_override hnodup, List.findSome?_map]
  rfl

theorem Ordered.has_iff (h : Ordered classes) (hc : c ∈ classes) :
    classes.has name c = true ↔ c.declares name = true ∨ ∃ a ∈ classes.behind c, classes.has name a = true := by
  rw [has, h.order_eq hc, List.any_cons, Bool.or_eq_true, List.any_eq_true]
  refine or_congr_right ⟨fun ⟨a, ha, hdeclares⟩ => ⟨a, ha, ?_⟩, fun ⟨a, ha, hhas⟩ => ?_⟩
  · rw [has, h.order_eq (h.mem_behind hc ha).1, List.any_cons, hdeclares, Bool.true_or]
  · obtain ⟨b, hb, hdeclares⟩ := List.any_eq_true.1 hhas
    exact ⟨b, (h.order_sublist hc ha).subset hb, hdeclares⟩

/-- A class has a relation of a name exactly if a class of its order declares one. -/
theorem Ordered.isSome_lookup (h : Ordered classes) (hc : c ∈ classes) :
    (c.schema.relations.lookup name).isSome = classes.has name c := by
  induction hn : c.number using Nat.strongRecOn generalizing c with
  | _ n ih =>
    rw [Bool.eq_iff_iff, h.has_iff hc, h.lookup_relations hc, Option.isSome_or, Bool.or_eq_true,
      List.findSome?_isSome_iff]
    refine or_congr_right (exists_congr fun a => and_congr_right fun ha => ?_)
    obtain ⟨hmem, hlt⟩ := h.mem_behind hc ha
    rw [ih a.number (hn ▸ hlt) hmem rfl]

/-! ### Where a class has it from -/

/-- The first class behind that has a relation of the name. -/
theorem Ordered.findSome?_behind (h : Ordered classes) (hc : c ∈ classes)
    (ha : (classes.behind c).find? (classes.has name) = some a) :
    ((classes.behind c).findSome? fun a => a.schema.relations.lookup name) = a.schema.relations.lookup name := by
  obtain ⟨hhas, before, after, hsplit, hbefore⟩ := List.find?_eq_some_iff_append.1 ha
  have hmem : ∀ x ∈ before ++ a :: after, x ∈ classes := fun x hx => (h.mem_behind hc (hsplit ▸ hx)).1
  have hnone : before.findSome? (fun a => a.schema.relations.lookup name) = none := by
    rw [List.findSome?_eq_none_iff]
    intro x hx
    rw [← Option.isNone_iff_eq_none, ← Option.not_isSome, h.isSome_lookup (hmem x (List.mem_append_left _ hx))]
    exact hbefore x hx
  have hsome : (a.schema.relations.lookup name).isSome = true := by
    rw [h.isSome_lookup (hmem a (List.mem_append_right _ List.mem_cons_self))]
    exact hhas
  rw [hsplit, List.findSome?_append, hnone, Option.none_or]
  exact List.findSome?_cons_of_isSome hsome

theorem own_eq_none (h : c.declares name = false) : c.own name = none := by
  rw [ModelClass.declares] at h
  rwa [← Option.not_isSome_iff_eq_none, Bool.not_eq_true]

theorem Source.declares (h : Source classes name c b) : b.declares name = true := by
  induction h with
  | own hown => exact hown
  | behind _ _ _ ih => exact ih

/-- A class has the relation that its source declares. -/
theorem Source.lookup (hs : Source classes name c b) (h : Ordered classes) (hc : c ∈ classes) :
    c.schema.relations.lookup name = b.own name := by
  induction hs with
  | own hown => rw [h.lookup_relations hc, Option.or_of_isSome hown]
  | behind hown hfirst _ ih =>
    rw [h.lookup_relations hc, own_eq_none hown, Option.none_or, h.findSome?_behind hc hfirst]
    exact ih (h.mem_behind hc (List.mem_of_find?_eq_some hfirst)).1

/-- A class that has a relation has a source of it. -/
theorem Ordered.exists_source (h : Ordered classes) (hc : c ∈ classes) (hhas : classes.has name c = true) :
    ∃ b, Source classes name c b := by
  induction hn : c.number using Nat.strongRecOn generalizing c with
  | _ n ih =>
    cases hown : c.declares name with
    | true => exact ⟨c, .own hown⟩
    | false =>
      have hbehind := ((h.has_iff hc).1 hhas).resolve_left (by simp [hown])
      obtain ⟨a, ha⟩ := Option.isSome_iff_exists.1 (List.find?_isSome.2 hbehind)
      obtain ⟨hmem, hlt⟩ := h.mem_behind hc (List.mem_of_find?_eq_some ha)
      obtain ⟨b, hb⟩ := ih a.number (hn ▸ hlt) hmem (List.find?_some ha) rfl
      exact ⟨b, .behind hown ha hb⟩

/-! ### The first that declares it -/

theorem head?_of_sublist_cons {α : Type} {a : α} {part rest : List α} (h : part.Sublist (a :: rest))
    (hnodup : (a :: rest).Nodup) (ha : a ∈ part) : part.head? = some a := by
  cases h with
  | cons _ h => exact absurd (h.subset ha) (List.nodup_cons.1 hnodup).1
  | cons_cons _ _ => rfl

/-- What is found first is found first in any part in which it is. -/
theorem find?_of_sublist {α : Type} {p : α → Bool} {a : α} {part all : List α} (h : part.Sublist all)
    (hnodup : all.Nodup) (hfind : all.find? p = some a) (ha : a ∈ part) : part.find? p = some a := by
  rw [← List.head?_filter] at hfind ⊢
  obtain ⟨rest, hrest⟩ := List.head?_eq_some_iff.1 hfind
  refine head?_of_sublist_cons (hrest ▸ h.filter p) (hrest ▸ hnodup.filter p) (List.mem_filter.2 ⟨ha, ?_⟩)
  have hmem : a ∈ all.filter p := hrest ▸ List.mem_cons_self
  exact (List.mem_filter.1 hmem).2

/-- What is found stands in front of all else that could have been. -/
theorem eq_or_sublist_of_find? {α : Type} {p : α → Bool} {a b : α} {all : List α} (hfind : all.find? p = some a)
    (hb : b ∈ all) (hp : p b = true) : a = b ∨ [a, b].Sublist all := by
  obtain ⟨-, before, after, rfl, hbefore⟩ := List.find?_eq_some_iff_append.1 hfind
  obtain hmem | hmem := List.mem_append.1 hb
  · have hnot := hbefore b hmem
    rw [hp] at hnot
    cases hnot
  · obtain rfl | hmem := List.mem_cons.1 hmem
    · exact .inl rfl
    · exact .inr (((List.singleton_sublist.2 hmem).cons_cons a).trans (List.sublist_append_right _ _))

/-- A class extends the source of what it has. -/
theorem Source.order_sublist (hs : Source classes name c b) (h : Ordered classes) (hc : c ∈ classes) :
    b ∈ classes ∧ (classes.order b).Sublist (classes.order c) := by
  induction hs with
  | own => exact ⟨hc, List.Sublist.refl _⟩
  | @behind c a b _ hfirst _ ih =>
    have ha : a ∈ classes.behind c := List.mem_of_find?_eq_some hfirst
    obtain ⟨hb, hsub⟩ := ih (h.mem_behind hc ha).1
    exact ⟨hb, hsub.trans ((h.order_sublist hc ha).trans (h.behind_sublist hc))⟩

/-- A source that extends the first class that declares a relation is that class. -/
theorem Source.eq_of_mem (hs : Source classes name c b) (h : Ordered classes) (hc : c ∈ classes)
    (hf : (classes.order c).find? (ModelClass.declares name) = some f) (hmem : f ∈ classes.order b) : b = f := by
  obtain ⟨hb, hsub⟩ := hs.order_sublist h hc
  have hfirst := find?_of_sublist hsub (h.order_nodup hc) hf hmem
  rw [h.order_eq hb, List.find?_cons_of_pos hs.declares] at hfirst
  exact Option.some.inj hfirst

/-- If all classes in front of the first class that declares a relation extend that class, so far as they have a
relation of the name, that class is the source. -/
theorem Source.eq_first (hs : Source classes name c b) (h : Ordered classes) (hc : c ∈ classes)
    (hf : (classes.order c).find? (ModelClass.declares name) = some f)
    (hextend : ∀ a, [a, f].Sublist (classes.order c) → classes.has name a = true → f ∈ classes.order a) : b = f := by
  induction hs with
  | own hown =>
    rw [h.order_eq hc, List.find?_cons_of_pos hown] at hf
    exact Option.some.inj hf
  | @behind c a b hown hfirst _ ih =>
    have hbehind := h.behind_sublist hc
    have ha : a ∈ classes.behind c := List.mem_of_find?_eq_some hfirst
    obtain ⟨haclass, -⟩ := h.mem_behind hc ha
    rw [h.order_eq hc, List.find?_cons_of_neg (by simp [hown])] at hf
    have hfmem : f ∈ classes.behind c := List.mem_of_find?_eq_some hf
    have hhas : classes.has name f = true := (h.has_iff (h.mem_behind hc hfmem).1).2 (.inl (List.find?_some hf))
    -- the class to which one goes on is the first that declares the relation, or stands in front of it
    have hfa : f ∈ classes.order a := by
      obtain rfl | hfront := eq_or_sublist_of_find? hfirst hfmem hhas
      · exact h.self_mem_order haclass
      · exact hextend a (hfront.trans hbehind) (List.find?_some hfirst)
    have hsub := h.order_sublist hc ha
    exact ih haclass (find?_of_sublist hsub (hbehind.nodup (h.order_nodup hc)) hf hfa)
      fun x hx => hextend x (hx.trans (hsub.trans hbehind))

/-- Where each class extends one other, a class extends all that stand behind it in any order. -/
theorem Declared.mem_order_of_single (hclasses : Declared classes)
    (hsingle : ∀ a ∈ classes, a.declaration.bases.length ≤ 1) (hc : c ∈ classes)
    (hmem : [a, f].Sublist (classes.order c)) : f ∈ classes.order a := by
  have h := hclasses.ordered
  induction hn : c.number using Nat.strongRecOn generalizing c with
  | _ n ih =>
    rw [h.order_eq hc] at hmem
    cases hmem with
    | cons_cons _ hf => exact (h.behind_sublist hc).subset (List.singleton_sublist.1 hf)
    | cons _ hmem =>
      obtain hnil | ⟨p, hp, hlineage⟩ := hclasses.lineage_single hsingle c hc
      · rw [behind, hnil] at hmem
        cases hmem
      · have horder : classes.order p = classes.behind c := by rw [order, hlineage, behind]
        have hpmem : p ∈ classes.behind c := horder ▸ h.self_mem_order hp
        exact ih p.number (hn ▸ (h.mem_behind hc hpmem).2) hp (horder ▸ hmem) rfl

/-- Asking for one relation that is there makes its calls. -/
theorem declare_singleton {s : Schema} {calls : List ChainCall} (hcalls : s.relations.lookup name = some calls)
    (run : Intent → List ChainCall → Chain.Step) (i : Intent) : Chain.declare s run i [name] = run i calls := by
  rw [Chain.declare, hcalls]
  dsimp only
  split
  · rename_i hrun
    rw [hrun]
    rfl
  · rfl

/-- A name, and a class of a catalogue. Either no class of its order declares a relation of the name, and the call that
asks for it fails for that reason; or the call does what the relation of its source does. The source is the first class
of the order that declares one exactly if it extends that class. It does so if all classes in front of that class that
have the relation extend it, and wherever each class extends one other. -/
theorem relation_of_source (hclasses : Declared classes) (hc : c ∈ classes) {fields : List Value}
    (hname : Chain.names fields = .ok [name]) (run : Intent → List ChainCall → Chain.Step) (i : Intent) :
    let step := Chain.call classes c.schema run i (.withRelations fields)
    ((∀ a ∈ classes.order c, a.declares name = false) ∧
        step = (i, .error (Chain.misuse c.schema ("relation '" ++ name ++ "' does not exist")))) ∨
      ∃ f b calls, (classes.order c).find? (ModelClass.declares name) = some f ∧ Source classes name c b ∧
        b.own name = some calls ∧ step = run i calls ∧
        (b = f ↔ f ∈ classes.order b) ∧
        ((∀ a, [a, f].Sublist (classes.order c) → classes.has name a = true → f ∈ classes.order a) → b = f) ∧
        ((∀ a ∈ classes, a.declaration.bases.length ≤ 1) → b = f) := by
  intro step
  have h := hclasses.ordered
  have hstep : step = Chain.declare c.schema run i [name] := by
    simp only [step, Chain.call, hname]
  cases hhas : classes.has name c with
  | false =>
    have hnone : c.schema.relations.lookup name = none := by
      rw [← Option.not_isSome_iff_eq_none, h.isSome_lookup hc, hhas]
      exact Bool.false_ne_true
    refine .inl ⟨by simpa [has] using hhas, ?_⟩
    rw [hstep, Chain.declare, hnone]
  | true =>
    obtain ⟨b, hsource⟩ := h.exists_source hc hhas
    obtain ⟨calls, hcalls⟩ := Option.isSome_iff_exists.1 hsource.declares
    obtain ⟨f, hf⟩ := Option.isSome_iff_exists.1 (List.find?_isSome.2 (List.any_eq_true.1 hhas))
    refine .inr ⟨f, b, calls, hf, hsource, hcalls, ?_, ⟨?_, hsource.eq_of_mem h hc hf⟩, hsource.eq_first h hc hf,
      fun hsingle => hsource.eq_first h hc hf fun a ha _ => hclasses.mem_order_of_single hsingle hc ha⟩
    · rw [hstep, declare_singleton (hsource.lookup h hc ▸ hcalls)]
    · rintro rfl
      exact h.self_mem_order (hsource.order_sublist h hc).1

/-- Posts that point at their owners by a column. -/
def postsBy (column : String) : RelationDeclaration :=
  ⟨"posts", none, [.relate .hasMany "Post" column "id" (some "posts") none]⟩

/-- A class with posts, two that extend it, of which one declares posts of its own, and one that extends both. -/
def diamond : List Declaration :=
  [{ name := "Post", table := some (some "posts") },
    { name := "Base", table := some (some "bases"), relations := [postsBy "base_id"] },
    { name := "Own", bases := ["Base"], relations := [postsBy "own_id"] },
    { name := "Plain", bases := ["Base"] },
    { name := "PlainFirst", bases := ["Plain", "Own"] }]

/-- As long as each class extends one other, the plain class has the relation of the base, which is the first that
declares one. -/
theorem plain_has_inherited :
    let classes := declareAll (diamond.take 4)
    ∃ c ∈ classes, (classes.order c).map (·.declaration.name) = ["Plain", "Base", "Model"] ∧
      ∀ run i, Chain.call classes c.schema run i (.withRelations [.text "posts"]) =
        run i (postsBy "base_id").calls := by
  intro classes
  have hc : classes.head (by decide) ∈ classes := List.head_mem _
  have hsingle : ∀ a ∈ classes, a.declaration.bases.length ≤ 1 := by decide
  have hname : Chain.names [.text "posts"] = .ok ["posts"] := rfl
  refine ⟨_, hc, by decide, fun run i => ?_⟩
  obtain ⟨hnone, -⟩ | ⟨f, b, calls, hf, -, hcalls, hstep, -, -, hfirst⟩ :=
    relation_of_source (declared_declareAll (diamond.take 4)) hc hname run i
  · exact absurd hnone (by decide)
  · have hown : ((classes.order (classes.head (by decide))).find? (ModelClass.declares "posts")).bind (·.own "posts") =
        some (postsBy "base_id").calls := rfl
    rw [hf, Option.bind_some, ← hfirst hsingle, hcalls] at hown
    rw [hstep, Option.some.inj hown]

/-- A class that extends both, the plain one first, has the relation of the base, though the class that declares its own
stands before the base in the order. -/
theorem inherited_hides_own :
    let classes := declareAll diamond
    ∃ c ∈ classes, (classes.order c).map (·.declaration.name) = ["PlainFirst", "Plain", "Own", "Base", "Model"] ∧
      (classes.order c).findSome? (·.own "posts") = some (postsBy "own_id").calls ∧
      (∀ run i, Chain.call classes c.schema run i (.withRelations [.text "posts"]) =
        run i (postsBy "base_id").calls) ∧
      (postsBy "base_id").calls ≠ (postsBy "own_id").calls := by
  intro classes
  have hname : Chain.names [.text "posts"] = .ok ["posts"] := rfl
  refine ⟨classes.head (by decide), List.head_mem _, by decide, rfl, fun run i => ?_, by simp [postsBy]⟩
  rw [Chain.call, hname]
  exact declare_singleton rfl run i

end Catalogue

end RecordMapper
