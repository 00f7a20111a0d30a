import Mathlib.Data.List.Nodup
import Mathlib.Data.List.Perm.Subperm
import RecordMapper.Proofs.FinishedRows
import RecordMapper.Session

/-!
Lineages of classes. The lineage of a class is merged from those of the classes that it extends: one after another a
number is taken off that stands in front, and that no list has further back. Main statement: in a catalogue of classes
that have been declared one after another, each class stands in front of its order, the classes behind it have been
declared before it, and their orders are parts of its own.
-/
namespace RecordMapper

namespace Catalogue

/-- A list without its head, if that is the number. -/
def takeOff (n : Nat) (l : List Nat) : List Nat := if l.head? == some n then l.drop 1 else l

/-- What lists become by taking off, one after another, a head that none of them has further back. -/
inductive Merged : List (List Nat) → List Nat → Prop
  | done {lists : List (List Nat)} : (∀ l ∈ lists, l = []) → Merged lists []
  | step {lists : List (List Nat)} {n : Nat} {rest : List Nat} :
      (∃ l ∈ lists, l.head? = some n) → (∀ l ∈ lists, n ∉ l.drop 1) →
      Merged ((lists.filter (!·.isEmpty)).map (takeOff n)) rest → Merged lists (n :: rest)

/-- The classes that have been declared one after another, each against those before it. -/
inductive Declared : Catalogue → Prop
  | start : Declared start
  | declare {classes : Catalogue} {d : Declaration} {c : ModelClass} :
      Declared classes → declare d classes = .ok c → Declared (c :: classes)

/-- The catalogue after a declaration, the same if it is refused. -/
def declareNext (classes : Catalogue) (d : Declaration) : Catalogue :=
  match declare d classes with
  | .ok c => c :: classes
  | .error _ => classes

/-- The catalogue after declarations. -/
def declareAll (ds : List Declaration) : Catalogue := ds.foldl declareNext start

/-- The classes of a lineage, the class itself first. -/
def order (classes : Catalogue) (c : ModelClass) : List ModelClass := c.lineage.filterMap classes.byNumber?

/-- The classes of a lineage behind the class itself. -/
def behind (classes : Catalogue) (c : ModelClass) : List ModelClass := c.lineage.tail.filterMap classes.byNumber?

/-- What holds of the classes of a catalogue, however many are declared. -/
structure Ordered (classes : Catalogue) : Prop where
  number_lt : ∀ c ∈ classes, c.number < classes.length
  byNumber? : ∀ c ∈ classes, classes.byNumber? c.number = some c
  lineage : ∀ c ∈ classes, c.lineage = c.number :: c.lineage.tail
  earlier : ∀ c ∈ classes, ∀ n ∈ c.lineage.tail, n < c.number
  nodup : ∀ c ∈ classes, c.lineage.Nodup
  known : ∀ c ∈ classes, ∀ n ∈ c.lineage, ∃ a ∈ classes, a.number = n
  sublist : ∀ c ∈ classes, ∀ a ∈ classes, a.number ∈ c.lineage.tail → a.lineage.Sublist c.lineage.tail
  relations : ∀ c ∈ classes, c.schema.relations =
    Registry.override (((classes.behind c).map fun a => a.schema.relations).reverse.foldl Registry.override [])
      c.declaration.ownRelations

/-! ### Merging -/

section
variable {n : Nat} {l : List Nat} {lists : List (List Nat)} {out : List Nat}

theorem takeOff_subset : takeOff n l ⊆ l := by
  rw [takeOff]
  split
  · exact List.drop_subset 1 l
  · exact List.Subset.refl l

theorem sublist_cons_takeOff : l.Sublist (n :: takeOff n l) := by
  rw [takeOff]
  split
  · rename_i hhead
    cases l with
    | nil => exact List.nil_sublist _
    | cons a rest =>
      have ha : a = n := by simpa using hhead
      rw [ha]
      exact List.Sublist.refl _
  · exact List.sublist_cons_self n l

/-- A number that is not further back is not there once it has been taken off. -/
theorem not_mem_takeOff (h : n ∉ l.drop 1) : n ∉ takeOff n l := by
  rw [takeOff]
  split
  · exact h
  · rename_i hhead
    cases l with
    | nil => exact List.not_mem_nil
    | cons a rest =>
      have ha : ¬ a = n := by simpa using hhead
      exact List.not_mem_cons_of_ne_of_not_mem (Ne.symm ha) h

theorem eq_nil_or_mem_filter (hl : l ∈ lists) : l = [] ∨ l ∈ lists.filter (!·.isEmpty) := by
  cases l with
  | nil => exact .inl rfl
  | cons a rest => exact .inr (List.mem_filter.2 ⟨hl, rfl⟩)

theorem merged_of_merge? : ∀ {fuel : Nat} {lists : List (List Nat)} {out : List Nat},
    merge? fuel lists = some out → Merged lists out
  | fuel + 1, lists, out, h => by
    simp only [merge?] at h
    split at h
    · rename_i hempty
      rw [← Option.some.inj h]
      refine .done fun l hl => (eq_nil_or_mem_filter hl).resolve_right fun hmem => ?_
      rw [List.isEmpty_iff.1 hempty] at hmem
      exact List.not_mem_nil hmem
    · obtain ⟨n, hn, h⟩ := Option.bind_eq_some_iff.1 h
      obtain ⟨rest, hrest, h⟩ := Option.bind_eq_some_iff.1 h
      obtain ⟨l, hl, hhead⟩ := List.mem_filterMap.1 (List.mem_of_find?_eq_some hn)
      have hback : ∀ l ∈ lists, l = [] ∨ n ∉ l.drop 1 := by simpa using List.find?_some hn
      rw [← Option.some.inj h]
      refine .step ⟨l, (List.mem_filter.1 hl).1, hhead⟩ (fun l hl => ?_) (merged_of_merge? hrest)
      obtain rfl | hl := hback l hl
      · exact List.not_mem_nil
      · exact hl

/-- No list is taken apart. -/
theorem Merged.sublist (h : Merged lists out) : ∀ l ∈ lists, l.Sublist out := by
  induction h with
  | done hall =>
    intro l hl
    rw [hall l hl]
  | step _ _ _ ih =>
    intro l hl
    obtain rfl | hl := eq_nil_or_mem_filter hl
    · exact List.nil_sublist _
    · exact sublist_cons_takeOff.trans ((ih _ (List.mem_map_of_mem hl)).cons_cons _)

/-- Nothing is made up. -/
theorem Merged.exists_mem (h : Merged lists out) : ∀ m ∈ out, ∃ l ∈ lists, m ∈ l := by
  induction h with
  | done => exact nofun
  | step hhead _ _ ih =>
    refine List.forall_mem_cons.2 ⟨?_, fun m hm => ?_⟩
    · obtain ⟨l, hl, hhead⟩ := hhead
      exact ⟨l, hl, List.mem_of_head? hhead⟩
    · obtain ⟨l', hl', hm⟩ := ih m hm
      obtain ⟨l, hl, rfl⟩ := List.mem_map.1 hl'
      exact ⟨l, (List.mem_filter.1 hl).1, takeOff_subset hm⟩

/-- Nothing is there twice. -/
theorem Merged.nodup (h : Merged lists out) : out.Nodup := by
  induction h with
  | done => exact List.nodup_nil
  | step _ hback hrest ih =>
    -- the number that is taken off is nowhere further back
    refine List.nodup_cons.2 ⟨fun hmem => ?_, ih⟩
    obtain ⟨l', hl', hn⟩ := hrest.exists_mem _ hmem
    obtain ⟨l, hl, rfl⟩ := List.mem_map.1 hl'
    exact not_mem_takeOff (hback l (List.mem_filter.1 hl).1) hn

end

/-! ### Declaring a class -/

section
variable {classes : Catalogue} {d : Declaration} {c a : ModelClass} {parents : List ModelClass}

theorem Declared.rootClass_mem (h : Declared classes) : rootClass ∈ classes := by
  induction h with
  | start => exact List.mem_cons_self
  | declare _ _ ih => exact List.mem_cons_of_mem _ ih

theorem mem_of_get {name : String} (h : classes.get name = .ok c) : c ∈ classes := by
  rw [get] at h
  cases hfind : classes.find? name with
  | none =>
    rw [hfind] at h
    cases h
  | some found =>
    rw [hfind] at h
    rw [← Except.ok.inj h]
    exact List.mem_of_find?_eq_some hfind

theorem mem_of_parentsOf (hroot : rootClass ∈ classes) (h : parentsOf d classes = .ok parents) :
    ∀ p ∈ parents, p ∈ classes := by
  rw [parentsOf] at h
  split at h
  · rw [← Except.ok.inj h]
    exact List.forall_mem_singleton.2 hroot
  · have hgets : List.Forall₂ (fun p name => p ∈ classes ∧ classes.get name = .ok p) parents d.bases :=
      (mapM_eq_ok.1 h).flip.imp fun _ _ hget => ⟨mem_of_get hget, hget⟩
    exact ((List.forall₂_and_left parents d.bases).1 hgets).1

/-- What a class is that has been declared. -/
theorem declare_eq_ok (h : declare d classes = .ok c) : ∃ parents ancestors,
    parentsOf d classes = .ok parents ∧
      Merged (parents.map ModelClass.lineage ++ [parents.map ModelClass.number]) ancestors ∧
      c.number = classes.length ∧ c.declaration = d ∧ c.lineage = c.number :: ancestors ∧
      c.schema.relations = Registry.override
        (((ancestors.filterMap classes.byNumber?).map fun a => a.schema.relations).reverse.foldl Registry.override [])
        d.ownRelations := by
  rw [declare] at h
  obtain ⟨parents, hparents, h⟩ := bind_eq_ok.1 h
  obtain ⟨ancestors, hancestors, h⟩ := bind_eq_ok.1 h
  obtain ⟨_, _, h⟩ := bind_eq_ok.1 h
  cases hmerge : ancestors? parents with
  | none =>
    rw [hmerge] at hancestors
    cases hancestors
  | some found =>
    rw [hmerge] at hancestors
    cases hancestors
    rw [← Except.ok.inj h]
    exact ⟨parents, ancestors, hparents, merged_of_merge? hmerge, rfl, rfl, rfl, rfl⟩

/-! ### Declaring one class after another -/

theorem mem_of_byNumber? {n : Nat} (h : classes.byNumber? n = some a) : a ∈ classes ∧ a.number = n :=
  ⟨List.mem_of_find?_eq_some h, by simpa using List.find?_some h⟩

theorem byNumber?_cons_of_lt {n : Nat} (hc : c.number = classes.length) (hn : n < classes.length) :
    Catalogue.byNumber? n (c :: classes) = classes.byNumber? n := by
  have hne : ¬ (c.number == n) = true := by
    rw [hc, beq_iff_eq]
    omega
  exact List.find?_cons_of_neg hne

/-- Another class changes nothing in a lineage. -/
theorem filterMap_byNumber?_cons {l : List Nat} (hc : c.number = classes.length) (hl : ∀ n ∈ l, n < classes.length) :
    l.filterMap (Catalogue.byNumber? · (c :: classes)) = l.filterMap (classes.byNumber? ·) :=
  List.filterMap_congr fun n hn => byNumber?_cons_of_lt hc (hl n hn)

theorem Ordered.lineage_lt (h : Ordered classes) (hc : c ∈ classes) : ∀ n ∈ c.lineage, n < classes.length := by
  intro n hn
  obtain ⟨a, ha, rfl⟩ := h.known c hc n hn
  exact h.number_lt a ha

theorem Ordered.eq_of_number (h : Ordered classes) (hc : c ∈ classes) (ha : a ∈ classes)
    (hnumber : a.number = c.number) : a = c :=
  Option.some.inj ((h.byNumber? a ha).symm.trans (hnumber ▸ h.byNumber? c hc))

theorem Ordered.lineage_sublist (h : Ordered classes) (hc : c ∈ classes) (ha : a ∈ classes)
    (hmem : a.number ∈ c.lineage) : a.lineage.Sublist c.lineage := by
  rw [h.lineage c hc] at hmem
  obtain hmem | hmem := List.mem_cons.1 hmem
  · rw [h.eq_of_number hc ha hmem]
  · exact (h.sublist c hc a ha hmem).trans (List.tail_sublist _)

/-- What is in a lineage is in that of a class that the class extends, and nothing of this is lost. -/
theorem Ordered.exists_parent (h : Ordered classes) (hparents : ∀ p ∈ parents, p ∈ classes) {ancestors : List Nat}
    (hmerged : Merged (parents.map ModelClass.lineage ++ [parents.map ModelClass.number]) ancestors) :
    ∀ n ∈ ancestors, ∃ p ∈ classes, n ∈ p.lineage ∧ p.lineage.Sublist ancestors := by
  have hsublist : ∀ p ∈ parents, p.lineage.Sublist ancestors := fun p hp =>
    hmerged.sublist _ (List.mem_append_left _ (List.mem_map_of_mem hp))
  intro n hn
  obtain ⟨l, hl, hnl⟩ := hmerged.exists_mem n hn
  obtain hl | hl := List.mem_append.1 hl
  · obtain ⟨p, hp, rfl⟩ := List.mem_map.1 hl
    exact ⟨p, hparents p hp, hnl, hsublist p hp⟩
  · rw [List.mem_singleton.1 hl] at hnl
    obtain ⟨p, hp, rfl⟩ := List.mem_map.1 hnl
    refine ⟨p, hparents p hp, ?_, hsublist p hp⟩
    rw [h.lineage p (hparents p hp)]
    exact List.mem_cons_self

theorem ordered_start : Ordered start where
  number_lt := by decide
  byNumber? := List.forall_mem_singleton.2 rfl
  lineage := List.forall_mem_singleton.2 rfl
  earlier := by decide
  nodup := by decide
  known := List.forall_mem_singleton.2 (List.forall_mem_singleton.2 ⟨rootClass, List.mem_singleton_self _, rfl⟩)
  sublist := List.forall_mem_singleton.2 (List.forall_mem_singleton.2 nofun)
  relations := List.forall_mem_singleton.2 rfl

theorem Ordered.declare (h : Ordered classes) (hroot : rootClass ∈ classes) (hc : declare d classes = .ok c) :
    Ordered (c :: classes) := by
  obtain ⟨parents, ancestors, hparents, hmerged, hnumber, hdeclaration, hlineage, hrelations⟩ := declare_eq_ok hc
  have hfrom := h.exists_parent (mem_of_parentsOf hroot hparents) hmerged
  have hknown : ∀ n ∈ ancestors, ∃ a ∈ classes, a.number = n := fun n hn => by
    obtain ⟨p, hp, hnp, -⟩ := hfrom n hn
    exact h.known p hp n hnp
  have hearlier : ∀ n ∈ ancestors, n < classes.length := fun n hn => by
    obtain ⟨a, ha, rfl⟩ := hknown n hn
    exact h.number_lt a ha
  have htail : c.lineage.tail = ancestors := by rw [hlineage, List.tail_cons]
  have hnew : ∀ a ∈ classes, c.number ∉ a.lineage := fun a ha hn =>
    Nat.ne_of_lt (h.lineage_lt ha _ hn) hnumber
  have hgrow : ∀ n, (∃ a ∈ classes, a.number = n) → ∃ a ∈ c :: classes, a.number = n :=
    fun n ⟨a, ha, hn⟩ => ⟨a, List.mem_cons_of_mem c ha, hn⟩
  constructor
  case number_lt =>
    refine List.forall_mem_cons.2 ⟨?_, fun a ha => Nat.lt_succ_of_lt (h.number_lt a ha)⟩
    rw [hnumber]
    exact Nat.lt_succ_self _
  case byNumber? =>
    refine List.forall_mem_cons.2 ⟨List.find?_cons_of_pos (by simp), fun a ha => ?_⟩
    rw [byNumber?_cons_of_lt hnumber (h.number_lt a ha)]
    exact h.byNumber? a ha
  case lineage =>
    refine List.forall_mem_cons.2 ⟨?_, h.lineage⟩
    rw [htail]
    exact hlineage
  case earlier =>
    refine List.forall_mem_cons.2 ⟨?_, h.earlier⟩
    rw [htail, hnumber]
    exact hearlier
  case nodup =>
    refine List.forall_mem_cons.2 ⟨?_, h.nodup⟩
    rw [hlineage, hnumber]
    exact List.nodup_cons.2 ⟨fun hn => Nat.lt_irrefl _ (hearlier _ hn), hmerged.nodup⟩
  case known =>
    refine List.forall_mem_cons.2 ⟨?_, fun a ha n hn => hgrow n (h.known a ha n hn)⟩
    rw [hlineage]
    exact List.forall_mem_cons.2 ⟨⟨c, List.mem_cons_self, rfl⟩, fun n hn => hgrow n (hknown n hn)⟩
  case sublist =>
    refine List.forall_mem_cons.2 ⟨?_, fun b hb => List.forall_mem_cons.2 ⟨fun hn => ?_, h.sublist b hb⟩⟩
    · rw [htail]
      refine List.forall_mem_cons.2 ⟨fun hn => ?_, fun a ha hn => ?_⟩
      · exact absurd hnumber (Nat.ne_of_lt (hearlier _ hn))
      · obtain ⟨p, hp, hap, hsublist⟩ := hfrom _ hn
        exact (h.lineage_sublist hp ha hap).trans hsublist
    · exact absurd (List.mem_of_mem_tail hn) (hnew b hb)
  case relations =>
    refine List.forall_mem_cons.2 ⟨?_, fun a ha => ?_⟩
    · rw [hrelations, hdeclaration, behind, htail, filterMap_byNumber?_cons hnumber hearlier]
    · rw [h.relations a ha, behind, behind,
        filterMap_byNumber?_cons hnumber fun n hn => h.lineage_lt ha n (List.mem_of_mem_tail hn)]

/-- However many classes have been declared, they are ordered. -/
theorem Declared.ordered (h : Declared classes) : Ordered classes := by
  induction h with
  | start => exact ordered_start
  | declare hclasses hc ih => exact ih.declare hclasses.rootClass_mem hc

theorem Declared.declareNext (h : Declared classes) (d : Declaration) : Declared (declareNext classes d) := by
  rw [Catalogue.declareNext]
  split
  · rename_i hc
    exact .declare h hc
  · exact h

theorem declared_declareAll (ds : List Declaration) : Declared (declareAll ds) :=
  List.foldlRecOn ds Catalogue.declareNext Declared.start fun _ h d _ => h.declareNext d

/-- The classes of a session are declared one after another. -/
theorem Declared.session {s : Session} (h : Declared s.classes) (d : Declaration) :
    Declared (s.declare d).2.classes := by
  have hnext : (s.declare d).2.classes = Catalogue.declareNext s.classes d := by
    rw [Session.declare, Catalogue.declareNext]
    cases Catalogue.declare d s.classes <;> rfl
  rw [hnext]
  exact h.declareNext d

/-! ### Orders -/

theorem Ordered.order_eq (h : Ordered classes) (hc : c ∈ classes) : classes.order c = c :: classes.behind c := by
  rw [order, h.lineage c hc, List.filterMap_cons, h.byNumber? c hc, behind]

theorem Ordered.self_mem_order (h : Ordered classes) (hc : c ∈ classes) : c ∈ classes.order c := by
  rw [h.order_eq hc]
  exact List.mem_cons_self

theorem Ordered.behind_sublist (h : Ordered classes) (hc : c ∈ classes) :
    (classes.behind c).Sublist (classes.order c) := by
  rw [h.order_eq hc]
  exact List.sublist_cons_self c _

theorem Ordered.mem_behind (h : Ordered classes) (hc : c ∈ classes) (ha : a ∈ classes.behind c) :
    a ∈ classes ∧ a.number < c.number := by
  obtain ⟨n, hn, hfind⟩ := List.mem_filterMap.1 ha
  obtain ⟨hmem, rfl⟩ := mem_of_byNumber? hfind
  exact ⟨hmem, h.earlier c hc _ hn⟩

/-- The order of a class is a part of that of any class that extends it. -/
theorem Ordered.order_sublist (h : Ordered classes) (hc : c ∈ classes) (ha : a ∈ classes.behind c) :
    (classes.order a).Sublist (classes.behind c) := by
  obtain ⟨n, hn, hfind⟩ := List.mem_filterMap.1 ha
  obtain ⟨hmem, rfl⟩ := mem_of_byNumber? hfind
  exact (h.sublist c hc a hmem hn).filterMap _

theorem Ordered.order_nodup (h : Ordered classes) (hc : c ∈ classes) : (classes.order c).Nodup := by
  refine List.Nodup.filterMap (fun n m a hn hm => ?_) (h.nodup c hc)
  rw [← (mem_of_byNumber? hn).2, (mem_of_byNumber? hm).2]

/-! ### Classes that extend one other -/

theorem Ordered.ancestors_singleton (h : Ordered classes) {p : ModelClass} (hp : p ∈ classes) {ancestors : List Nat}
    (hmerged : Merged [p.lineage, [p.number]] ancestors) : p.lineage = ancestors := by
  have hsubset : ancestors ⊆ p.lineage := by
    intro n hn
    obtain ⟨l, hl, hnl⟩ := hmerged.exists_mem n hn
    obtain rfl | hl := List.mem_cons.1 hl
    · exact hnl
    · rw [List.mem_singleton.1 hl, List.mem_singleton] at hnl
      rw [hnl, h.lineage p hp]
      exact List.mem_cons_self
  exact (hmerged.sublist _ List.mem_cons_self).eq_of_length_le
    (hmerged.nodup.subperm hsubset).length_le

/-- A class that names no more than one class extends one: the named one, or the one that all others extend. -/
theorem exists_eq_singleton_of_parentsOf (hlength : d.bases.length ≤ 1) (h : parentsOf d classes = .ok parents) :
    ∃ p, parents = [p] := by
  rw [parentsOf] at h
  split at h
  · exact ⟨rootClass, (Except.ok.inj h).symm⟩
  · rename_i hbases
    have hgets : List.Forall₂ (fun name p => classes.get name = .ok p) d.bases parents := mapM_eq_ok.1 h
    rw [← List.length_eq_one_iff, ← hgets.length_eq]
    exact Nat.le_antisymm hlength (List.length_pos_of_ne_nil fun hnil => hbases (List.isEmpty_iff.2 hnil))

/-- Behind a class that extends one other stands the lineage of that. -/
theorem Declared.lineage_single (h : Declared classes) (hsingle : ∀ a ∈ classes, a.declaration.bases.length ≤ 1) :
    ∀ c ∈ classes, c.lineage.tail = [] ∨ ∃ p ∈ classes, p.lineage = c.lineage.tail := by
  induction h with
  | start => exact List.forall_mem_singleton.2 (.inl rfl)
  | @declare classes d c hclasses hc ih =>
    obtain ⟨hlength, hsingle⟩ := List.forall_mem_cons.1 hsingle
    obtain ⟨parents, ancestors, hparents, hmerged, -, rfl, hlineage, -⟩ := declare_eq_ok hc
    obtain ⟨p, rfl⟩ := exists_eq_singleton_of_parentsOf hlength hparents
    have hp : p ∈ classes := mem_of_parentsOf hclasses.rootClass_mem hparents p List.mem_cons_self
    refine List.forall_mem_cons.2 ⟨.inr ⟨p, List.mem_cons_of_mem c hp, ?_⟩, fun a ha => ?_⟩
    · rw [hlineage, List.tail_cons]
      exact hclasses.ordered.ancestors_singleton hp hmerged
    · obtain hnil | ⟨p, hp, hlineage⟩ := ih hsingle a ha
      · exact .inl hnil
      · exact .inr ⟨p, List.mem_cons_of_mem c hp, hlineage⟩

end

end Catalogue

end RecordMapper
