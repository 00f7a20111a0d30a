import RecordMapper.Proofs.ParentCasts

/-!
Several relations of one read. Each is loaded for the rows as the store gave them, but they are put into one row after
another: a relation finds its rows by a key that an earlier relation may have replaced by what it puts in. Main
statement: if equal statements get equal answers, several relations can be read exactly if each of them can be read
alone, and each puts in what it does alone unless an earlier one goes by the name of its parent key. So where none of
them does, their order does not matter.
-/
namespace RecordMapper

open Hydration

/-- The result of a read whose statements are answered by a function. -/
def Terminal.ReadFrom (store : Question → Except Failure Answer) (env : Surroundings) (s : Schema) (i : Intent)
    (x : Except Failure Answer) : Prop :=
  ∃ sys, (read env.classes maxDepth s { i with action := .known .select }).AnsweredBy store sys ∧
    ((Terminal.runRead env s i).perform sys).1 = x

/-- The relations before one. -/
def earlier (relations : List Relation) (r : Relation) : List Relation :=
  relations.takeWhile fun q => q.identifier != r.identifier

/-- No relation before this one goes by the name of its parent key. -/
def Unshadowed (relations : List Relation) (r : Relation) : Prop :=
  r.parentKey ∉ (earlier relations r).map Relation.identifier

instance (relations : List Relation) (r : Relation) : Decidable (Unshadowed relations r) :=
  inferInstanceAs (Decidable (¬_))

/-- The result has rows in it. -/
def HasRows (x : Except Failure Answer) : Prop := ∃ out, x = .ok (.rows out)

/-- Two results that have rows have the same in a column of theirs. -/
def SameColumn (column : String) (x y : Except Failure Answer) : Prop :=
  ∀ out out', x = .ok (.rows out) → y = .ok (.rows out') → out.map (Row.value? column) = out'.map (Row.value? column)

/-- What a read with these relations comes to, if its statements are answered by a function. -/
def Hydration.answerWith (classes : Catalogue) (fuel : Nat) (store : Question → Except Failure Answer) (s : Schema)
    (i : Intent) (relations : List Relation) : Except Failure Answer :=
  ((read classes fuel s { i with relations := relations }).answer store).result

theorem earlier_append {before after : List Relation} {r : Relation}
    (h : r.identifier ∉ before.map Relation.identifier) : earlier (before ++ r :: after) r = before := by
  have hother : ∀ q ∈ before, (q.identifier != r.identifier) = true := fun q hq =>
    bne_iff_ne.2 fun he => h (he ▸ List.mem_map_of_mem hq)
  rw [earlier, List.takeWhile_append_of_pos hother, List.takeWhile_cons_of_neg (by simp), List.append_nil]

theorem Terminal.ReadFrom.eq_answerWith {store : Question → Except Failure Answer} {env : Surroundings} {s : Schema}
    {i : Intent} {relations : List Relation} {x : Except Failure Answer}
    (h : Terminal.ReadFrom store env s { i with relations := relations } x) :
    x = answerWith env.classes maxDepth store s { i with action := .known .select } relations := by
  obtain ⟨sys, hanswered, hx⟩ := h
  obtain ⟨t, ht⟩ := hanswered.perform
  rw [← hx, Terminal.perform_runRead ht]
  rfl

namespace Hydration

section Loaded

variable (classes : Catalogue) (reader : Reader) (store : Question → Except Failure Answer) (s : Schema)
  (raw : List Row)

/-- What loading a relation comes to. -/
def loaded (r : Relation) : Except Failure (Relation × Related) := ((load classes reader raw r).answer store).result

variable {classes reader store s raw}

/-- A relation comes back with what belongs to it. -/
theorem fst_of_loaded {r : Relation} {p : Relation × Related} (h : loaded classes reader store raw r = .ok p) :
    p.1 = r :=
  (gives_load classes reader raw r).answer store p h

theorem map_fst_of_mapM_loaded {relations : List Relation} {hydrated : List (Relation × Related)}
    (h : relations.mapM (loaded classes reader store raw) = .ok hydrated) : hydrated.map Prod.fst = relations := by
  have hall := mapM_eq_ok.1 h
  clear h
  induction hall with
  | nil => rfl
  | cons hr _ ih => rw [List.map_cons, fst_of_loaded hr, ih]

/-- Rows with relations are there if each relation is and the rows can be cast. -/
theorem finish_eq_rows {relations : List Relation} (hraw : raw ≠ []) (hrelations : relations ≠ []) {out : List Row} :
    ((finish classes reader s relations raw).answer store).result = .ok (.rows out) ↔
      ∃ hydrated cast, relations.mapM (loaded classes reader store raw) = .ok hydrated ∧
        raw.mapM (Casts.apply .fromStorage s.castList) = .ok cast ∧
        out = cast.map fun row => Row.hide s.hidden (attach hydrated row) := by
  have hsome : (raw.isEmpty || relations.isEmpty) = false := by simp [hraw, hrelations]
  have hhydrate : ((hydrate classes reader raw relations).answer store) =
      gather (relations.map fun r => (load classes reader raw r).answer store) := by
    rw [hydrate, if_neg (by simpa using hrelations), Rounds.answer_map, Rounds.answer_together, List.map_map]
    rfl
  have hloaded {hydrated : List (Relation × Related)} : (gather (relations.map fun r =>
      (load classes reader raw r).answer store)).result = .ok hydrated ↔
        relations.mapM (loaded classes reader store raw) = .ok hydrated := by
    rw [result_gather_eq_ok, List.mapM_map]
    rfl
  rw [finish, hsome, if_neg Bool.false_ne_true, Rounds.answer_map, hhydrate]
  refine finished_eq_ok.trans ?_
  simp only [hloaded, Answer.rows.injEq]

/-- A relation puts in what it does alone, if none before it goes by the name of its parent key. -/
theorem value?_attach_alone {bs as : List (Relation × Related)} {p : Relation × Related}
    (hkey : p.1.parentKey ∉ bs.map fun b => b.1.identifier) (hname : p.1.identifier ∉ as.map fun a => a.1.identifier)
    (row : Row) : Row.value? p.1.identifier (attach (bs ++ p :: as) row) =
      Row.value? p.1.identifier (attach [p] row) := by
  obtain ⟨r, related⟩ := p
  have hsame : Row.value (attach bs row) r.parentKey = Row.value row r.parentKey := by
    rw [Row.value, Row.value, value?_attach_of_notMem row hkey]
  have halone := value?_attach [] [] r related row List.not_mem_nil
  rw [value?_attach bs as r related row hname, valueFor_congr r related (congrArg keyOf hsame)]
  exact halone.symm

/-- Several relations of some rows can be finished if each of them alone can be. -/
theorem hasRows_finish {relations : List Relation} (hrelations : relations ≠ []) :
    HasRows ((finish classes reader s relations raw).answer store).result ↔
      ∀ r ∈ relations, HasRows ((finish classes reader s [r] raw).answer store).result := by
  by_cases hraw : raw = []
  · -- without rows nothing is loaded
    subst hraw
    exact ⟨fun _ r _ => ⟨[], rfl⟩, fun _ => ⟨[], rfl⟩⟩
  have hall (relations : List Relation) (h : relations ≠ []) :
      HasRows ((finish classes reader s relations raw).answer store).result ↔
        (∀ r ∈ relations, ∃ p, loaded classes reader store raw r = .ok p) ∧
          ∃ cast, raw.mapM (Casts.apply .fromStorage s.castList) = .ok cast := by
    rw [← exists_mapM_eq_ok]
    constructor
    · rintro ⟨out, hout⟩
      obtain ⟨hydrated, cast, hhydrated, hcast, -⟩ := (finish_eq_rows hraw h).1 hout
      exact ⟨⟨hydrated, hhydrated⟩, cast, hcast⟩
    · rintro ⟨⟨hydrated, hhydrated⟩, cast, hcast⟩
      exact ⟨_, (finish_eq_rows hraw h).2 ⟨hydrated, cast, hhydrated, hcast, rfl⟩⟩
  obtain ⟨first, hfirst⟩ := List.exists_mem_of_ne_nil relations hrelations
  rw [hall relations hrelations]
  constructor
  · rintro ⟨hloaded, hcast⟩ r hr
    exact (hall [r] (List.cons_ne_nil r [])).2 ⟨fun q hq => hloaded q (List.mem_singleton.1 hq ▸ hr), hcast⟩
  · intro halone
    have hone (r : Relation) (hr : r ∈ relations) := (hall [r] (List.cons_ne_nil r [])).1 (halone r hr)
    exact ⟨fun r hr => (hone r hr).1 r (List.mem_singleton_self r), (hone first hfirst).2⟩

/-- Each of several relations gives some rows what it gives them alone, if none before it goes by the name of its parent
key. -/
theorem sameColumn_finish {relations : List Relation} (hnames : (relations.map Relation.identifier).Nodup)
    {r : Relation} (hr : r ∈ relations) (hkey : Unshadowed relations r) :
    SameColumn r.identifier ((finish classes reader s relations raw).answer store).result
      ((finish classes reader s [r] raw).answer store).result := by
  intro out out' hout hout'
  by_cases hraw : raw = []
  · subst hraw
    cases hout
    cases hout'
    rfl
  obtain ⟨before, after, rfl⟩ := List.append_of_mem hr
  obtain ⟨hydrated, cast, hhydrated, hcast, rfl⟩ := (finish_eq_rows hraw (by simp)).1 hout
  obtain ⟨hydrated', cast', hhydrated', hcast', rfl⟩ := (finish_eq_rows hraw (by simp)).1 hout'
  obtain ⟨bs, p, as, hbs, hp, has, rfl⟩ := mapM_append_cons_eq_ok.1 hhydrated
  obtain ⟨p', rest, hp', hrest, rfl⟩ := List.forall₂_cons_left_iff.1 (mapM_eq_ok.1 hhydrated')
  cases hrest
  cases hp.symm.trans hp'
  cases hcast.symm.trans hcast'
  have hbefore : bs.map (fun b => b.1.identifier) = before.map Relation.identifier := by
    rw [← map_fst_of_mapM_loaded hbs, List.map_map]
    rfl
  have hafter : as.map (fun a => a.1.identifier) = after.map Relation.identifier := by
    rw [← map_fst_of_mapM_loaded has, List.map_map]
    rfl
  rw [List.map_append, List.map_cons, List.nodup_append] at hnames
  obtain ⟨-, hlater, hdisjoint⟩ := hnames
  have hname : r.identifier ∉ after.map Relation.identifier := (List.nodup_cons.1 hlater).1
  rw [Unshadowed, earlier_append fun hmem => hdisjoint _ hmem _ List.mem_cons_self rfl, ← hbefore] at hkey
  have hfst : p.1 = r := fst_of_loaded hp
  subst hfst
  rw [List.map_map, List.map_map]
  refine List.map_congr_left fun row _ => ?_
  have halone := value?_attach_alone hkey (hafter ▸ hname) row
  simp only [Function.comp, Row.value?_hide, halone]

end Loaded

/-! ### Whole reads -/

section Whole

variable (classes : Catalogue) (fuel : Nat) (store : Question → Except Failure Answer) (s : Schema) (i : Intent)

/-- Whatever the relations of a read are, the store gives the same rows for it, or none. -/
theorem answerWith_cases :
    (∀ relations, ¬HasRows (answerWith classes fuel store s i relations)) ∨
      ∃ reader raw, ∀ relations, answerWith classes fuel store s i relations =
        ((finish classes reader s relations raw).answer store).result := by
  cases fuel with
  | zero => exact .inl fun _ hrows => by obtain ⟨out, hout⟩ := hrows; cases hout
  | succ fuel =>
    have hcompile (relations : List Relation) :
        ({ i with relations := relations } : Intent).compile s.tableName = i.compile s.tableName := rfl
    simp only [answerWith, read, hcompile]
    cases i.compile s.tableName with
    | error e => exact .inl fun _ hrows => by obtain ⟨out, hout⟩ := hrows; cases hout
    | ok l =>
      simp only [Rounds.answer, List.map_singleton]
      cases store ⟨l.sql, l.bindings⟩ with
      | error e => exact .inl fun _ hrows => by obtain ⟨out, hout⟩ := hrows; cases hout
      | ok answer =>
        dsimp only
        cases hraw : rows? answer with
        | some raw => exact .inr ⟨read classes fuel, raw, fun _ => rfl⟩
        | none =>
          -- an answer without rows is passed on as it is
          refine .inl ?_
          rintro _ ⟨out, hout⟩
          simp only [Rounds.answer] at hout
          split at hout
          · cases hout
          · cases Except.ok.inj hout
            cases hraw

variable {classes fuel store s i} {relations : List Relation}

theorem hasRows_answerWith (hrelations : relations ≠ []) :
    HasRows (answerWith classes fuel store s i relations) ↔
      ∀ r ∈ relations, HasRows (answerWith classes fuel store s i [r]) := by
  obtain ⟨r, hr⟩ := List.exists_mem_of_ne_nil relations hrelations
  rcases answerWith_cases classes fuel store s i with hnone | ⟨reader, raw, hraw⟩
  · exact ⟨fun h => (hnone relations h).elim, fun h => (hnone [r] (h r hr)).elim⟩
  · simp only [hraw]
    exact hasRows_finish hrelations

theorem sameColumn_answerWith (hnames : (relations.map Relation.identifier).Nodup) {r : Relation} (hr : r ∈ relations)
    (hkey : Unshadowed relations r) :
    SameColumn r.identifier (answerWith classes fuel store s i relations) (answerWith classes fuel store s i [r]) := by
  rcases answerWith_cases classes fuel store s i with hnone | ⟨reader, raw, hraw⟩
  · exact fun out _ hout _ => (hnone relations ⟨out, hout⟩).elim
  · rw [hraw, hraw]
    exact sameColumn_finish hnames hr hkey

end Whole

end Hydration

theorem SameColumn.trans {column : String} {x y z : Except Failure Answer} (hy : HasRows y)
    (hxy : SameColumn column x y) (hyz : SameColumn column y z) : SameColumn column x z := by
  intro out out' hout hout'
  obtain ⟨between, hbetween⟩ := hy
  exact (hxy out between hout hbetween).trans (hyz between out' hbetween hout')

theorem SameColumn.symm {column : String} {x y : Except Failure Answer} (h : SameColumn column x y) :
    SameColumn column y x :=
  fun out out' hout hout' => (h out' out hout' hout).symm

/-- The relations of a read do not interfere, except by their names. If equal statements get equal answers, a read has
rows exactly if it has rows with each of its relations alone; and what a relation puts into them is what it puts in
alone, unless a relation before it goes by the name of its parent key. So another order of the relations gives the same,
for each relation that has no such relation before it in either order. -/
theorem attached_as_alone {store : Question → Except Failure Answer} {env : Surroundings} {s : Schema} {i : Intent}
    {relations : List Relation} (hnames : (relations.map Relation.identifier).Nodup) {x : Except Failure Answer}
    (hx : Terminal.ReadFrom store env s { i with relations := relations } x) {alone : Relation → Except Failure Answer}
    (halone : ∀ r ∈ relations, Terminal.ReadFrom store env s { i with relations := [r] } (alone r)) :
    (relations ≠ [] → (HasRows x ↔ ∀ r ∈ relations, HasRows (alone r))) ∧
      (∀ r ∈ relations, Unshadowed relations r → SameColumn r.identifier x (alone r)) ∧
      ∀ reordered y, reordered.Perm relations →
        Terminal.ReadFrom store env s { i with relations := reordered } y →
        (HasRows x ↔ HasRows y) ∧ ∀ r ∈ relations, Unshadowed relations r → Unshadowed reordered r →
          SameColumn r.identifier x y := by
  have hsucceeds : relations ≠ [] → (HasRows x ↔ ∀ r ∈ relations, HasRows (alone r)) := fun h => by
    rw [hx.eq_answerWith, hasRows_answerWith h]
    exact forall₂_congr fun r hr => by rw [(halone r hr).eq_answerWith]
  have hcolumn : ∀ r ∈ relations, Unshadowed relations r → SameColumn r.identifier x (alone r) := fun r hr hkey => by
    rw [hx.eq_answerWith, (halone r hr).eq_answerWith]
    exact sameColumn_answerWith hnames hr hkey
  refine ⟨hsucceeds, hcolumn, fun reordered y hperm hy => ?_⟩
  have hnames' : (reordered.map Relation.identifier).Nodup := (hperm.map _).nodup_iff.2 hnames
  have hrows : HasRows x ↔ HasRows y := by
    by_cases hnone : relations = []
    · subst hnone
      cases hperm.eq_nil
      rw [hx.eq_answerWith, hy.eq_answerWith]
    · have hsome : reordered ≠ [] := fun h => hnone (h ▸ hperm).symm.eq_nil
      rw [hx.eq_answerWith, hy.eq_answerWith, hasRows_answerWith hnone, hasRows_answerWith hsome]
      exact forall_congr' fun r => by rw [hperm.mem_iff]
  refine ⟨hrows, fun r hr hkey hkey' => ?_⟩
  have hcolumn' : SameColumn r.identifier y (alone r) := by
    rw [hy.eq_answerWith, (halone r hr).eq_answerWith]
    exact sameColumn_answerWith hnames' (hperm.mem_iff.2 hr) hkey'
  intro out out' hout hout'
  have hboth : HasRows (alone r) := (hsucceeds (List.ne_nil_of_mem hr)).1 ⟨out, hout⟩ r hr
  exact (hcolumn r hr hkey).trans hboth hcolumn'.symm out out' hout hout'

/-- Users, their teams and the badges of the teams. -/
def teamClasses : Catalogue :=
  [⟨1, { name := "Team" }, [1, 0], { Schema.root with name := "Team", table := some "teams" }⟩,
   ⟨2, { name := "Badge" }, [2, 0], { Schema.root with name := "Badge", table := some "badges" }⟩]

/-- The team of each of some users, by the column that the relation is named for. -/
def teamOfUsers : Relation := ⟨1, "team", "id", "team", .belongsTo, none⟩

/-- The badges of the team of each of some users. -/
def badgesOfUsers : Relation := ⟨2, "team", "team", "badges", .hasMany, none⟩

/-- A store of one user, one team and one badge. -/
def storeOfTeams (q : Question) : Except Failure Answer :=
  if q.sql = "SELECT users.* FROM users" then .ok (.rows [[("id", .int 1), ("team", .int 7)]])
  else if q.sql = "SELECT teams.* FROM teams WHERE teams.id IN (?)" then
    .ok (.rows [[("id", .int 7), ("name", .text "red")]])
  else .ok (.rows [[("id", .int 3), ("team", .int 7)]])

/-- A script of what this store gives for users with these relations. -/
def scriptOfTeams (relations : List Relation) : System :=
  answering ([[("id", .int 1), ("team", .int 7)]] :: relations.map fun r =>
    if r.model = 1 then [[("id", .int 7), ("name", .text "red")]] else [[("id", .int 3), ("team", .int 7)]])

/-- The result of reading these users with these relations. -/
def ReadsUsers (relations : List Relation) (x : Except Failure Answer) : Prop :=
  Terminal.ReadFrom storeOfTeams ⟨teamClasses, default⟩ userSchema { Intent.empty with relations := relations } x

/-- Users as they are read with these relations. -/
def usersWith (relations : List Relation) : Except Failure Answer :=
  ((Terminal.runRead ⟨teamClasses, default⟩ userSchema { Intent.empty with relations := relations }).perform
    (scriptOfTeams relations)).1

/-- The badges, put in before the team, are those that are put in alone. -/
theorem users_with_badges_and_team :
    HasRows (usersWith [badgesOfUsers, teamOfUsers]) ∧ ∀ r ∈ [badgesOfUsers, teamOfUsers],
      SameColumn r.identifier (usersWith [badgesOfUsers, teamOfUsers]) (usersWith [r]) := by
  have hread : ReadsUsers [badgesOfUsers, teamOfUsers] (usersWith [badgesOfUsers, teamOfUsers]) :=
    ⟨scriptOfTeams [badgesOfUsers, teamOfUsers], ⟨rfl, rfl, trivial⟩, rfl⟩
  have halone : ∀ r ∈ [badgesOfUsers, teamOfUsers], ReadsUsers [r] (usersWith [r]) := by
    simp only [List.forall_mem_cons, List.not_mem_nil, false_implies, implies_true, and_true]
    exact ⟨⟨scriptOfTeams [badgesOfUsers], ⟨rfl, rfl, trivial⟩, rfl⟩,
      ⟨scriptOfTeams [teamOfUsers], ⟨rfl, rfl, trivial⟩, rfl⟩⟩
  obtain ⟨-, hcolumn, -⟩ := attached_as_alone (by decide) hread halone
  exact ⟨⟨_, rfl⟩, fun r hr => hcolumn r hr (by revert r; decide)⟩

/-- The team, put in before the badges, takes the place of the key that the badges are found by. -/
theorem users_lose_badges_behind_team :
    ∃ o o', ReadsUsers [badgesOfUsers] (.ok (.rows [o])) ∧ ReadsUsers [teamOfUsers, badgesOfUsers] (.ok (.rows [o'])) ∧
      Row.value? "badges" o = some (.list [.dict [(.text "id", .int 3), (.text "team", .int 7)]]) ∧
      Row.value? "badges" o' = some (.list []) :=
  ⟨_, _, ⟨scriptOfTeams [badgesOfUsers], ⟨rfl, rfl, trivial⟩, rfl⟩,
    ⟨scriptOfTeams [teamOfUsers, badgesOfUsers], ⟨rfl, rfl, trivial⟩, rfl⟩, rfl, rfl⟩

end RecordMapper
