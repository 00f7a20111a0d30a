import RecordMapper.Proofs.KeyLookup
import RecordMapper.Proofs.LimitedWrites
import RecordMapper.Proofs.WrittenRecords

/-!
Orders of clauses in updates and deletes. The clauses of a chain stand behind the beginning of its statement, whichever
it is, in the order in which a read has them. Main statement: the statement that an update or a delete sends has its
clauses in an order that MySQL admits exactly if the chain has no joins, no groups and no offset.
-/
namespace RecordMapper

/-- The clauses of updates and deletes. A deletion is one from a single table. -/
inductive ClauseKind where
  | update | deletion | join | assignments | conditions | groups | order | limit | offset
  deriving DecidableEq

/-- Orders of clauses that MySQL admits in updates, of one table or of joined ones, and in deletes. -/
inductive Admitted : List ClauseKind → Prop
  | update {rest : List ClauseKind} (h : rest.Sublist [.conditions, .order, .limit]) :
    Admitted (.update :: .assignments :: rest)
  | joinedUpdate {n : Nat} {rest : List ClauseKind} (h : rest.Sublist [.conditions]) :
    Admitted (.update :: List.replicate (n + 1) .join ++ .assignments :: rest)
  | deletion {rest : List ClauseKind} (h : rest.Sublist [.conditions, .order, .limit]) : Admitted (.deletion :: rest)

namespace Written

open Compile (joinText grouping ordering)

section
variable (r : Value → String) (table : String) (i : Intent)

/-- The joins as clauses. -/
def joinClauses : List (ClauseKind × String) := i.joins.map fun j => (.join, joinText table j)

/-- The conditions as a clause, if there are any. -/
def conditionClauses : List (ClauseKind × String) :=
  if i.conditions.isEmpty then [] else [(.conditions, conditions r table i.conditions)]

/-- The groups as a clause, if there are any. -/
def groupClauses : List (ClauseKind × String) := if i.groupBy.isEmpty then [] else [(.groups, grouping i)]

/-- The order as a clause, if there is one. -/
def orderClauses : List (ClauseKind × String) := i.order.toList.map fun _ => (.order, ordering table i)

/-- The offset as a clause, if it counts. -/
def offsetClauses : List (ClauseKind × String) :=
  if i.offset.isTruthy then [(.offset, " OFFSET " ++ r (whole i.offset))] else []

/-- The limit as a clause, and behind it the offset, if the limit counts. -/
def limitClauses : List (ClauseKind × String) :=
  if i.limit.isTruthy then (.limit, " LIMIT " ++ r (whole i.limit)) :: offsetClauses r i else []

/-- The clauses that a chain has, in the order in which every statement has them. -/
def chainClauses : List (ClauseKind × String) :=
  joinClauses table i ++ conditionClauses r table i ++ groupClauses i ++ orderClauses table i ++ limitClauses r i

/-- The clauses of an update or a delete. -/
def clauses : List (ClauseKind × String) :=
  match i.action with
  | .known .update => (.update, "UPDATE " ++ table) :: (.assignments, " SET " ++ assignments r (i.data.getD [])) ::
      chainClauses r table i
  | .known .delete => (.deletion, "DELETE FROM " ++ table) :: chainClauses r table i
  | _ => []

end

variable {r : Value → String} {table : String} {i : Intent}

/-! ### The statement that clauses make -/

theorem join_conditionClauses : String.join ((conditionClauses r table i).map Prod.snd) =
    conditions r table i.conditions := by
  rw [conditionClauses]
  cases i.conditions with
  | nil => rfl
  | cons c cs => simp

theorem join_groupClauses : String.join ((groupClauses i).map Prod.snd) = grouping i := by
  rw [groupClauses, grouping]
  split
  · rfl
  · simp

theorem join_orderClauses : String.join ((orderClauses table i).map Prod.snd) = ordering table i := by
  rw [orderClauses, ordering]
  cases i.order with
  | none => rfl
  | some o => simp

theorem join_limitClauses : String.join ((limitClauses r i).map Prod.snd) = range r i := by
  rw [limitClauses, range, offsetClauses]
  split
  · rw [List.map_cons, String.join_cons]
    split <;> simp
  · rfl

/-- An update or a delete is made of its clauses. -/
theorem join_clauses {a : Action} (haction : i.action = .known a) (ha : a = .update ∨ a = .delete) :
    String.join ((clauses r table i).map Prod.snd) = i.written r table := by
  have hchain : String.join ((chainClauses r table i).map Prod.snd) = String.join (i.joins.map (joinText table)) ++
      conditions r table i.conditions ++ grouping i ++ ordering table i ++ range r i := by
    have hjoins : (joinClauses table i).map Prod.snd = i.joins.map (joinText table) := List.map_map
    simp only [chainClauses, List.map_append, String.join_append, hjoins, join_conditionClauses, join_groupClauses,
      join_orderClauses, join_limitClauses]
  rw [Intent.written, clauses, haction]
  rcases ha with rfl | rfl
  all_goals simp only [List.map_cons, String.join_cons, hchain, head, String.append_assoc]

/-! ### Orders that are admitted -/

/-- The clauses of a chain may stand in a statement that MySQL admits, unless there are joins, groups or an offset. -/
theorem sublist_chainClauses_iff :
    ((chainClauses r table i).map Prod.fst).Sublist [.conditions, .order, .limit] ↔
      i.joins = [] ∧ i.groupBy = [] ∧ ¬ (i.limit.isTruthy = true ∧ i.offset.isTruthy = true) := by
  constructor
  · intro h
    have hnone {k : ClauseKind} (hk : k ∉ [.conditions, .order, .limit]) : k ∉ (chainClauses r table i).map Prod.fst :=
      fun hmem => hk (h.subset hmem)
    refine ⟨?_, ?_, ?_⟩
    · cases hjoins : i.joins with
      | nil => rfl
      | cons j js => exact absurd (by simp [chainClauses, joinClauses, hjoins]) (hnone (k := .join) (by decide))
    · cases hgroups : i.groupBy with
      | nil => rfl
      | cons c cs => exact absurd (by simp [chainClauses, groupClauses, hgroups]) (hnone (k := .groups) (by decide))
    · rintro ⟨hlimit, hoffset⟩
      exact absurd (by simp [chainClauses, limitClauses, offsetClauses, hlimit, hoffset])
        (hnone (k := .offset) (by decide))
  · rintro ⟨hjoins, hgroups, hrange⟩
    have hconditions : ((conditionClauses r table i).map Prod.fst).Sublist [.conditions] := by
      rw [conditionClauses]
      split <;> simp
    have horder : ((orderClauses table i).map Prod.fst).Sublist [.order] := by
      rw [orderClauses]
      cases i.order <;> simp
    have hlimit : ((limitClauses r i).map Prod.fst).Sublist [.limit] := by
      rw [limitClauses, offsetClauses]
      split
      · rename_i hlimit
        rw [if_neg fun hoffset => hrange ⟨hlimit, hoffset⟩]
        exact List.Sublist.refl _
      · exact List.nil_sublist _
    have hkinds : (chainClauses r table i).map Prod.fst = (conditionClauses r table i).map Prod.fst ++
        (orderClauses table i).map Prod.fst ++ (limitClauses r i).map Prod.fst := by
      simp [chainClauses, joinClauses, groupClauses, hjoins, hgroups]
    rw [hkinds]
    exact (hconditions.append horder).append hlimit

theorem admitted_update_iff {rest : List ClauseKind} :
    Admitted (.update :: .assignments :: rest) ↔ rest.Sublist [.conditions, .order, .limit] := by
  constructor
  · intro h
    cases h with
    | update h => exact h
  · exact .update

theorem admitted_deletion_iff {rest : List ClauseKind} :
    Admitted (.deletion :: rest) ↔ rest.Sublist [.conditions, .order, .limit] := by
  constructor
  · intro h
    cases h with
    | deletion h => exact h
  · exact .deletion

theorem admitted_clauses_iff {a : Action} (haction : i.action = .known a) (ha : a = .update ∨ a = .delete) :
    Admitted ((clauses r table i).map Prod.fst) ↔
      i.joins = [] ∧ i.groupBy = [] ∧ ¬ (i.limit.isTruthy = true ∧ i.offset.isTruthy = true) := by
  rw [clauses, haction]
  rcases ha with rfl | rfl
  · exact admitted_update_iff.trans sublist_chainClauses_iff
  · exact admitted_deletion_iff.trans sublist_chainClauses_iff

end Written

namespace Terminal

variable {env : Surroundings} {s : Schema} {i j : Intent} {t : Terminal}

/-- An update or a delete has the clauses of its chain. -/
theorem query?_isLimited (ht : t.isLimited = true) (h : t.query? env s i = some j) :
    j.joins = i.joins ∧ j.groupBy = i.groupBy ∧ ∃ a, j.action = .known a ∧ (a = .update ∨ a = .delete) := by
  cases t with
  | update data =>
    obtain ⟨written, -, h⟩ := Option.bind_eq_some_iff.1 h
    split at h
    · cases h
    · cases h
      rw [Contents.withoutDeleted_eq]
      exact ⟨rfl, rfl, .update, rfl, .inl rfl⟩
  | delete =>
    rw [query?] at h
    split at h
    · cases h
      exact ⟨rfl, rfl, .delete, rfl, .inr rfl⟩
    · split at h
      · cases h
      · cases h
        exact ⟨rfl, rfl, .update, rfl, .inl rfl⟩
  | forceDelete =>
    cases h
    exact ⟨rfl, rfl, .delete, rfl, .inr rfl⟩
  | _ => cases ht

theorem reachesRows_of_isLimited (ht : t.isLimited = true) : t.reachesRows = true ∧ t ≠ .get := by
  cases t with
  | update | delete | forceDelete => exact ⟨rfl, nofun⟩
  | _ => cases ht

/-- An update or a delete does to the system what the statement of its query does, if there is one, and else nothing. -/
theorem system_of_isLimited (ht : t.isLimited = true) (sys : System) : ((t.perform env s i).perform sys).2 =
    match t.query? env s i with
    | none => sys
    | some j => match j.compile s.tableName with
      | .error _ => sys
      | .ok l => ((Client.execute l.sql l.bindings).perform sys).2 := by
  obtain ⟨hreaches, hget⟩ := reachesRows_of_isLimited ht
  have hlog := @log_writing env s i sys t hreaches hget
  rw [(t.scripted env s i).performs]
  cases hquery : t.query? env s i with
  | none =>
    rw [hquery] at hlog
    exact Script.perform_of_log_nil hlog
  | some j =>
    rw [hquery] at hlog
    dsimp only at hlog ⊢
    rw [log_scriptedWrite] at hlog
    cases hl : j.compile s.tableName with
    | error e =>
      rw [hl] at hlog
      exact Script.perform_of_log_nil hlog
    | ok l =>
      rw [hl] at hlog
      exact (Script.perform_of_log_singleton hlog).2

end Terminal

/-- The end of any chain by an update or a delete. What is sent, if there is anything to write and a condition, is one
statement, as often as it is tried. It is made of its clauses; and these are in an order that MySQL admits exactly if
the chain has no joins, no groups, and no offset that counts. -/
theorem writes_admitted_iff (s : Schema) (classes : Catalogue) (calls : List ChainCall) {t : Terminal}
    (ht : t.isLimited = true) (env : Surroundings) (sys : System) :
    let m := Model.called classes ⟨s, .empty⟩ calls
    let finished := (m.finish env t (Session.fresh sys)).2
    match t.query? env s m.intent with
    | none => finished.2 = Session.fresh sys
    | some j => match j.compile s.tableName with
      | .error _ => finished.2 = Session.fresh sys
      | .ok l =>
        finished.2 = ((Client.execute l.sql l.bindings).perform (Session.fresh sys)).2 ∧
          (∀ x ∈ finished.2.store.requests,
            x = openingRequest ∨ sys.adapter.kind.request l.sql l.bindings = .ok x) ∧
          ∀ r : Value → String, l.render r = String.join ((Written.clauses r s.tableName j).map Prod.snd) ∧
            (Admitted ((Written.clauses r s.tableName j).map Prod.fst) ↔ m.intent.joins = [] ∧ m.intent.groupBy = [] ∧
              ¬ (m.intent.limit.isTruthy = true ∧ m.intent.offset.isTruthy = true)) := by
  intro m finished
  have hraw : m.intent.rawQuery = none := (Chain.isChained_called classes s calls).rawQuery
  have hfinished : finished = (t.perform env s m.intent).perform (Session.fresh sys) := Chain.finish_called ..
  have hsystem := @Terminal.system_of_isLimited env s m.intent t ht (Session.fresh sys)
  rw [← hfinished] at hsystem
  cases hquery : t.query? env s m.intent with
  | none =>
    rw [hquery] at hsystem
    exact hsystem
  | some j =>
    obtain ⟨hjoins, hgroups, a, haction, ha⟩ := Terminal.query?_isLimited ht hquery
    obtain ⟨hraw', hlimit, hoffset, -⟩ := Terminal.query?_eq_some hquery
    rw [hquery] at hsystem
    dsimp only at hsystem ⊢
    cases hl : j.compile s.tableName with
    | error e =>
      rw [hl] at hsystem
      exact hsystem
    | ok l =>
      rw [hl] at hsystem
      obtain ⟨b, hb, hstatement⟩ := (Intent.compile_eq_ok (by rw [hraw', hraw]; rfl)).1 hl
      refine ⟨hsystem, ?_, fun r => ⟨?_, ?_⟩⟩
      · rw [hsystem]
        exact Client.requests_execute rfl l
      · rw [Compile.render_statement r hb hstatement, Written.join_clauses haction ha]
      · rw [Written.admitted_clauses_iff haction ha, hjoins, hgroups, hlimit, hoffset]

/-- The system after users that are chosen by these calls are updated or deleted. -/
def writeAfter (calls : List ChainCall) (t : Terminal) : System :=
  ((usersAfter calls).finish ⟨.start, default⟩ t (Session.fresh connectedPlain)).2.2

/-- Users above an age are updated in order, two of them. -/
theorem limited_update_admitted :
    let calls := [ChainCall.orderBy "id" (.text "DESC"), .limit (.int 2) (.int 0),
      .whereArgs .and [.text "age", .text ">", .int 40]]
    let t := Terminal.update [("age", .int 41)]
    t.isLimited = true ∧
      (writeAfter calls t).store.requests =
        [("UPDATE users SET age = ?, updated_at = ? WHERE users.age > ? ORDER BY users.id DESC LIMIT ?",
          some [.int 41, Terminal.timestamp ⟨.start, default⟩, .int 40, .int 2])] ∧
      Admitted [.update, .assignments, .conditions, .order, .limit] := by
  intro calls t
  obtain ⟨-, -, hclauses⟩ := writes_admitted_iff userSchema .start calls (t := t) rfl ⟨.start, default⟩ connectedPlain
  exact ⟨rfl, rfl, (hclauses fun _ => "?").2.2 ⟨rfl, rfl, fun h => nomatch h.2⟩⟩

/-- An update of joined users has its assignments in front of the join, a delete has the join behind the table, and
groups and an offset are written as well. MySQL admits none of these. -/
theorem joined_update_not_admitted :
    let condition := ChainCall.whereArgs .and [.text "age", .int 40]
    let join := ChainCall.join "posts" "id" "=" "user_id" "INNER"
    (writeAfter [condition, join] (.update [("age", .int 41)])).store.requests =
        [("UPDATE users SET age = ?, updated_at = ? INNER JOIN posts ON users.id = posts.user_id WHERE users.age = ?",
          some [.int 41, Terminal.timestamp ⟨.start, default⟩, .int 40])] ∧
      ¬ Admitted [.update, .assignments, .join, .conditions] ∧
      (writeAfter [condition, join] .delete).store.requests =
        [("DELETE FROM users INNER JOIN posts ON users.id = posts.user_id WHERE users.age = ?", some [.int 40])] ∧
      ¬ Admitted [.deletion, .join, .conditions] ∧
      (writeAfter [condition, .groupBy [.text "city"], .limit (.int 2) (.int 1)] .forceDelete).store.requests =
        [("DELETE FROM users WHERE users.age = ? GROUP BY city LIMIT ? OFFSET ?", some [.int 40, .int 2, .int 1])] ∧
      ¬ Admitted [.deletion, .conditions, .groups, .limit, .offset] := by
  refine ⟨rfl, ?_, rfl, ?_, rfl, ?_⟩
  · exact fun h => absurd (Written.admitted_update_iff.1 h) (by decide)
  · exact fun h => absurd (Written.admitted_deletion_iff.1 h) (by decide)
  · exact fun h => absurd (Written.admitted_deletion_iff.1 h) (by decide)

end RecordMapper
