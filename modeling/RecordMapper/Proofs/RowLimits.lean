import RecordMapper.Proofs.PageStatements

/-!
Limits on rows. A chain sets a range by one call, a limit with an offset, and where that is zero it is as if it were
not set. Main statement: the last limit of a chain stands at the end of the statement that gets its rows, or updates or
deletes them, exactly if it is not zero; a statement with it reaches so many rows at most, and behind a limit of zero
the statement is the one without any, which reaches all rows.
-/
namespace RecordMapper

open Hydration

/-- How many rows the statement of a query skips: none if there is no offset that counts, else as many as it says. -/
def Intent.skipped (i : Intent) : Except Failure (Option Int) :=
  if i.offset.isTruthy then i.offset.toInt.map some else .ok none

/-- A query without its range. -/
def Intent.unranged (i : Intent) : Intent := { i with limit := .null, offset := .null }

/-- The end of a statement with a range. -/
def Layout.ofRange (limit : Int) (skipped : Option Int) : Layout :=
  [.text " LIMIT ", .slot (.int limit)] ++ skipped.toList.flatMap fun n => [.text " OFFSET ", .slot (.int n)]

/-- The end that a statement gets from a limit and an offset: none without a limit. -/
def Layout.ofLimit (limit offset : Nat) : Layout :=
  if limit = 0 then [] else ofRange limit (if offset = 0 then none else some offset)

/-- Two intents of one range. -/
def Intent.SameRange (i j : Intent) : Prop := j.limit = i.limit ∧ j.offset = i.offset

/-- A call after which the range of every intent is what it was. -/
def Chain.KeepsRange (classes : Catalogue) (s : Schema) (c : ChainCall) : Prop :=
  ∀ i : Intent, i.SameRange (runCalls classes s maxDepth i [c]).1

/-- Whether a call sets a range by itself. -/
def ChainCall.isLimit : ChainCall → Bool
  | limit .. => true
  | _ => false

namespace Terminal

/-- Terminals that reach the rows of a chain: they get them, or update or delete them. -/
def reachesRows : Terminal → Bool
  | get | update _ | delete | forceDelete => true
  | _ => false

/-- The query that a terminal makes of the intent of a chain for its rows; none if it has nothing to write, or lacks
a condition that it asks for. -/
def query? (env : Surroundings) (s : Schema) (i : Intent) : Terminal → Option Intent
  | get => some { withoutDeleted s i with action := .known .select }
  | update data => (payload s data).toOption.bind fun written =>
      if written.isEmpty || i.conditions.isEmpty then none
      else some { withoutDeleted s i with
        action := .known .update
        data := some (if s.timestamps then Row.set "updated_at" (timestamp env) written else written) }
  | delete =>
    if !s.softDelete then some { i with action := .known .delete }
    else if i.conditions.isEmpty then none
    else some { i.addConditions [notDeleted] with
      action := .known .update, data := some [("deleted_at", timestamp env)] }
  | forceDelete => some { i with action := .known .delete }
  | _ => none

end Terminal

/-- What the statement of a query reaches: groups of rows if it reads, and else each row for which its conditions are
true, in the range that it has. -/
def Contents.reached {ρ κ : Type} [DecidableEq κ] (d : Contents ρ κ) (table : String) (i : Intent) : List (List ρ) :=
  i.window (d.ordered i.order (match i.action with
    | .known .select => d.groups table i
    | _ => (d.source table i).map ([·])))

/-! ### Ranges -/

namespace Compile

variable {table : String} {i : Intent} {a : Action}

/-- The range of a statement is made of what its limit and its offset come to. -/
theorem range_eq (i : Intent) : range i =
    if i.limit.isTruthy then i.limit.toInt >>= fun n => i.skipped.map (Layout.ofRange n) else .ok [] := by
  rw [range, Intent.skipped]
  cases i.limit.isTruthy with
  | false => rfl
  | true =>
    cases i.limit.toInt with
    | error e => rfl
    | ok n =>
      cases i.offset.isTruthy with
      | false => rfl
      | true => cases h : i.offset.toInt <;> rfl

/-- The statement of a query is that of the query without its range, and behind it the range. -/
theorem statement_unranged : statement table a i =
    statement table a i.unranged >>= fun free => (range i).map (free ++ ·) := by
  have hhead : head table a i.unranged = head table a i := by cases a <;> rfl
  have hrange : range i.unranged = .ok [] := rfl
  have hconditions : i.unranged.conditions = i.conditions := rfl
  rw [statement, statement, hhead, hrange, hconditions]
  cases head table a i with
  | error e => rfl
  | ok start =>
    cases conditions table i.conditions with
    | error e => rfl
    | ok filtered =>
      cases range i with
      | error e => rfl
      | ok tail =>
        simp only [ok_bind, Except.map, List.append_nil]
        rfl

theorem compile_unranged (table : String) (hraw : i.rawQuery = none) (haction : i.action = .known a) :
    i.compile table = i.unranged.compile table >>= fun free => (range i).map (free ++ ·) := by
  have hraw' : i.unranged.rawQuery = none := hraw
  have haction' : i.unranged.action = .known a := haction
  rw [Intent.compile, Intent.compile, hraw, haction, hraw', haction']
  exact statement_unranged

/-- A range of natural numbers. -/
theorem range_of_limit {n m : Nat} (hlimit : i.limit = .int n) (hoffset : i.offset = .int m) :
    range i = .ok (Layout.ofLimit n m) := by
  have hskipped : i.skipped = .ok (if m = 0 then none else some (m : Int)) := by
    rw [Intent.skipped, hoffset]
    by_cases hm : m = 0
    · rw [if_neg (by rw [Value.isTruthy_int]; omega), if_pos hm]
    · rw [if_pos (by rw [Value.isTruthy_int]; omega), if_neg hm]
      rfl
  rw [range_eq, hlimit, Layout.ofLimit]
  by_cases hn : n = 0
  · rw [if_neg (by rw [Value.isTruthy_int]; omega), if_pos hn]
  · rw [if_pos (by rw [Value.isTruthy_int]; omega), if_neg hn, hskipped]
    rfl

end Compile

theorem Intent.SameRange.trans {i j k : Intent} (hij : i.SameRange j) (hjk : j.SameRange k) : i.SameRange k :=
  ⟨hjk.1.trans hij.1, hjk.2.trans hij.2⟩

namespace Chain

/-! ### Chains and their last limit -/

section
variable {classes : Catalogue} {s : Schema} {run : Intent → List ChainCall → Step}

/-- Whether no call of a registry sets a range by itself. -/
def unlimited (registry : Registry) : Bool := registry.all fun p => p.2.all (!·.isLimit)

theorem not_isLimit_of_lookup {registry : Registry} (h : unlimited registry = true) (name : String)
    (calls : List ChainCall) (hcalls : registry.lookup name = some calls) : ∀ c ∈ calls, c.isLimit = false := by
  obtain ⟨before, after, rfl, -⟩ := List.lookup_eq_some_iff.1 hcalls
  simp only [unlimited, List.all_append, List.all_cons, Bool.and_eq_true, List.all_eq_true, Bool.not_eq_true'] at h
  exact h.2.1

theorem sameRange_call (hrelations : unlimited s.relations = true) (hmethods : unlimited s.methods = true) {i : Intent}
    (hrun : RunKeeps i.SameRange (·.isLimit = false) run) {j : Intent} {c : ChainCall} (hc : c.isLimit = false)
    (hj : i.SameRange j) : i.SameRange (call classes s run j c).1 := by
  cases c with
  | limit => cases hc
  | select | groupBy =>
    refine keeps_orElse hj _ fun columns => ?_
    split <;> exact hj
  | selectMore | join | whereRaw | whereNull | withTrashed | orderBy => exact hj
  | whereArgs | whereIn | relate => exact keeps_orElse hj _ fun _ => hj
  | withRelations fields => exact keeps_withRelations hrun (not_isLimit_of_lookup hrelations) fields hj
  | relation method =>
    simp only [call]
    cases hcalls : s.methods.lookup method with
    | none => exact hj
    | some calls => exact hrun j calls (not_isLimit_of_lookup hmethods method calls hcalls) hj

/-- Only a limit sets a range: any other call leaves it alone, if neither the relations nor the methods of the class
set one. -/
theorem keepsRange_of_not_isLimit (hrelations : unlimited s.relations = true) (hmethods : unlimited s.methods = true)
    {c : ChainCall} (hc : c.isLimit = false) : KeepsRange classes s c := fun i =>
  keeps_runCalls (fun _ hrun _ _ hd hj => sameRange_call hrelations hmethods hrun hd hj) maxDepth i [c]
    (List.forall_mem_singleton.2 hc) ⟨rfl, rfl⟩

/-- The range of a chain is that of its last limit. -/
theorem range_of_last_limit (before : List ChainCall) (limit offset : Value) {after : List ChainCall}
    (hafter : ∀ c ∈ after, KeepsRange classes s c) :
    let i := (Model.called classes ⟨s, .empty⟩ (before ++ .limit limit offset :: after)).intent
    i.limit = limit ∧ i.offset = offset := by
  let ranged : Intent := { (Model.called classes ⟨s, .empty⟩ before).intent with limit := limit, offset := offset }
  have hbefore : Model.called classes ⟨s, .empty⟩ before = ⟨s, (Model.called classes ⟨s, .empty⟩ before).intent⟩ :=
    congrArg (Model.mk · _) (schema_called classes s before)
  have hcalled : Model.called classes ⟨s, .empty⟩ (before ++ .limit limit offset :: after) =
      Model.called classes ⟨s, ranged⟩ after := by
    rw [Model.called, List.foldl_append, List.foldl_cons]
    exact congrArg (fun m => Model.called classes (m.chain classes [.limit limit offset]).1 after) hbefore
  dsimp only
  rw [hcalled]
  exact (Model.keeps_called (fun j c (hc : KeepsRange classes s c) (hj : ranged.SameRange j) => hj.trans (hc j)) after
    ranged hafter ⟨rfl, rfl⟩).2

end

end Chain

namespace Terminal

open Operation

variable {env : Surroundings} {s : Schema} {i : Intent} {sys : System} {t : Terminal}

/-! ### One statement for the rows -/

/-- A write sends the statement of its query, if there is one. -/
theorem log_scriptedWrite (s : Schema) (j : Intent) (sys : System) : (scriptedWrite s j).script.log sys =
    match j.compile s.tableName with
    | .error _ => []
    | .ok l => [.statement ⟨l.sql, l.bindings⟩ ((Client.execute l.sql l.bindings).perform sys).1] := by
  have hscript : (scriptedWrite s j).script =
      (Script.done (j.compile s.tableName)).andThen fun l => .ask ⟨l.sql, l.bindings⟩ .done := rfl
  rw [hscript]
  cases j.compile s.tableName <;> rfl

/-- An update or a delete writes its query, if it has one, and else sends nothing. -/
theorem log_writing (ht : t.reachesRows = true) (hget : t ≠ .get) : (t.scripted env s i).script.log sys =
    match t.query? env s i with
    | none => []
    | some j => (scriptedWrite s j).script.log sys := by
  -- what is made of the answer of a write sends nothing more
  have hsilent (j : Intent) : ((scriptedWrite s j).script.andThen fun a => .done (.ok (Result.answer a))).log sys =
      (scriptedWrite s j).script.log sys := Script.log_andThen_silent (fun _ _ => rfl) _ _
  cases t with
  | update data =>
    have hscript : ((update data).scripted env s i).script = (Script.done (payload s data)).andThen fun written =>
        if written.isEmpty then .done (.ok .nothing)
        else if i.conditions.isEmpty then .done (.error (unconditional s "update"))
        else (scriptedWrite s { withoutDeleted s i with
          action := .known .update
          data := some (if s.timestamps then Row.set "updated_at" (timestamp env) written else written)
          }).script.andThen fun a => .done (.ok (.answer a)) := rfl
    rw [hscript, query?]
    cases payload s data with
    | error e => rfl
    | ok written =>
      simp only [Script.andThen, Except.toOption, Option.bind]
      cases hwritten : written.isEmpty with
      | true => rfl
      | false =>
        cases hconditions : i.conditions.isEmpty with
        | true => rfl
        | false => exact hsilent _
  | delete =>
    have hscript : (Terminal.delete.scripted env s i).script =
        if !s.softDelete then (scriptedWrite s { i with action := .known .delete }).script.andThen fun a =>
          .done (.ok (.answer a))
        else if i.conditions.isEmpty then .done (.error (unconditional s "delete"))
        else (scriptedWrite s { i.addConditions [notDeleted] with
          action := .known .update, data := some [("deleted_at", timestamp env)] }).script.andThen fun a =>
            .done (.ok (.answer a)) := rfl
    rw [hscript, query?]
    cases s.softDelete with
    | false => exact hsilent _
    | true =>
      cases hconditions : i.conditions.isEmpty with
      | true => rfl
      | false => exact hsilent _
  | forceDelete => exact hsilent _
  | get => exact absurd rfl hget
  | _ => cases ht

/-- What a query of the rows of a chain has of the chain. -/
theorem query?_eq_some {j : Intent} (h : t.query? env s i = some j) :
    j.rawQuery = i.rawQuery ∧ j.limit = i.limit ∧ j.offset = i.offset ∧ ∃ a, j.action = .known a := by
  have hwithout (i : Intent) : (withoutDeleted s i).rawQuery = i.rawQuery ∧ (withoutDeleted s i).limit = i.limit ∧
      (withoutDeleted s i).offset = i.offset := by
    rw [Contents.withoutDeleted_eq]
    exact ⟨rfl, rfl, rfl⟩
  cases t with
  | get =>
    cases h
    exact ⟨(hwithout i).1, (hwithout i).2.1, (hwithout i).2.2, .select, rfl⟩
  | update data =>
    obtain ⟨written, -, h⟩ := Option.bind_eq_some_iff.1 h
    split at h
    · cases h
    · cases h
      exact ⟨(hwithout i).1, (hwithout i).2.1, (hwithout i).2.2, .update, rfl⟩
  | delete =>
    rw [query?] at h
    split at h
    · cases h
      exact ⟨rfl, rfl, rfl, .delete, rfl⟩
    · split at h
      · cases h
      · cases h
        exact ⟨rfl, rfl, rfl, .update, rfl⟩
  | forceDelete =>
    cases h
    exact ⟨rfl, rfl, rfl, .delete, rfl⟩
  | _ => cases h

/-- What is sent for the rows of a chain: the statement of its query, if there is one, and behind it at most what the
relations of a read ask. -/
theorem log_query (ht : t.reachesRows = true) : match t.query? env s i with
    | none => (t.scripted env s i).script.log sys = []
    | some j => match j.compile s.tableName with
      | .error _ => (t.scripted env s i).script.log sys = []
      | .ok l => ∃ answer related,
          (t.scripted env s i).script.log sys = .statement ⟨l.sql, l.bindings⟩ answer :: related ∧
            ((t = .get → i.relations = []) → related = []) := by
  by_cases hget : t = .get
  · subst hget
    have hlog : (get.scripted env s i).script.log sys = (scriptedRead env s (withoutDeleted s i)).script.log sys :=
      Script.log_andThen_silent (fun _ _ => rfl) _ _
    rw [query?, hlog]
    dsimp only
    split
    · rename_i e h
      exact (log_scriptedRead_error h).1
    · rename_i l h
      obtain ⟨answer, related, hread, hrelated⟩ := @log_scriptedRead env s _ sys _ h
      refine ⟨answer, related, hread, fun hnone => hrelated ?_⟩
      rw [Contents.withoutDeleted_eq]
      exact hnone rfl
  · rw [log_writing ht hget]
    cases t.query? env s i with
    | none => rfl
    | some j =>
      dsimp only
      rw [log_scriptedWrite]
      cases j.compile s.tableName with
      | error e => rfl
      | ok l => exact ⟨_, [], rfl, fun _ => rfl⟩

end Terminal

/-! ### Rows that are reached -/

/-- How many rows a statement reaches with a range of natural numbers: those behind the offset, as far as the limit
goes; and all where the limit is zero. -/
theorem Contents.length_reached {ρ κ : Type} [DecidableEq κ] (d : Contents ρ κ) (table : String) {j : Intent}
    {n m : Nat} (hlimit : j.limit = .int n) (hoffset : j.offset = .int m) :
    (d.reached table j).length = if n = 0 then (d.reached table j.unranged).length
      else min n ((d.reached table j.unranged).length - m) := by
  have hall : d.reached table j.unranged = d.ordered j.order (match j.action with
      | .known .select => d.groups table j
      | _ => (d.source table j).map ([·])) := Intent.window_unlimited rfl _
  rw [hall, reached, Intent.window_range hlimit hoffset]
  split
  · rfl
  · rw [List.length_take, List.length_drop]

open Contents in
/-- Any chain on a class, of which the last limit has a number of rows and an offset, and its end by a terminal that
gets its rows, or updates or deletes them. If there is a statement for these without a range, it is sent, with so many
rows and that offset behind it exactly if the number is not zero; and it is followed by what the relations of a read
ask. With it so many rows are reached at most of those behind the offset; without it all of them are. -/
theorem limit_of_last_call (s : Schema) (classes : Catalogue) (before : List ChainCall) {after : List ChainCall}
    (hafter : ∀ c ∈ after, Chain.KeepsRange classes s c) (n m : Nat) {t : Terminal} (ht : t.reachesRows = true)
    (env : Surroundings) (sys : System) :
    let i := (Model.called classes ⟨s, .empty⟩ (before ++ .limit (.int n) (.int m) :: after)).intent
    let log := (t.scripted env s i).script.log (Session.fresh sys)
    match t.query? env s i with
    | none => log = []
    | some j =>
      (match j.unranged.compile s.tableName with
        | .error _ => log = []
        | .ok free =>
          let l := free ++ Layout.ofLimit n m
          ∃ answer related, log = .statement ⟨l.sql, l.bindings⟩ answer :: related ∧
            ((t = .get → i.relations = []) → related = [])) ∧
      ∀ {ρ κ : Type} [DecidableEq κ] (d : Contents ρ κ),
        let all := (d.reached s.tableName j.unranged).length
        (d.reached s.tableName j).length = if n = 0 then all else min n (all - m) := by
  intro i log
  have hraw : i.rawQuery = none := (Chain.isChained_called classes s _).rawQuery
  obtain ⟨hlimit, hoffset⟩ : i.limit = .int n ∧ i.offset = .int m :=
    Chain.range_of_last_limit before (.int n) (.int m) hafter
  have hlog := @Terminal.log_query env s i (Session.fresh sys) t ht
  cases hquery : t.query? env s i with
  | none =>
    rw [hquery] at hlog
    exact hlog
  | some j =>
    rw [hquery] at hlog
    obtain ⟨hraw', hlimit', hoffset', a, haction⟩ := Terminal.query?_eq_some hquery
    have hlimited := hlimit'.trans hlimit
    have hskipping := hoffset'.trans hoffset
    refine ⟨?_, fun d => length_reached d s.tableName hlimited hskipping⟩
    have hcompile := Compile.compile_unranged s.tableName (hraw'.trans hraw) haction
    rw [Compile.range_of_limit hlimited hskipping] at hcompile
    dsimp only at hlog
    rw [hcompile] at hlog
    cases hfree : j.unranged.compile s.tableName with
    | error e =>
      rw [hfree] at hlog
      exact hlog
    | ok free =>
      rw [hfree] at hlog
      exact hlog

/-- Users above an age from the second on, in order, at most two of them, are deleted. -/
theorem limit_of_deletion :
    let i := (usersAfter [.limit (.int 0) (.int 0), .whereArgs .and [.text "age", .text ">", .int 40],
      .limit (.int 2) (.int 1), .orderBy "id" (.text "DESC")]).intent
    let log := (Terminal.delete.scripted ⟨.start, default⟩ userSchema i).script.log (Session.fresh default)
    ((∀ c ∈ [ChainCall.orderBy "id" (.text "DESC")], Chain.KeepsRange .start userSchema c) ∧
        Terminal.delete.reachesRows = true) ∧
      (∃ answer, log = [.statement ⟨"DELETE FROM users WHERE users.age > ? ORDER BY users.id DESC LIMIT ? OFFSET ?",
        [.int 40, .int 2, .int 1]⟩ answer]) ∧
      ((statuses [1, 2, 1, 2]).reached "users" { i with action := .known .delete }).length = 2 := by
  intro i log
  have hafter : ∀ c ∈ [ChainCall.orderBy "id" (.text "DESC")], Chain.KeepsRange .start userSchema c :=
    List.forall_mem_singleton.2 (Chain.keepsRange_of_not_isLimit rfl rfl rfl)
  obtain ⟨hlog, hreached⟩ := limit_of_last_call userSchema .start
    [.limit (.int 0) (.int 0), .whereArgs .and [.text "age", .text ">", .int 40]] hafter 2 1 (t := .delete) rfl
    ⟨.start, default⟩ default
  obtain ⟨answer, related, hlog, hrelated⟩ := hlog
  rw [hrelated fun _ => rfl] at hlog
  exact ⟨⟨hafter, rfl⟩, ⟨answer, hlog⟩, hreached (statuses [1, 2, 1, 2])⟩

/-- With a limit of zero three users of three are read, and as many deleted, by statements without a limit. -/
theorem limit_zero_is_lost :
    let i := (usersAfter [.whereArgs .and [.text "age", .int 40], .limit (.int 0) (.int 0)]).intent
    let log (t : Terminal) := (t.scripted ⟨.start, default⟩ userSchema i).script.log (Session.fresh default)
    let reached (a : Action) := (statuses [1, 2, 1]).reached "users" { i with action := .known a }
    (∃ answer, log .get = [.statement ⟨"SELECT users.* FROM users WHERE users.age = ?", [.int 40]⟩ answer]) ∧
      (∃ answer, log .delete = [.statement ⟨"DELETE FROM users WHERE users.age = ?", [.int 40]⟩ answer]) ∧
      (∃ answer, log (.update [("age", .int 41)]) = [.statement
        ⟨"UPDATE users SET age = ?, updated_at = ? WHERE users.age = ?",
          [.int 41, Terminal.timestamp ⟨.start, default⟩, .int 40]⟩ answer]) ∧
      (reached .select).length = 3 ∧ (reached .delete).length = 3 ∧ (reached .update).length = 3 :=
  ⟨⟨_, rfl⟩, ⟨_, rfl⟩, ⟨_, rfl⟩, rfl, rfl, rfl⟩

end RecordMapper
