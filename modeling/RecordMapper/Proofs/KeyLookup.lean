import RecordMapper.Proofs.FirstTry
import RecordMapper.Proofs.RowLimits

/-!
Looking up a row by its key. A look-up at the end of a chain drops the conditions of the chain and asks for one row,
and what else the chain has come to goes into its statement: the columns, the order, and the offset. Main statement:
the one statement of a look-up has the key, and the condition on deleted rows, as its only conditions, and it reads a
row exactly if more rows than the offset of the chain have the key. So a row that is there is certain to be found only
without an offset.
-/
namespace RecordMapper

open Hydration

/-- What a look-up asks for at the end of a chain: one row of the key that is not deleted. -/
def Intent.lookedUp (s : Schema) (key : Value) (i : Intent) : Intent :=
  { withoutDeleted s { i with conditions := [.compare s.primaryKey "=" key Junction.and.word], limit := .int 1 } with
    action := .known .select }

/-- Whether a query leaves out the deleted rows of a class. -/
def Schema.leavesOut (s : Schema) (i : Intent) : Bool := s.softDelete && !i.withTrashed

/-- The condition of a look-up: the key, and that a row has not been deleted, if the query leaves out deleted rows. -/
def Schema.keyCondition (s : Schema) (i : Intent) : String :=
  Compile.qualify s.tableName s.primaryKey ++ " = ?" ++
    if s.leavesOut i then " AND " ++ s.tableName ++ ".deleted_at IS NULL" else ""

/-- The statement that looks up a key: the columns and the order of the chain, no condition of its own, and one row
behind those that are skipped. -/
def keyQuestion (s : Schema) (i : Intent) (key : Value) (skipped : Option Int) : Question where
  sql := "SELECT " ++ Compile.selectList s.tableName i ++ " FROM " ++ s.tableName ++ " WHERE " ++
    s.keyCondition i ++ Compile.ordering s.tableName i ++ " LIMIT ?" ++ if skipped.isSome then " OFFSET ?" else ""
  bindings := key :: .int 1 :: skipped.toList.map .int

/-- The rows of a table that have a key, without the deleted ones if the query leaves these out. -/
def Contents.keyed {ρ κ : Type} (d : Contents ρ κ) (s : Schema) (i : Intent) (key : Value) : List ρ :=
  (d.joined s.tableName []).filter fun r =>
    d.truth r [.text (Compile.qualify s.tableName s.primaryKey ++ " = "), .slot key] = .yes ∧
      (s.leavesOut i = true → d.truth r (.words (s.tableName ++ ".deleted_at IS NULL")) = .yes)

theorem scalar_keyQuestion {s : Schema} {i : Intent} {key : Value} (hkey : key.isList = false) {skipped : Option Int} :
    (keyQuestion s i key skipped).bindings.any Value.isList = false := by
  have hany : (key :: .int 1 :: skipped.toList.map .int).any Value.isList = false := by
    rw [List.any_cons, hkey]
    cases skipped <;> rfl
  exact hany

/-! ### Requests without lists -/

/-- A value as the driver of a dialect takes it. -/
def Dialect.taken : Dialect → Value → Value
  | plain | mysql => id
  | sqlite => toSQLite

/-- What an adapter makes of a statement if no binding is a list: the statement in its dialect, and its bindings. -/
theorem AdapterKind.request_of_no_list (kind : AdapterKind) (sql : String) {params : List Value} (hne : params ≠ [])
    (h : params.any Value.isList = false) :
    kind.request sql params = .ok (kind.dialect.adapt sql, some (params.map kind.dialect.taken)) := by
  have hexpand (text : String) : expandBindings text params = .ok (text, params) := by
    rw [expandBindings, h]
    rfl
  cases kind with
  | stub =>
    rw [request, dialect, Dialect.taken, List.map_id]
    rfl
  | mysql =>
    rw [request, hexpand, Except.map, dialect, Dialect.taken, List.map_id]
    exact congrArg Except.ok (if_neg (by rwa [List.isEmpty_iff]))
  | sqlite =>
    rw [request, hexpand]
    rfl

/-! ### Scripts by what passes -/

namespace Script

variable {α : Type}

/-- A script in which nothing passes leaves the system as it is. -/
theorem perform_of_log_nil {p : Script α} {s : System} (h : p.log s = []) : (p.perform.perform s).2 = s := by
  cases p with
  | done r => rfl
  | ask q next =>
    rw [log_ask] at h
    cases h
  | issue next => cases h

/-- A script in which one statement passes does to the system what the statement does. -/
theorem perform_of_log_singleton {p : Script α} {s : System} {q : Question} {answer : Except Failure Answer}
    (h : p.log s = [.statement q answer]) :
    answer = ((Client.execute q.sql q.bindings).perform s).1 ∧
      (p.perform.perform s).2 = ((Client.execute q.sql q.bindings).perform s).2 := by
  cases p with
  | done r => cases h
  | ask q' next =>
    rw [log_ask, List.cons.injEq] at h
    obtain ⟨hfirst, hrest⟩ := h
    cases hfirst
    rw [perform_ask]
    exact ⟨rfl, perform_of_log_nil hrest⟩
  | issue next => cases h

/-- One statement without lists that a system obliges with is answered, and it is requested once. -/
theorem request_of_log_singleton {p : Script α} {s : System} {q : Question} {answer : Except Failure Answer}
    (h : p.log s = [.statement q answer]) (hobliges : s.Obliges) (hquiet : s.store.requests = [])
    (hne : q.bindings ≠ []) (hscalars : q.bindings.any Value.isList = false) :
    ∃ found opened, p.log s = [.statement q (.ok found)] ∧
      (p.perform.perform s).2.store.requests = opened ++
        [(s.adapter.kind.dialect.adapt q.sql, some (q.bindings.map s.adapter.kind.dialect.taken))] ∧
      ∀ x ∈ opened, x = openingRequest := by
  have hrequest := s.adapter.kind.request_of_no_list q.sql hne hscalars
  obtain ⟨found, opened, hfound, hrequests, hopened⟩ := Client.execute_obliged hobliges hquiet hrequest
  obtain ⟨hanswer, hsystem⟩ := perform_of_log_singleton h
  refine ⟨found, opened, ?_, ?_, hopened⟩
  · rw [h, hanswer, hfound]
  · rw [hsystem, hrequests]

end Script

/-! ### The statement of a look-up -/

namespace Intent

variable {s : Schema} {key : Value} {i : Intent}

theorem lookedUp_eq (s : Schema) (key : Value) (i : Intent) : i.lookedUp s key =
    { i with
      action := .known .select, limit := .int 1
      conditions := [.compare s.primaryKey "=" key Junction.and.word] ++
        if s.leavesOut i then [notDeleted] else [] } := by
  rw [lookedUp, Contents.withoutDeleted_eq]
  rfl

theorem condition_key (s : Schema) (key : Value) :
    Compile.condition s.tableName (.compare s.primaryKey "=" key Junction.and.word) =
      .ok [.text (Compile.qualify s.tableName s.primaryKey ++ " = "), .slot key] := by
  rw [Compile.condition, if_neg (by decide), if_neg (by decide)]
  simp only [String.append_assoc]
  rfl

/-- The conditions of a look-up, as its statement has them. -/
theorem conditions_lookedUp (s : Schema) (key : Value) (i : Intent) :
    ∃ filtered, Compile.conditions s.tableName (i.lookedUp s key).conditions = .ok filtered ∧
      filtered.sql = " WHERE " ++ s.keyCondition i ∧ filtered.bindings = [key] := by
  have hequals : " = ?" = " = " ++ "?" := by decide
  have hand : " " ++ notDeleted.junction ++ " " = " AND " := by decide
  rw [lookedUp_eq, Schema.keyCondition]
  dsimp only
  split
  · refine ⟨_, Compile.conditions_cons_eq_ok.2 ⟨_, _, condition_key s key,
      Compile.furtherConditions_cons_eq_ok.2 ⟨_, [], condition_notDeleted s.tableName, rfl, rfl⟩, rfl⟩, ?_, rfl⟩
    simp only [Layout.sql, Layout.render_append, Layout.render_words, hequals, hand, Layout.render, String.append_empty,
      String.append_assoc]
  · refine ⟨_, Compile.conditions_cons_eq_ok.2 ⟨_, [], condition_key s key, rfl, rfl⟩, ?_, rfl⟩
    simp only [Layout.sql, Layout.render_append, Layout.render_words, hequals, Layout.render, String.append_empty,
      String.append_assoc]

/-- The range of a look-up: one row, behind those that are skipped. -/
theorem range_lookedUp (s : Schema) (key : Value) (i : Intent) :
    Compile.range (i.lookedUp s key) = i.skipped.map (Layout.ofRange 1) := by
  have hskipped : (i.lookedUp s key).skipped = i.skipped := by rw [lookedUp_eq, skipped, skipped]
  rw [Compile.range_eq, hskipped, lookedUp_eq]
  exact (if_pos rfl).trans (ok_bind _ _)

end Intent

theorem Layout.sql_ofRange (limit : Int) (skipped : Option Int) :
    (Layout.ofRange limit skipped).sql = " LIMIT ?" ++ if skipped.isSome then " OFFSET ?" else "" := by
  cases skipped <;> rfl

theorem Layout.bindings_ofRange (limit : Int) (skipped : Option Int) :
    (Layout.ofRange limit skipped).bindings = .int limit :: skipped.toList.map .int := by
  cases skipped <;> rfl

namespace Compile

open Layout Intent

variable (s : Schema) (key : Value) {i : Intent}

/-- A look-up has its statement exactly if the chain has no offset that counts, or one that is a number. -/
theorem compile_lookedUp (hraw : i.rawQuery = none) (hjoins : i.joins = []) (hgroupBy : i.groupBy = []) :
    ∃ free, (i.lookedUp s key).compile s.tableName = i.skipped.map (fun skipped => free ++ ofRange 1 skipped) ∧
      ∀ skipped, Question.mk (free ++ ofRange 1 skipped).sql (free ++ ofRange 1 skipped).bindings =
        keyQuestion s i key skipped := by
  obtain ⟨filtered, hfiltered, hsql, hbindings⟩ := conditions_lookedUp s key i
  have hraw' : (i.lookedUp s key).rawQuery = none := by rw [lookedUp_eq]; exact hraw
  have haction : (i.lookedUp s key).action = .known .select := by rw [lookedUp_eq]
  have hhead : head s.tableName .select (i.lookedUp s key) =
      .ok (words ("SELECT " ++ selectList s.tableName i ++ " FROM " ++ s.tableName)) := by rw [lookedUp_eq]; rfl
  have hjoined : (i.lookedUp s key).joins = [] := by rw [lookedUp_eq]; exact hjoins
  have hgrouping : grouping (i.lookedUp s key) = "" := by
    rw [lookedUp_eq, grouping]
    exact if_pos (List.isEmpty_iff.2 hgroupBy)
  have hordering : ordering s.tableName (i.lookedUp s key) = ordering s.tableName i := by rw [lookedUp_eq]; rfl
  refine ⟨words ("SELECT " ++ selectList s.tableName i ++ " FROM " ++ s.tableName) ++ words (String.join []) ++
    filtered ++ words ("" ++ ordering s.tableName i), ?_, fun skipped => congrArg₂ Question.mk ?_ ?_⟩
  · rw [Intent.compile, hraw', haction]
    dsimp only
    rw [statement, hhead, hfiltered, range_lookedUp, hjoined, hgrouping, hordering]
    cases i.skipped <;> rfl
  · have htail := sql_ofRange 1 skipped
    rw [sql] at hsql htail
    simp only [sql, render_append, render_words, hsql, htail, String.join_nil, String.append_empty,
      String.empty_append, String.append_assoc]
  · have hwords (text : String) : (words text).bindings = [] := rfl
    simp only [bindings_append, hwords, hbindings, bindings_ofRange, List.nil_append, List.append_nil]
    rfl

end Compile

/-! ### Rows of a key -/

/-- A range of one row is the row behind those that are skipped. -/
theorem Intent.window_one {α : Type} {i : Intent} {skipped : Option Int} (hlimit : i.limit = .int 1)
    (hskipped : i.skipped = .ok skipped) (items : List α) :
    i.window items = (items.drop (skipped.getD 0).toNat).take 1 := by
  have hnumber : (if i.offset.isTruthy then (i.offset.toInt.toOption.getD 0).toNat else 0) =
      (skipped.getD 0).toNat := by
    rw [Intent.skipped] at hskipped
    split at hskipped
    · rename_i hoffset
      obtain ⟨n, hn, rfl⟩ := map_eq_ok.1 hskipped
      rw [if_pos hoffset, hn]
      rfl
    · rename_i hoffset
      cases hskipped
      exact if_neg hoffset
  rw [window, hlimit]
  dsimp only
  rw [hnumber]
  rfl

namespace Reading

variable {α : Type} (v : α → Truth) (a b : α)

theorem truth_single (word : String) : (ofConditions [(word, a)]).truth v = .yes ↔ v a = .yes := by
  have htruth : (ofConditions [(word, a)]).truth v = ((v a).and .yes).or .no := rfl
  rw [htruth]
  cases v a <;> decide

/-- Two conditions that have to hold together. -/
theorem truth_pair (word : String) :
    (ofConditions [(word, a), ("AND", b)]).truth v = .yes ↔ v a = .yes ∧ v b = .yes := by
  have htruth : (ofConditions [(word, a), ("AND", b)]).truth v = ((v a).and ((v b).and .yes)).or .no := rfl
  rw [htruth]
  cases v a <;> cases v b <;> decide

end Reading

namespace Contents

variable {ρ κ : Type} (d : Contents ρ κ) {s : Schema} {key : Value} {i : Intent}

/-- What a look-up reads from: the rows of its key. -/
theorem source_lookedUp (hjoins : i.joins = []) : d.source s.tableName (i.lookedUp s key) = d.keyed s i key := by
  have hkey := Clause.predicate_eq (Intent.condition_key s key)
  have hdeleted := Clause.predicate_eq (condition_notDeleted s.tableName)
  rw [source, keyed, Intent.lookedUp_eq]
  dsimp only
  rw [hjoins, ← hkey, ← hdeleted]
  refine List.filter_congr fun r _ => decide_eq_decide.2 ?_
  -- one condition, or two that have to hold together
  cases s.leavesOut i with
  | false => exact (Reading.truth_single _ _ _).trans (by simp)
  | true => exact (Reading.truth_pair _ _ _ _).trans (by simp)

variable [DecidableEq κ]

/-- What a look-up reads: of the groups of its rows, in their order, the one behind those that are skipped. -/
theorem select_lookedUp {skipped : Option Int} (hskipped : i.skipped = .ok skipped) :
    d.select s.tableName (i.lookedUp s key) =
      (((d.ordered i.order (d.groups s.tableName (i.lookedUp s key))).map
        (d.row s.tableName (i.lookedUp s key))).drop (skipped.getD 0).toNat).take 1 := by
  have hskipped' : (i.lookedUp s key).skipped = .ok skipped := by rw [Intent.lookedUp_eq]; exact hskipped
  have hlimit : (i.lookedUp s key).limit = .int 1 := by rw [Intent.lookedUp_eq]
  have horder : (i.lookedUp s key).order = i.order := by rw [Intent.lookedUp_eq]
  rw [select, Intent.window_one hlimit hskipped', horder]

/-- The groups of a look-up: each row by itself, or all in one if they are counted. -/
theorem groups_lookedUp (hjoins : i.joins = []) (hgroupBy : i.groupBy = []) :
    d.groups s.tableName (i.lookedUp s key) =
      if i.IsCount then [d.keyed s i key] else (d.keyed s i key).map ([·]) := by
  have hgroupBy' : (i.lookedUp s key).groupBy = [] := by rw [Intent.lookedUp_eq]; exact hgroupBy
  have hcount : (i.lookedUp s key).IsCount = i.IsCount := by rw [Intent.lookedUp_eq]; rfl
  rw [groups, if_pos hgroupBy', source_lookedUp d hjoins]
  simp only [hcount]

/-- A look-up reads a row exactly if its key has more rows than are skipped, a count being one row. -/
theorem select_lookedUp_ne_nil (hjoins : i.joins = []) (hgroupBy : i.groupBy = []) {skipped : Option Int}
    (hskipped : i.skipped = .ok skipped) : d.select s.tableName (i.lookedUp s key) ≠ [] ↔
      (skipped.getD 0).toNat < if i.IsCount then 1 else (d.keyed s i key).length := by
  have hnumber : (if i.IsCount then [d.keyed s i key] else (d.keyed s i key).map ([·])).length =
      if i.IsCount then 1 else (d.keyed s i key).length := by
    split
    · rfl
    · exact List.length_map _
  rw [← List.length_pos_iff, select_lookedUp d hskipped, List.length_take, List.length_drop, List.length_map,
    (d.perm _ _).length_eq, groups_lookedUp d hjoins hgroupBy, hnumber]
  omega

/-- A row that a look-up reads is one of its key. -/
theorem exists_keyed_of_mem_select (hjoins : i.joins = []) (hgroupBy : i.groupBy = []) (hcount : ¬ i.IsCount)
    {skipped : Option Int} (hskipped : i.skipped = .ok skipped) {row : Row}
    (h : row ∈ d.select s.tableName (i.lookedUp s key)) :
    ∃ r ∈ d.keyed s i key, row = d.shown (Compile.selectList s.tableName i) [r] := by
  rw [select_lookedUp d hskipped, groups_lookedUp d hjoins hgroupBy, if_neg hcount] at h
  obtain ⟨group, hgroup, rfl⟩ := List.mem_map.1 (List.mem_of_mem_drop (List.mem_of_mem_take h))
  obtain ⟨r, hr, rfl⟩ := List.mem_map.1 ((d.perm _ _).mem_iff.1 hgroup)
  have hrow : d.row s.tableName (i.lookedUp s key) [r] = d.shown (Compile.selectList s.tableName i) [r] := by
    rw [row, Intent.lookedUp_eq]
    exact if_neg hcount
  exact ⟨r, hr, hrow⟩

end Contents

/-! ### What is sent -/

/-- What follows an operation that fails is not done. -/
theorem Operation.perform_bind_error {α β : Type} {x : Operation α} {f : α → Operation β} {s : System} {e : Failure}
    (h : (x.perform s).1 = .error e) : ((x >>= f).perform s).1 = .error e := by
  rw [perform_bind]
  split
  · rename_i hx
    rw [hx] at h
    cases h
  · rename_i hx
    rw [hx] at h
    cases h
    rfl

namespace Terminal

variable {env : Surroundings} {s : Schema} {key : Value} {i : Intent} {sys : System}

theorem log_find : ((Terminal.find key).scripted env s i).script.log sys =
    (scriptedRead env s (withoutDeleted s
      { i with conditions := [.compare s.primaryKey "=" key Junction.and.word], limit := .int 1 })).script.log sys :=
  (Script.log_andThen_silent (fun _ _ => rfl) _ _).trans (Script.log_andThen_silent (fun _ _ => rfl) _ _)

/-- A look-up in a chain without joins, groups and relations sends its one statement. -/
theorem log_lookup (hraw : i.rawQuery = none) (hjoins : i.joins = []) (hgroupBy : i.groupBy = [])
    (hrelations : i.relations = []) {skipped : Option Int} (hskipped : i.skipped = .ok skipped) :
    ∃ answer, ((Terminal.find key).scripted env s i).script.log sys =
      [.statement (keyQuestion s i key skipped) answer] := by
  obtain ⟨free, hcompile, hquestion⟩ := Compile.compile_lookedUp s key hraw hjoins hgroupBy
  rw [hskipped] at hcompile
  obtain ⟨answer, related, hlog, hrelated⟩ := @log_scriptedRead env s _ sys _ hcompile
  have hnone : related = [] := hrelated (by rw [Contents.withoutDeleted_eq]; exact hrelations)
  rw [log_find, hlog, hquestion, hnone]
  exact ⟨answer, rfl⟩

/-- Without a statement a look-up fails, and sends nothing. -/
theorem lookup_error (hraw : i.rawQuery = none) (hjoins : i.joins = []) (hgroupBy : i.groupBy = []) {e : Failure}
    (hskipped : i.skipped = .error e) : ((Terminal.find key).scripted env s i).script.log sys = [] ∧
      (((Terminal.find key).perform env s i).perform sys).1 = .error e := by
  obtain ⟨free, hcompile, -⟩ := Compile.compile_lookedUp s key hraw hjoins hgroupBy
  rw [hskipped] at hcompile
  obtain ⟨hlog, hread⟩ := @log_scriptedRead_error env s _ sys e hcompile
  refine ⟨log_find.trans hlog, ?_⟩
  rw [(does_run env s i _).perform_eq]
  exact Operation.perform_bind_error (Operation.perform_bind_error hread)

end Terminal

/-- Any chain on a class without joins, groups and relations, and a look-up of any key that is no list at its end. If
the offset of the chain counts and is no number, the look-up fails and sends nothing. Else it sends one statement,
which has the key, and that a row has not been deleted if the chain leaves out deleted rows, as its only conditions,
and asks for one row behind those that the chain skips; where the client comes to an open connection and the store
answers, it is answered and requested once. It reads a row exactly if its key has more rows than are skipped, and that
is one of them. -/
theorem key_found_unless_skipped (s : Schema) (classes : Catalogue) (calls : List ChainCall) (key : Value)
    (hkey : key.isList = false) (hjoins : (Model.called classes ⟨s, .empty⟩ calls).intent.joins = [])
    (hgroupBy : (Model.called classes ⟨s, .empty⟩ calls).intent.groupBy = [])
    (hrelations : (Model.called classes ⟨s, .empty⟩ calls).intent.relations = []) (env : Surroundings) (sys : System) :
    let m := Model.called classes ⟨s, .empty⟩ calls
    let i := m.intent
    let log := ((Terminal.find key).scripted env s i).script.log (Session.fresh sys)
    let finished := (m.finish env (.find key) (Session.fresh sys)).2
    match i.skipped with
    | .error e => log = [] ∧ finished.1 = .error e
    | .ok skipped =>
      let q := keyQuestion s i key skipped
      let dialect := sys.adapter.kind.dialect
      (∃ answer, log = [.statement q answer]) ∧
        ((Session.fresh sys).Obliges → ∃ answer opened, log = [.statement q (.ok answer)] ∧
          finished.2.store.requests = opened ++ [(dialect.adapt q.sql, some (q.bindings.map dialect.taken))] ∧
          ∀ x ∈ opened, x = openingRequest) ∧
        ∀ {ρ κ : Type} [DecidableEq κ] (d : Contents ρ κ),
          d.source s.tableName (i.lookedUp s key) = d.keyed s i key ∧
          (d.select s.tableName (i.lookedUp s key) ≠ [] ↔
            (skipped.getD 0).toNat < if i.IsCount then 1 else (d.keyed s i key).length) ∧
          (¬ i.IsCount → ∀ row ∈ d.select s.tableName (i.lookedUp s key),
            ∃ r ∈ d.keyed s i key, row = d.shown (Compile.selectList s.tableName i) [r]) := by
  intro m i log finished
  have hraw : i.rawQuery = none := (Chain.isChained_called classes s calls).rawQuery
  have hfinished : finished = ((Terminal.find key).perform env s i).perform (Session.fresh sys) :=
    Chain.finish_called ..
  cases hskipped : i.skipped with
  | error e =>
    rw [hfinished]
    exact Terminal.lookup_error hraw hjoins hgroupBy hskipped
  | ok skipped =>
    dsimp only
    obtain ⟨answer, hlog⟩ := @Terminal.log_lookup env s key i (Session.fresh sys) hraw hjoins hgroupBy hrelations
      skipped hskipped
    refine ⟨⟨answer, hlog⟩, fun hobliges => ?_, fun d => ⟨d.source_lookedUp hjoins,
      d.select_lookedUp_ne_nil hjoins hgroupBy hskipped, fun hcount row hrow =>
        d.exists_keyed_of_mem_select hjoins hgroupBy hcount hskipped hrow⟩⟩
    rw [hfinished, ((Terminal.find key).scripted env s i).performs]
    exact Script.request_of_log_singleton hlog hobliges rfl (List.cons_ne_nil _ _) (scalar_keyQuestion hkey)

/-- Users above an age, kept when they are deleted, of which those from some row on are looked for. -/
def olderUsers (offset : Int) : Intent :=
  (Model.called .start ⟨keepingUsers, .empty⟩ [.whereArgs .and [.text "age", .text ">", .int 40],
    .orderBy "name" (.text "DESC"), .limit (.int 10) (.int offset)]).intent

/-- What passes when one of such users is looked up by its key. -/
def lookupLog (offset : Int) : List Exchange :=
  ((Terminal.find (.int 7)).scripted ⟨.start, default⟩ keepingUsers (olderUsers offset)).script.log
    (Session.fresh connectedPlain)

/-- Behind a limit without an offset the user is found. -/
theorem key_found_behind_limit :
    let text := "SELECT users.* FROM users WHERE users.id = ? AND users.deleted_at IS NULL ORDER BY users.name DESC " ++
      "LIMIT ?"
    ((Value.int 7).isList = false ∧ (olderUsers 0).joins = [] ∧ (olderUsers 0).groupBy = [] ∧
        (olderUsers 0).relations = []) ∧
      (Session.fresh connectedPlain).Obliges ∧
      (∃ answer, lookupLog 0 = [.statement ⟨text, [.int 7, .int 1]⟩ (.ok answer)]) ∧
      (statuses [1]).select "users" ((olderUsers 0).lookedUp keepingUsers (.int 7)) ≠ [] := by
  intro text
  have hobliges : (Session.fresh connectedPlain).Obliges := ⟨_, rfl, rfl, fun _ h => by cases h⟩
  obtain ⟨-, hanswered, hrows⟩ := key_found_unless_skipped keepingUsers .start
    [.whereArgs .and [.text "age", .text ">", .int 40], .orderBy "name" (.text "DESC"), .limit (.int 10) (.int 0)]
    (.int 7) rfl rfl rfl rfl ⟨.start, default⟩ connectedPlain
  obtain ⟨answer, -, hlog, -⟩ := hanswered hobliges
  exact ⟨⟨rfl, rfl, rfl, rfl⟩, hobliges, ⟨answer, hlog⟩, (hrows (statuses [1])).2.1.2 (by decide)⟩

/-- Behind an offset the user is not found: the statement skips as many of the rows with its key, of which there is
one. -/
theorem key_lost_behind_offset :
    let text := "SELECT users.* FROM users WHERE users.id = ? AND users.deleted_at IS NULL ORDER BY users.name DESC " ++
      "LIMIT ? OFFSET ?"
    (∃ answer, lookupLog 20 = [.statement ⟨text, [.int 7, .int 1, .int 20]⟩ answer]) ∧
      ((statuses [1]).keyed keepingUsers (olderUsers 20) (.int 7)).length = 1 ∧
      (statuses [1]).select "users" ((olderUsers 20).lookedUp keepingUsers (.int 7)) = [] :=
  ⟨⟨_, rfl⟩, rfl, rfl⟩

end RecordMapper
