import RecordMapper.Proofs.ShortBindings

/-!
Statements for a file. An open adapter of a file respells the beginning of a compiled statement, widens its lists and
writes times as text, one after the other. Main statement: each of the three does its own part and nothing else. The
driver is given the statement as it was compiled, with another verb if it skips duplicates, and with a question mark
for each item of a list; and it is given one value for each question mark, none of which is a list or a time.
-/
namespace RecordMapper

/-- A statement with the beginning of an insert that skips duplicates spelled as in a file, and all else as it is. -/
def fileSpelling (sql : String) : String :=
  match Text.after? "INSERT IGNORE INTO".toList sql.toList with
  | some rest => "INSERT OR IGNORE INTO" ++ String.ofList rest
  | none => sql

/-- One question mark for each value that a binding consists of. -/
def marksOf (v : Value) : String := ", ".intercalate ((bound v).map fun _ => "?")

/-- Whether a value is a moment or a date. -/
def Value.isTime : Value → Bool
  | moment _ | date _ => true
  | _ => false

/-- How a value is sent to a file: a time as its text, any other value as it is. -/
inductive Value.SentAs : Value → Value → Prop where
  | moment (t : Moment) : SentAs (.moment t) (.text (t.text ' '))
  | date (d : Date) : SentAs (.date d) (.text d.text)
  | other {v : Value} (h : v.isTime = false) : SentAs v v

/-- Lists are given to comparisons with lists only, and none of them has a list among its items. -/
structure Intent.ListsInPlace (i : Intent) : Prop where
  takesList : ∀ p ∈ i.places, p.2.isList = true → p.1.takesList = true
  scalar : ∀ p ∈ i.places, ∀ items, p.2 = .list items → ∀ v ∈ items, v.isList = false

/-! ### Values -/

theorem Value.sentAs_toSQLite (v : Value) : v.SentAs (Dialect.toSQLite v) := by
  cases v with
  | moment t => exact .moment t
  | date d => exact .date d
  | _ => exact .other rfl

/-- What is sent is a list only if the value is one, and no time. -/
theorem Value.SentAs.isList_isTime {v w : Value} (h : v.SentAs w) : w.isList = v.isList ∧ w.isTime = false := by
  cases h with
  | moment | date => exact ⟨rfl, rfl⟩
  | other hother => exact ⟨rfl, hother⟩

theorem forall₂_toSQLite (vs : List Value) : List.Forall₂ Value.SentAs vs (vs.map Dialect.toSQLite) := by
  rw [List.forall₂_map_right_iff, List.forall₂_same]
  exact fun v _ => v.sentAs_toSQLite

/-- The marks of a binding, but for an empty list, are one for each value. -/
theorem toList_marksOf {v : Value} (h : v.isList = true → bound v ≠ []) : (marksOf v).toList = slotMarks v := by
  rw [← Layout.toList_sql_spread_slot, Layout.sql, Layout.render_spread_slot, marksOf]
  cases v with
  | list items =>
    have hitems : ¬ items.isEmpty = true := fun hempty => h rfl (List.isEmpty_iff.1 hempty)
    rw [slotText, if_neg hitems]
    rfl
  | _ => exact congrArg String.toList String.intercalate_singleton

/-! ### Texts -/

namespace Layout

/-- A statement of plain text has no question marks but those of its values. -/
theorem count_sql : ∀ l : Layout, l.isPlain = true → l.sql.toList.count '?' = l.bindings.length
  | [], _ => rfl
  | .text s :: rest, h => by
    rw [isPlain, Bool.and_eq_true] at h
    have hnone : s.toList.count '?' = 0 := by
      refine List.count_eq_zero.2 fun hmark => ?_
      exact absurd (List.all_eq_true.1 h.1 '?' hmark) (by decide)
    rw [toList_sql_text, List.count_append, hnone, Nat.zero_add, count_sql rest h.2, bindings]
  | .slot v :: rest, h => by
    rw [toList_sql_slot, List.count_cons_self, count_sql rest h, bindings, List.length_cons]

/-- Spreading its lists leaves the text of a statement plain. -/
theorem isPlain_spread : ∀ l : Layout, l.isPlain = true → l.spread.isPlain = true
  | [], _ => rfl
  | .text s :: rest, h => by
    rw [isPlain, Bool.and_eq_true] at h
    rw [spread_cons, isPlain_append, isPlain_spread rest h.2, Bool.and_true]
    exact (isPlain_words s).trans h.1
  | .slot v :: rest, h => by
    rw [spread_cons, isPlain_append, isPlain_spread rest h, Bool.and_true]
    cases v with
    | list items =>
      cases items with
      | nil => decide
      | cons item items =>
        refine isPlain_separated ", " (by decide) _ fun p hp => ?_
        obtain ⟨_, -, rfl⟩ := List.mem_map.1 hp
        rfl
    | _ => rfl

end Layout

namespace Compile

open Layout

variable {table : String} {i : Intent} {s : String} {rest : Layout}

/-- The spelling of a file changes a compiled statement exactly if it skips duplicates. -/
theorem fileSpelling_verb {verb : String} (hverb : verb ∈ verbs) (text : String) :
    fileSpelling (verb ++ " " ++ text) = Dialect.verb verb ++ " " ++ text := by
  have hnone {sql : String} (h : Text.after? "INSERT IGNORE INTO".toList sql.toList = none) :
      fileSpelling sql = sql := by
    rw [fileSpelling, h]
  simp only [verbs, List.mem_cons, List.not_mem_nil, or_false] at hverb
  rcases hverb with rfl | rfl | rfl | rfl | rfl
  · exact hnone (by rw [String.toList_append]; rfl)
  · exact hnone (by rw [String.toList_append]; rfl)
  · have hrest : Text.after? "INSERT IGNORE INTO".toList ("INSERT IGNORE INTO" ++ " " ++ text).toList =
        some (" " ++ text).toList := by
      rw [String.append_assoc, String.toList_append]
      rfl
    rw [fileSpelling, hrest]
    dsimp only
    rw [String.ofList_toList, ← String.append_assoc]
    rfl
  · exact hnone (by rw [String.toList_append]; rfl)
  · exact hnone (by rw [String.toList_append]; rfl)

theorem adaptSQLite_sql (hs : Begins s) :
    Dialect.adaptSQLite (sql (.text s :: rest)) = fileSpelling (sql (.text s :: rest)) := by
  obtain ⟨verb, hverb, text, rfl⟩ := hs
  have hbehind : sql (.text (verb ++ " " ++ text) :: rest) = verb ++ " " ++ (text ++ sql rest) := String.append_assoc
  rw [hbehind, Dialect.adaptSQLite_verb hverb, fileSpelling_verb hverb]

/-- The beginning of a statement is plain in either spelling. -/
theorem isPlain_respell (hs : Begins s) (h : isPlain (.text s :: rest) = true) :
    isPlain (Dialect.sqlite.respell (.text s :: rest)) = true := by
  obtain ⟨verb, hverb, text, rfl⟩ := hs
  rw [isPlain, Bool.and_eq_true, isPlainText_append, Bool.and_eq_true] at h
  have hplain : isPlainText (Dialect.verb verb ++ " ") = true := by
    simp only [verbs, List.mem_cons, List.not_mem_nil, or_false] at hverb
    rcases hverb with rfl | rfl | rfl | rfl | rfl <;> decide
  rw [Dialect.respell, Dialect.adaptSQLite_verb hverb, isPlain, isPlainText_append, hplain, h.1.2, h.2]
  rfl

end Compile

/-! ### Places -/

theorem Row.takesList_of_mem_places {a : Action} {row : Row} : ∀ p ∈ row.places a, p.1.takesList = false := by
  have hmapped {f : String × Value → Place × Value} (hf : ∀ entry, (f entry).1.takesList = false) (row : Row) :
      ∀ p ∈ row.map f, p.1.takesList = false := by
    intro p hp
    obtain ⟨entry, -, rfl⟩ := List.mem_map.1 hp
    exact hf entry
  cases a with
  | select | delete => exact fun p hp => nomatch hp
  | insert | insertIgnore => exact hmapped (fun _ => rfl) row
  | insertUpdate =>
    exact fun p hp => (List.mem_append.1 hp).elim (hmapped (fun _ => rfl) row p) (hmapped (fun _ => rfl) _ p)
  | update => exact hmapped (fun _ => rfl) _

/-- A condition that is compared with a list is not compared with an empty one. -/
theorem Clause.bound_ne_nil {c : Clause} {p : Place × Value} (hp : p ∈ c.places) (hlist : p.1.takesList = true) :
    bound p.2 ≠ [] := by
  cases c with
  | raw text junction => cases hp
  | compare field operator v junction =>
    rw [Clause.places] at hp
    split at hp
    · split at hp
      · cases hp
      · rename_i items hne
        rw [List.mem_singleton.1 hp]
        exact hne
    · rename_i hoperator
      split at hp
      · cases hp
      · rw [List.mem_singleton.1 hp, Place.takesList] at hlist
        simp only [Bool.or_eq_true, beq_iff_eq] at hlist
        exact absurd hlist hoperator

/-- A place that takes lists is not given an empty one: its condition is decided in the text. -/
theorem Intent.bound_ne_nil {i : Intent} {p : Place × Value} (hp : p ∈ i.places) (hlist : p.1.takesList = true) :
    bound p.2 ≠ [] := by
  rw [Intent.places] at hp
  cases ha : i.action with
  | unknown v =>
    rw [ha] at hp
    cases hp
  | known a =>
    rw [ha] at hp
    simp only [List.mem_append] at hp
    rcases hp with (hdata | hcondition) | hrange
    · rw [Row.takesList_of_mem_places p hdata] at hlist
      cases hlist
    · obtain ⟨c, -, hplace⟩ := List.mem_flatMap.1 hcondition
      exact Clause.bound_ne_nil hplace hlist
    · rw [Intent.rangePlaces] at hrange
      split at hrange
      · rcases List.mem_cons.1 hrange with rfl | hoffset
        · cases hlist
        · split at hoffset
          · rw [List.mem_singleton.1 hoffset] at hlist
            cases hlist
          · cases hoffset
      · cases hrange

/-! ### What a file receives -/

/-- What an adapter of a file makes of a statement of plain text whose lists are not empty. -/
theorem AdapterKind.sqlite_request {table : String} {a : Action} {i : Intent} {l : Layout}
    (hl : Compile.statement table a i = .ok l) (hplain : l.isPlain = true)
    (hlists : ∀ v ∈ l.bindings, v.isList = true → bound v ≠ []) :
    ∃ text, AdapterKind.sqlite.request l.sql l.bindings =
        .ok (text, some ((l.bindings.flatMap bound).map Dialect.toSQLite)) ∧
      text = fillSlots (fileSpelling l.sql) (l.bindings.map marksOf) ∧
      text.toList.count '?' = (l.bindings.flatMap bound).length := by
  obtain ⟨s, rest, rfl, hs⟩ := Compile.begins_statement hl
  have haligned := Compile.isAligned_respell hs (Layout.isAligned_of_isPlain hplain)
  have hspelled := Compile.isPlain_respell hs hplain
  refine ⟨(Dialect.sqlite.respell (.text s :: rest)).spread.sql, ?_, ?_, ?_⟩
  · have hspread := haligned.expandBindings_eq
    rw [Layout.bindings_spread] at hspread
    rw [AdapterKind.request, Compile.sql_respell hs]
    exact congrArg (Except.map _) hspread
  · have hmarks : (Layout.bindings (.text s :: rest)).map (String.toList ∘ marksOf) =
        (Layout.bindings (.text s :: rest)).map slotMarks :=
      List.map_congr_left fun v hv => toList_marksOf (hlists v hv)
    rw [fillSlots, List.map_map, hmarks, ← Compile.adaptSQLite_sql hs, Compile.sql_respell hs, ← widened]
    exact (congrArg String.ofList haligned.widened_sql).trans (String.ofList_toList ..) |>.symm
  · rw [Layout.count_sql _ (Layout.isPlain_spread _ hspelled), Layout.bindings_spread]
    rfl

/-- Any table and any query of plain texts that compiles to a statement, with lists for nothing but comparisons with
lists, and any system with an open adapter of a file. Of the statement, the driver is given one request. Its text is the
compiled one, spelled as a file has it, with as many question marks for a value as it consists of, and all else as it
is. Its values are those that the bindings consist of, in order, with each time as its text; there is one for each
question mark, and none of them is a list or a time. -/
theorem file_receives_statement {table : String} {i : Intent} {l : Layout} (hraw : i.rawQuery.getD "" = "")
    (hplain : PlainTexts table i) (hlists : i.ListsInPlace) (hl : i.compile table = .ok l) (s : System)
    (hkind : s.adapter.kind = .sqlite) (hconnected : s.adapter.connected = true)
    (hpool : s.adapter.pool.isSome = true) :
    ∃ text values, ((Adapter.execute l.sql (some l.bindings)).perform s).2.store.requests =
        s.store.requests ++ [(text, some values)] ∧
      text = fillSlots (fileSpelling l.sql) (l.bindings.map marksOf) ∧
      List.Forall₂ Value.SentAs (l.bindings.flatMap bound) values ∧
      text.toList.count '?' = values.length ∧
      ∀ v ∈ values, v.isList = false ∧ v.isTime = false := by
  obtain ⟨a, ha, hstatement⟩ := (Intent.compile_eq_ok hraw).1 hl
  have hplaces := Compile.places_of_statement ha hstatement
  have hgiven {v : Value} (hv : v ∈ l.bindings) : ∃ p ∈ i.places, p.2 = v := by
    rw [hplaces] at hv
    exact List.mem_map.1 hv
  have hnonempty : ∀ v ∈ l.bindings, v.isList = true → bound v ≠ [] := by
    intro v hv hlist
    obtain ⟨p, hp, rfl⟩ := hgiven hv
    exact Intent.bound_ne_nil hp (hlists.takesList p hp hlist)
  have hscalar : ∀ v ∈ l.bindings.flatMap bound, v.isList = false := by
    refine isList_of_mem_flatMap_bound fun items hitems => ?_
    obtain ⟨p, hp, hitem⟩ := hgiven hitems
    exact hlists.scalar p hp items hitem
  obtain ⟨text, hrequest, htext, hcount⟩ :=
    AdapterKind.sqlite_request hstatement (Compile.isPlain_statement hplain hstatement) hnonempty
  have hsent := (Adapter.perform_execute l.sql l.bindings s).2
  rw [hkind, hrequest, Adapter.isOpen, hconnected, hpool, Bool.and_true, Bool.or_true, if_pos rfl] at hsent
  refine ⟨text, _, hsent, htext, forall₂_toSQLite _, ?_, fun v hv => ?_⟩
  · rw [hcount, List.length_map]
  · obtain ⟨value, hvalue, rfl⟩ := List.mem_map.1 hv
    obtain ⟨hlist, htime⟩ := value.sentAs_toSQLite.isList_isTime
    exact ⟨hlist.trans (hscalar value hvalue), htime⟩

/-- An adapter of a file that is connected, over a store that answers everything with no rows. -/
def connectedFile : System := { (default : System) with adapter := ⟨.sqlite, true, some default⟩, store := .quiet }

/-- A visit on a day, noted unless it is there; a list and a limit are given as well. -/
def notedVisit : Intent where
  action := .known .insertIgnore
  data := some [("day", .date ⟨2024, 5, 1⟩), ("note", .text "it's?"), ("seen", .null)]
  conditions := [.compare "user" "IN" (.list [.int 1, .date ⟨2024, 5, 2⟩, .int 3]) "AND"]
  limit := .int 10

theorem connectedFile_receives_notedVisit :
    (∃ l, notedVisit.compile "visits" = .ok l) ∧ PlainTexts "visits" notedVisit ∧ notedVisit.ListsInPlace ∧
      ∀ l, notedVisit.compile "visits" = .ok l →
        ∃ text values, ((Adapter.execute l.sql (some l.bindings)).perform connectedFile).2.store.requests =
            [(text, some values)] ∧
          text = "INSERT OR IGNORE INTO visits (day, note, seen) VALUES (?, ?, ?) " ++
            "WHERE visits.user IN (?, ?, ?) LIMIT ?" ∧
          List.Forall₂ Value.SentAs
            [.date ⟨2024, 5, 1⟩, .text "it's?", .null, .int 1, .date ⟨2024, 5, 2⟩, .int 3, .int 10] values ∧
          text.toList.count '?' = values.length ∧ ∀ v ∈ values, v.isList = false ∧ v.isTime = false := by
  have hplain : PlainTexts "visits" notedVisit := by
    refine ⟨by decide, by decide, ?_, by decide, by decide, ?_, by decide⟩
    · rintro _ ⟨⟩
      decide
    · rintro _ ⟨⟩
  have hlists : notedVisit.ListsInPlace := by
    have hplaces : notedVisit.places = [(.inserted "day", .date ⟨2024, 5, 1⟩), (.inserted "note", .text "it's?"),
        (.inserted "seen", .null), (.compared "user" "IN", .list [.int 1, .date ⟨2024, 5, 2⟩, .int 3]),
        (.limit, .int 10)] := rfl
    refine ⟨by decide, fun p hp items hitems => ?_⟩
    rw [hplaces] at hp
    simp only [List.mem_cons, List.not_mem_nil, or_false] at hp
    rcases hp with rfl | rfl | rfl | rfl | rfl <;> cases hitems
    decide
  refine ⟨⟨_, rfl⟩, hplain, hlists, fun l hl => ?_⟩
  obtain ⟨text, values, hsent, htext, hvalues, hcount, hscalar⟩ :=
    file_receives_statement rfl hplain hlists hl connectedFile rfl rfl rfl
  cases hl
  exact ⟨text, values, hsent, htext.trans (by decide), hvalues, hcount, hscalar⟩

end RecordMapper
