import RecordMapper.Query.Compile

/-!
The parts of a statement. Whatever is proved about a compiled statement starts from `compile_eq_ok`, which says of
which parts a statement consists that was compiled, and goes on with what the parts consist of.
-/
namespace RecordMapper

/-- Two results one after the other are a result exactly if both are. -/
theorem bind_eq_ok {ε α β : Type} {r : Except ε α} {next : α → Except ε β} {b : β} :
    r >>= next = .ok b ↔ ∃ a, r = .ok a ∧ next a = .ok b := by
  cases r with
  | error e => exact ⟨nofun, fun ⟨_, h, _⟩ => nomatch h⟩
  | ok a => exact ⟨fun h => ⟨a, rfl, h⟩, fun ⟨_, h, hnext⟩ => Except.ok.inj h ▸ hnext⟩

/-- What follows a result is done with it. -/
theorem ok_bind {ε α β : Type} (a : α) (next : α → Except ε β) : (.ok a >>= next) = next a := rfl

@[simp] theorem Layout.render_words (r : Value → String) (s : String) : render r (words s) = s :=
  String.append_empty

namespace Compile

open Layout

/-- The conditions behind the first, one by one. -/
theorem furtherConditions_cons_eq_ok {table : String} {c : Clause} {rest : List Clause} {l : Layout} :
    furtherConditions table (c :: rest) = .ok l ↔ ∃ this further, condition table c = .ok this ∧
      furtherConditions table rest = .ok further ∧ l = words (" " ++ c.junction ++ " ") ++ this ++ further := by
  rw [furtherConditions, bind_eq_ok]
  constructor
  · rintro ⟨this, hthis, h⟩
    obtain ⟨further, hfurther, h⟩ := bind_eq_ok.1 h
    exact ⟨this, further, hthis, hfurther, (Except.ok.inj h).symm⟩
  · rintro ⟨this, further, hthis, hfurther, rfl⟩
    exact ⟨this, hthis, bind_eq_ok.2 ⟨further, hfurther, rfl⟩⟩

/-- All conditions: the first, and the ones behind it. -/
theorem conditions_cons_eq_ok {table : String} {c : Clause} {rest : List Clause} {l : Layout} :
    conditions table (c :: rest) = .ok l ↔ ∃ first further, condition table c = .ok first ∧
      furtherConditions table rest = .ok further ∧ l = words " WHERE " ++ first ++ further := by
  rw [conditions, bind_eq_ok]
  constructor
  · rintro ⟨first, hfirst, h⟩
    obtain ⟨further, hfurther, h⟩ := bind_eq_ok.1 h
    exact ⟨first, further, hfirst, hfurther, (Except.ok.inj h).symm⟩
  · rintro ⟨first, further, hfirst, hfurther, rfl⟩
    exact ⟨first, hfirst, bind_eq_ok.2 ⟨further, hfurther, rfl⟩⟩

/-- A record to be written is there and has a column. -/
theorem requireData_eq_ok {table : String} {a : Action} {i : Intent} {data : Row} :
    requireData table a i = .ok data ↔ i.data = some data ∧ data ≠ [] := by
  rw [requireData]
  split
  · rename_i entry rest hdata
    rw [hdata]
    constructor
    · rintro ⟨⟩
      exact ⟨rfl, List.cons_ne_nil entry rest⟩
    · rintro ⟨h, -⟩
      rw [Option.some.inj h]
  · rename_i hnone
    constructor
    · rintro ⟨⟩
    · rintro ⟨h, hne⟩
      obtain ⟨entry, rest, rfl⟩ := List.exists_cons_of_ne_nil hne
      exact absurd h (hnone entry rest)

/-- The parts of a statement: its beginning, joins, conditions, grouping and order, and range. -/
theorem statement_eq_ok {table : String} {a : Action} {i : Intent} {l : Layout} :
    statement table a i = .ok l ↔ ∃ start filtered tail, head table a i = .ok start ∧
      conditions table i.conditions = .ok filtered ∧ range i = .ok tail ∧
      l = start ++ words (String.join (i.joins.map (joinText table))) ++ filtered ++
        words (grouping i ++ ordering table i) ++ tail := by
  rw [statement, bind_eq_ok]
  constructor
  · rintro ⟨start, hstart, h⟩
    obtain ⟨filtered, hfiltered, h⟩ := bind_eq_ok.1 h
    obtain ⟨tail, htail, h⟩ := bind_eq_ok.1 h
    exact ⟨start, filtered, tail, hstart, hfiltered, htail, (Except.ok.inj h).symm⟩
  · rintro ⟨start, filtered, tail, hstart, hfiltered, htail, rfl⟩
    exact ⟨start, hstart, bind_eq_ok.2 ⟨filtered, hfiltered, bind_eq_ok.2 ⟨tail, htail, rfl⟩⟩⟩

end Compile

/-- Without a raw query, the statement of an intent is that of its action. -/
theorem Intent.compile_eq_ok {table : String} {i : Intent} {l : Layout} (hraw : i.rawQuery.getD "" = "") :
    i.compile table = .ok l ↔ ∃ a, i.action = .known a ∧ Compile.statement table a i = .ok l := by
  rw [Intent.compile]
  cases hr : i.rawQuery with
  | none => cases ha : i.action <;> simp
  | some sql =>
    rw [hr, Option.getD_some] at hraw
    subst hraw
    cases ha : i.action <;> simp

end RecordMapper
