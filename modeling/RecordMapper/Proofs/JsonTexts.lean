import RecordMapper.Proofs.CastRows
import RecordMapper.Proofs.JsonTokens

/-!
Values as JSON texts. The text of a value tells by its first character what kind of value it is, and it ends where a
comma, a bracket or nothing follows; so the reader, which looks one character ahead, takes every item and every entry
as far as it was written. Main statement: columns with the json cast are written to the store as texts and read back as
they were, for null, truth values, integers that are not too long, texts, and lists and dictionaries of these.
-/
namespace RecordMapper

namespace Json

/-! ### Values -/

/-- The text begins with a character that is no white space and closes no list, and that marks no byte order. -/
def Starts (s : List Char) : Prop := ∃ c rest, s = c :: rest ∧ isGap c = false ∧ c ≠ ']' ∧ c ≠ '\uFEFF'

/-- The text is that of a value: the value is read from it, whatever ends it. -/
structure ReadsAs (depth : Nat) (s : List Char) (v : Value) : Prop where
  starts : Starts s
  reads : ∀ fuel, s.length ≤ fuel → ∀ rest, Ends rest → readValue depth fuel (s ++ rest) = .ok (v, rest)

/-- The text is that of the items of a list. -/
structure ItemsReadAs (depth : Nat) (s : List Char) (items : List Value) : Prop where
  starts : Starts s
  reads : ∀ fuel, s.length < fuel → ∀ rest, readItems depth fuel (s ++ ']' :: rest) = .ok (items, rest)

/-- The text is that of the entries of a dictionary, which begin with a quote. -/
structure EntriesReadAs (depth : Nat) (s : List Char) (entries : List (Value × Value)) : Prop where
  starts : ∃ rest, s = '"' :: rest
  reads : ∀ fuel, s.length < fuel → ∀ rest, readEntries depth fuel (s ++ '\x7d' :: rest) = .ok (entries, rest)

theorem Starts.skipGap {s : List Char} (h : Starts s) (rest : List Char) : skipGap (s ++ rest) = s ++ rest := by
  obtain ⟨c, tail, rfl, hgap, -⟩ := h
  exact List.dropWhile_cons_of_neg (by simp [hgap])

section
variable {depth : Nat} {s t : List Char} {v : Value} {items : List Value} {entries : List (Value × Value)}

/-- It is enough to read the value with some fuel, since its text is not empty. -/
theorem readsAs_of_succ (hs : Starts s)
    (hread : ∀ fuel, s.length ≤ fuel + 1 → ∀ rest, Ends rest → readValue depth (fuel + 1) (s ++ rest) = .ok (v, rest)) :
    ReadsAs depth s v := by
  refine ⟨hs, fun fuel hfuel rest hrest => ?_⟩
  cases fuel with
  | zero =>
    obtain ⟨c, tail, rfl, -⟩ := hs
    exact absurd hfuel (Nat.not_succ_le_zero _)
  | succ fuel => exact hread fuel hfuel rest hrest

/-- A word or a number is a value. -/
theorem readsAs_of_scalar (hs : Starts s) (hplain : ∀ c ∈ s.head?, c ≠ '"' ∧ c ≠ '[' ∧ c ≠ '\x7b')
    (hread : ∀ rest, Ends rest → readScalar (s ++ rest) = .ok (v, rest)) : ReadsAs depth s v := by
  refine readsAs_of_succ hs fun fuel _ rest hrest => ?_
  obtain ⟨c, tail, rfl, -⟩ := hs
  obtain ⟨hquote, hlist, hdict⟩ := hplain c rfl
  rw [readValue]
  · exact hread rest hrest
  all_goals
    rintro tail ⟨⟩
    contradiction

theorem readsAs_null : ReadsAs depth "null".toList .null :=
  readsAs_of_scalar ⟨'n', _, rfl, by decide⟩ (by simp) fun _ _ => rfl

theorem readsAs_bool (b : Bool) : ReadsAs depth (if b then "true" else "false").toList (.bool b) := by
  cases b with
  | false => exact readsAs_of_scalar ⟨'f', _, rfl, by decide⟩ (by simp) fun _ _ => rfl
  | true => exact readsAs_of_scalar ⟨'t', _, rfl, by decide⟩ (by simp) fun _ _ => rfl

/-- What begins an integer begins nothing else. -/
theorem plain_of_isDigit {c : Char} (h : (c.isDigit || c == '-') = true) :
    (isGap c = false ∧ c ≠ ']' ∧ c ≠ '\uFEFF') ∧ c ≠ '"' ∧ c ≠ '[' ∧ c ≠ '\x7b' := by
  have hne {d : Char} (hd : (d.isDigit || d == '-') = false) : c ≠ d := by
    rintro rfl
    rw [hd] at h
    cases h
  refine ⟨⟨?_, hne rfl, hne rfl⟩, hne rfl, hne rfl, hne rfl⟩
  simp [isGap, hne (d := ' ') rfl, hne (d := '\t') rfl, hne (d := '\n') rfl, hne (d := '\r') rfl]

theorem readsAs_int {n : Int} (h : Numeral.isTooLong n = false) : ReadsAs depth (toString n).toList (.int n) := by
  obtain ⟨c, tail, htext, hc⟩ : ∃ c tail, (toString n).toList = c :: tail ∧ (c.isDigit || c == '-') = true := by
    obtain ⟨c, digits, hdigits, hc⟩ := Numeral.toDigits_eq_cons n.natAbs
    rw [Numeral.toList_toString, hdigits, Numeral.signOf]
    split
    · exact ⟨'-', _, rfl, rfl⟩
    · exact ⟨c, _, rfl, by rw [hc, Bool.true_or]⟩
  obtain ⟨hstarts, hplain⟩ := plain_of_isDigit hc
  refine readsAs_of_scalar ⟨c, tail, htext, hstarts⟩ ?_ fun rest hrest => readScalar_toString hrest h
  rw [htext]
  rintro _ ⟨⟩
  exact hplain

theorem readsAs_text (text : String) : ReadsAs depth (writeText text) (.text text) := by
  refine readsAs_of_succ ⟨'"', _, rfl, by decide⟩ fun fuel _ rest _ => ?_
  obtain ⟨hshape, hread⟩ := readText_writeText text rest
  rw [hshape, readValue, hread]

/-! ### Lists -/

theorem ends_cons {c : Char} (h : c = ',' ∨ c = ']' ∨ c = '\x7d') (rest : List Char) : Ends (c :: rest) := by
  rintro _ ⟨⟩
  exact h

/-- The last item. -/
theorem itemsReadAs_last (h : ReadsAs depth s v) : ItemsReadAs depth s [v] := by
  refine ⟨h.starts, fun fuel hfuel rest => ?_⟩
  obtain ⟨fuel, rfl⟩ := Nat.exists_eq_add_of_le' (Nat.zero_lt_of_lt hfuel)
  rw [readItems, h.reads fuel (Nat.le_of_lt_succ hfuel) _ (ends_cons (.inr (.inl rfl)) rest), ok_bind]
  rfl

/-- An item before others. -/
theorem itemsReadAs_cons (h : ReadsAs depth s v) (hrest : ItemsReadAs depth t items) :
    ItemsReadAs depth (s ++ ',' :: ' ' :: t) (v :: items) := by
  obtain ⟨c, tail, hs, hc⟩ := h.starts
  refine ⟨⟨c, tail ++ ',' :: ' ' :: t, by rw [hs, List.cons_append], hc⟩, fun fuel hfuel rest => ?_⟩
  obtain ⟨fuel, rfl⟩ := Nat.exists_eq_add_of_le' (Nat.zero_lt_of_lt hfuel)
  rw [List.length_append, List.length_cons, List.length_cons] at hfuel
  have hgap : skipGap (' ' :: (t ++ ']' :: rest)) = t ++ ']' :: rest := hrest.starts.skipGap _
  have hcomma : skipGap (',' :: ' ' :: (t ++ ']' :: rest)) = ',' :: ' ' :: (t ++ ']' :: rest) := rfl
  rw [List.append_assoc, List.cons_append, List.cons_append, readItems,
    h.reads fuel (by omega) _ (ends_cons (.inl rfl) _), ok_bind]
  simp only [hcomma, hgap, hrest.reads fuel (by omega), ok_bind]
  rfl

/-- The items of a list between brackets. -/
theorem readsAs_list (h : ItemsReadAs depth s items) : ReadsAs (depth + 1) ('[' :: s ++ [']']) (.list items) := by
  refine readsAs_of_succ ⟨'[', _, rfl, by decide⟩ fun fuel hfuel rest _ => ?_
  have hitems := h.reads fuel (by simp at hfuel; omega) rest
  have hgap := h.starts.skipGap (']' :: rest)
  obtain ⟨c, tail, rfl, -, hc, -⟩ := h.starts
  have hshape : '[' :: (c :: tail) ++ [']'] ++ rest = '[' :: (c :: tail ++ ']' :: rest) := by simp
  rw [hshape, readValue, hgap, if_neg (by simp)]
  split
  · rename_i hclosed
    exact absurd (List.cons.inj hclosed).1 hc
  · rw [Nat.add_sub_cancel, hitems]
    rfl

theorem readsAs_emptyList : ReadsAs (depth + 1) ['[', ']'] (.list []) :=
  readsAs_of_succ ⟨'[', _, rfl, by decide⟩ fun _ _ _ _ => rfl

/-! ### Dictionaries -/

/-- The entries of a row as a dictionary. -/
def entriesOf (row : Row) : List (Value × Value) := row.map fun (c, v) => (.text c, v)

/-- A new key goes to the end. -/
theorem setEntry_entriesOf {column : String} (v : Value) : ∀ {row : Row}, column ∉ row.columns →
    Value.setEntry (.text column) v (entriesOf row) = entriesOf (row ++ [(column, v)])
  | [], _ => rfl
  | (c, w) :: rest, h => by
    obtain ⟨hc, hrest⟩ := not_or.1 (List.mem_cons.not.1 h)
    have hkey : ((Value.text c).sameKey (.text column)) = false := beq_eq_false_iff_ne.2 (Ne.symm hc)
    have hkept : Value.setEntry (.text column) v (entriesOf ((c, w) :: rest)) =
        (.text c, w) :: Value.setEntry (.text column) v (entriesOf rest) := if_neg (by simp [hkey])
    rw [hkept, setEntry_entriesOf v hrest]
    rfl

theorem foldl_setEntry : ∀ row done : Row, (done ++ row).columns.Nodup →
    (entriesOf row).foldl (fun done (k, v) => Value.setEntry k v done) (entriesOf done) = entriesOf (done ++ row)
  | [], done, _ => by rw [List.append_nil]; rfl
  | (c, v) :: rest, done, h => by
    have hshape : done ++ (c, v) :: rest = (done ++ [(c, v)]) ++ rest := by simp
    have hnew : c ∉ done.columns := by
      rw [Row.columns, List.map_append, List.map_cons] at h
      exact fun hmem => (List.nodup_append.1 h).2.2 c hmem c List.mem_cons_self rfl
    rw [hshape] at h ⊢
    rw [← foldl_setEntry rest _ h, ← setEntry_entriesOf v hnew]
    rfl

/-- A dictionary has its entries in the order in which they stand in its text, if their keys are different. -/
theorem dictOf_entriesOf {row : Row} (h : row.columns.Nodup) : Value.dictOf (entriesOf row) = row.toValue :=
  congrArg Value.dict (foldl_setEntry row [] h)

section
variable {k : String}

/-- A key and its value, with what follows the value. -/
theorem readEntries_entry (h : ReadsAs depth s v) {fuel : Nat} (hfuel : s.length ≤ fuel) {rest : List Char}
    (hrest : Ends rest) :
    readEntries depth (fuel + 1) (writeText k ++ ':' :: ' ' :: (s ++ rest)) =
      match skipGap rest with
        | '\x7d' :: rest => .ok ([(.text k, v)], rest)
        | ',' :: rest => do
          let (entries, rest) ← readEntries depth fuel (skipGap rest)
          return ((.text k, v) :: entries, rest)
        | _ => .error .comma := by
  obtain ⟨hshape, hread⟩ := readText_writeText k (':' :: ' ' :: (s ++ rest))
  have hgap : skipGap (' ' :: (s ++ rest)) = s ++ rest := h.starts.skipGap rest
  have hcolon : skipGap (':' :: ' ' :: (s ++ rest)) = ':' :: ' ' :: (s ++ rest) := rfl
  rw [hshape, readEntries, hread, ok_bind]
  simp only [hcolon, hgap, h.reads fuel hfuel rest hrest, ok_bind]
  rfl

/-- The last entry. -/
theorem entriesReadAs_last (h : ReadsAs depth s v) :
    EntriesReadAs depth (writeText k ++ ':' :: ' ' :: s) [(.text k, v)] := by
  refine ⟨⟨_, rfl⟩, fun fuel hfuel rest => ?_⟩
  obtain ⟨fuel, rfl⟩ := Nat.exists_eq_add_of_le' (Nat.zero_lt_of_lt hfuel)
  rw [List.length_append, List.length_cons, List.length_cons] at hfuel
  rw [List.append_assoc, List.cons_append, List.cons_append,
    readEntries_entry h (by omega) (ends_cons (.inr (.inr rfl)) rest)]
  rfl

/-- An entry before others. -/
theorem entriesReadAs_cons (h : ReadsAs depth s v) (hrest : EntriesReadAs depth t entries) :
    EntriesReadAs depth (writeText k ++ ':' :: ' ' :: s ++ ',' :: ' ' :: t) ((.text k, v) :: entries) := by
  refine ⟨⟨_, rfl⟩, fun fuel hfuel rest => ?_⟩
  obtain ⟨fuel, rfl⟩ := Nat.exists_eq_add_of_le' (Nat.zero_lt_of_lt hfuel)
  simp only [List.length_append, List.length_cons] at hfuel
  have hgap : skipGap (' ' :: (t ++ '\x7d' :: rest)) = t ++ '\x7d' :: rest := by
    obtain ⟨tail, rfl⟩ := hrest.starts
    rfl
  have hcomma : skipGap (',' :: ' ' :: (t ++ '\x7d' :: rest)) = ',' :: ' ' :: (t ++ '\x7d' :: rest) := rfl
  have hshape : writeText k ++ ':' :: ' ' :: s ++ ',' :: ' ' :: t ++ '\x7d' :: rest =
      writeText k ++ ':' :: ' ' :: (s ++ ',' :: ' ' :: (t ++ '\x7d' :: rest)) := by simp
  rw [hshape, readEntries_entry h (by omega) (ends_cons (.inl rfl) _), hcomma]
  simp only [hgap, hrest.reads fuel (by omega), ok_bind]
  rfl

end

/-- The entries of a dictionary between brackets, each under a key of its own. -/
theorem readsAs_dict {row : Row} (hrow : row.columns.Nodup) (h : EntriesReadAs depth s (entriesOf row)) :
    ReadsAs (depth + 1) ('\x7b' :: s ++ ['\x7d']) row.toValue := by
  refine readsAs_of_succ ⟨'\x7b', _, rfl, by decide⟩ fun fuel hfuel rest _ => ?_
  have hentries := h.reads fuel (by simp at hfuel; omega) rest
  obtain ⟨tail, rfl⟩ := h.starts
  have hshape : '\x7b' :: ('"' :: tail) ++ ['\x7d'] ++ rest = '\x7b' :: ('"' :: tail ++ '\x7d' :: rest) := by simp
  have hgap : skipGap ('"' :: tail ++ '\x7d' :: rest) = '"' :: tail ++ '\x7d' :: rest := rfl
  rw [hshape, readValue, hgap, if_neg (by simp)]
  refine (congrArg (· >>= fun (entries, rest) => Except.ok (Value.dictOf entries, rest)) hentries).trans ?_
  exact congrArg (fun d => Except.ok (d, rest)) (dictOf_entriesOf hrow)

theorem readsAs_emptyDict : ReadsAs (depth + 1) ['\x7b', '\x7d'] (.dict []) :=
  readsAs_of_succ ⟨'\x7b', _, rfl, by decide⟩ fun _ _ _ _ => rfl

end

end Json

/-- Values that JSON has: null, truth values, integers that are not too long, texts, and lists and dictionaries of such
values, the keys of a dictionary being different texts; `depth` bounds the nesting. -/
inductive Value.IsJson : Nat → Value → Prop where
  | null {depth : Nat} : IsJson depth .null
  | bool {depth : Nat} (b : Bool) : IsJson depth (.bool b)
  | int {depth : Nat} {n : Int} (h : Numeral.isTooLong n = false) : IsJson depth (.int n)
  | text {depth : Nat} (s : String) : IsJson depth (.text s)
  | list {depth : Nat} {items : List Value} (h : ∀ v ∈ items, IsJson depth v) : IsJson (depth + 1) (.list items)
  | dict {depth : Nat} {row : Row} (hrow : row.columns.Nodup) (h : ∀ p ∈ row, IsJson depth p.2) :
    IsJson (depth + 1) row.toValue

namespace Json

/-- The value is written, and it is read from what is written. -/
def ReadsBack (depth : Nat) (v : Value) : Prop := ∃ s, writeChars depth v = .ok s ∧ ReadsAs depth s v

section
variable {depth : Nat}

/-- The items of a list, if there are any. -/
theorem itemsReadAs_writeItems : ∀ {items : List Value}, items ≠ [] → (∀ v ∈ items, ReadsBack depth v) →
    ∃ s, writeItems depth items = .ok s ∧ ItemsReadAs depth s items
  | [v], _, h => by
    obtain ⟨s, hs, hread⟩ := h v List.mem_cons_self
    exact ⟨s, by rw [writeItems, hs]; rfl, itemsReadAs_last hread⟩
  | v :: w :: rest, _, h => by
    obtain ⟨hv, hrest⟩ := List.forall_mem_cons.1 h
    obtain ⟨s, hs, hread⟩ := hv
    obtain ⟨t, ht, hitems⟩ := itemsReadAs_writeItems (List.cons_ne_nil w rest) hrest
    exact ⟨s ++ ',' :: ' ' :: t, by rw [writeItems, hs, ok_bind, ht]; rfl, itemsReadAs_cons hread hitems⟩

/-- The entries of a dictionary, if there are any. -/
theorem entriesReadAs_writeEntries : ∀ {row : Row}, row ≠ [] → (∀ p ∈ row, ReadsBack depth p.2) →
    ∃ s, writeEntries depth (entriesOf row) = .ok s ∧ EntriesReadAs depth s (entriesOf row)
  | [(k, v)], _, h => by
    obtain ⟨s, hs, hread⟩ := h (k, v) List.mem_cons_self
    refine ⟨writeText k ++ ':' :: ' ' :: s, ?_, entriesReadAs_last hread⟩
    rw [entriesOf, List.map_singleton, writeEntries, writeKey, ok_bind, hs]
    rfl
  | (k, v) :: p :: rest, _, h => by
    obtain ⟨hv, hrest⟩ := List.forall_mem_cons.1 h
    obtain ⟨s, hs, hread⟩ := hv
    obtain ⟨t, ht, hentries⟩ := entriesReadAs_writeEntries (List.cons_ne_nil p rest) hrest
    refine ⟨writeText k ++ ':' :: ' ' :: s ++ ',' :: ' ' :: t, ?_, entriesReadAs_cons hread hentries⟩
    rw [entriesOf, List.map_cons, ← entriesOf, writeEntries, writeKey, ok_bind, hs, ok_bind]
    exact congrArg (· >>= fun tail => Except.ok (writeText k ++ ':' :: ' ' :: s ++ ',' :: ' ' :: tail)) ht

end

/-- Values of JSON are written, and read from what is written. -/
theorem readsBack_of_isJson {depth : Nat} {v : Value} (h : v.IsJson depth) : ReadsBack depth v := by
  induction h with
  | null => exact ⟨_, rfl, readsAs_null⟩
  | bool b => exact ⟨_, rfl, readsAs_bool b⟩
  | int h => exact ⟨_, by rw [writeChars, writeInt, if_neg (by simp [h])]; rfl, readsAs_int h⟩
  | text s => exact ⟨_, rfl, readsAs_text s⟩
  | @list depth items h ih =>
    by_cases hitems : items = []
    · subst hitems
      exact ⟨_, rfl, readsAs_emptyList⟩
    · obtain ⟨s, hs, hread⟩ := itemsReadAs_writeItems hitems ih
      refine ⟨'[' :: s ++ [']'], ?_, readsAs_list hread⟩
      rw [writeChars, if_neg (by simp), Nat.add_sub_cancel, hs]
      rfl
  | @dict depth row hrow h ih =>
    by_cases hempty : row = []
    · subst hempty
      exact ⟨_, rfl, readsAs_emptyDict⟩
    · obtain ⟨s, hs, hread⟩ := entriesReadAs_writeEntries hempty ih
      refine ⟨'\x7b' :: s ++ ['\x7d'], ?_, readsAs_dict hrow hread⟩
      rw [Row.toValue, writeChars, if_neg (by simp), Nat.add_sub_cancel, ← entriesOf, hs]
      rfl

/-- A value of JSON is read from its text. -/
theorem read_write {v : Value} (h : v.IsJson Value.maxDepth) : ∃ s, write v = .ok s ∧ read s = .ok v := by
  obtain ⟨s, hs, hread⟩ := readsBack_of_isJson h
  refine ⟨String.ofList s, by rw [write, hs]; rfl, ?_⟩
  have hvalue := hread.reads (2 * s.length + 2) (by omega) [] nofun
  have hgap := hread.starts.skipGap []
  rw [List.append_nil] at hvalue hgap
  have hmark : (s.head? == some '\uFEFF') = false := by
    obtain ⟨c, tail, rfl, -, -, hc⟩ := hread.starts
    exact beq_eq_false_iff_ne.2 fun heq => hc (Option.some.inj heq)
  rw [read, String.toList_ofList, readChars, hmark, hgap, hvalue]
  rfl

end Json

/-- A value of JSON with the json cast is written as a text and read back. -/
theorem Cast.json_readsBack {v : Value} (h : v.IsJson Value.maxDepth) (column : String) :
    Cast.json.ReadsBack column v := by
  obtain ⟨s, hwrite, hread⟩ := Json.read_write h
  refine ⟨.text s, ?_, rfl, ?_⟩
  · rw [convert, writeJson, hwrite]
  · rw [convert, readJson, readJsonText, hread]

namespace Casts

/-- Columns with the json cast that have values of JSON are written to the store as texts, nulls apart, and read back as
they were, dictionaries in their order, and so is the row. -/
theorem json_values_read_back {casts : Casts} (hcasts : (casts.map Prod.fst).Nodup) (hjson : ∀ p ∈ casts, p.2 = "json")
    {row : Row} (hrow : ∀ p ∈ casts, (row.value p.1).IsJson Value.maxDepth) :
    ∃ stored, apply .toStorage casts row = .ok stored ∧ apply .fromStorage casts stored = .ok row ∧
      ∀ p ∈ casts, (row.value p.1).isNull = false → ∃ s, stored.value p.1 = .text s := by
  have hname : Cast.ofName? "json" = some .json := rfl
  obtain ⟨stored, hto, hfrom⟩ := apply_reads_back row hcasts fun p hp _ =>
    ⟨.json, hjson p hp ▸ hname, Cast.json_readsBack (hrow p hp) p.1⟩
  refine ⟨stored, hto, hfrom, fun p hp hthere => ?_⟩
  have hstored := convertNamed_apply hcasts hto p hp
  obtain ⟨s, hs, -⟩ := Json.read_write (hrow p hp)
  rw [hjson p hp, convertNamed_of_cast hname hthere, Cast.convert, Cast.writeJson, hs] at hstored
  exact ⟨s, (Except.ok.inj hstored).symm⟩

/-- A dictionary in which lists, dictionaries, words, a negative number and texts with escapes are nested. -/
theorem nested_settings_read_back :
    let casts := [("settings", "json"), ("tags", "json")]
    let inner : Row := [("z", .null), ("a", .int (-12))]
    let settings : Row := [("größe\n", .list [.bool true, inner.toValue, .list []]), ("", .text "\"😀\\\x01")]
    let row : Row := [("id", .int 7), ("settings", settings.toValue), ("tags", .null)]
    ((casts.map Prod.fst).Nodup ∧ (∀ p ∈ casts, p.2 = "json") ∧
        ∀ p ∈ casts, (row.value p.1).IsJson Value.maxDepth) ∧
      ∃ stored, apply .toStorage casts row = .ok stored ∧ apply .fromStorage casts stored = .ok row ∧
        ∃ s, stored.value "settings" = .text s := by
  intro casts inner settings row
  have hcasts : (casts.map Prod.fst).Nodup := by decide
  have hjson : ∀ p ∈ casts, p.2 = "json" := by decide
  have hinner {depth : Nat} : Value.IsJson (depth + 1) inner.toValue := by
    refine .dict (by decide) ?_
    simp only [inner, List.forall_mem_cons]
    exact ⟨.null, .int (by decide), nofun⟩
  have hsettings {depth : Nat} : Value.IsJson (depth + 3) settings.toValue := by
    refine .dict (by decide) ?_
    simp only [settings, List.forall_mem_cons]
    refine ⟨.list ?_, .text _, nofun⟩
    simp only [List.forall_mem_cons]
    exact ⟨.bool true, hinner, .list nofun, nofun⟩
  have hrow : ∀ p ∈ casts, (row.value p.1).IsJson Value.maxDepth := by
    simp only [casts, List.forall_mem_cons]
    exact ⟨hsettings, .null, nofun⟩
  obtain ⟨stored, hto, hfrom, htexts⟩ := json_values_read_back hcasts hjson hrow
  exact ⟨⟨hcasts, hjson, hrow⟩, stored, hto, hfrom, htexts ("settings", "json") List.mem_cons_self rfl⟩

end Casts

end RecordMapper
