import RecordMapper.Proofs.Expansion
import RecordMapper.Proofs.Requests

/-!
What a server reads. The driver of a server sends a text without bindings as it is, and writes bindings into a text by
its percent directives. Main statement: whatever characters a statement has, the server reads the statement as it was
given, each slot replaced by its binding and nothing else changed. The reading of quotes has to come through twice for
that, once when lists are widened and once more when the widened text is adapted.
-/
namespace RecordMapper

/-- A text with its percent directives carried out: `%s` takes the next of the texts and `%%` is one percent sign.
There is no result if a text is missing or left over, or for any other directive. -/
def formatPercent : List Char → List (List Char) → Option (List Char)
  | [], [] => some []
  | [], _ :: _ => none
  | '%' :: '%' :: rest, texts => (formatPercent rest texts).map ('%' :: ·)
  | '%' :: 's' :: rest, text :: texts => (formatPercent rest texts).map (text ++ ·)
  | c :: rest, texts => if c = '%' then none else (formatPercent rest texts).map (c :: ·)

/-- What a server reads of a request whose bindings its driver writes by `r`. -/
def serverText (r : Value → String) (request : Request) : Option String :=
  match request.2 with
  | none => some request.1
  | some bindings =>
    (formatPercent request.1.toList ((bindings.map r).map String.toList)).map String.ofList

/-! ### Directives -/

theorem formatPercent_char {c : Char} (h : c ≠ '%') (t : List Char) (fs : List (List Char)) :
    formatPercent (c :: t) fs = (formatPercent t fs).map (c :: ·) := by
  conv => lhs; unfold formatPercent
  split <;> simp_all

/-- A text whose percent signs are written twice comes out as it went in. -/
theorem formatPercent_doublePercent (t : List Char) (fs : List (List Char)) : ∀ s : List Char,
    formatPercent (Dialect.doublePercent s ++ t) fs = (formatPercent t fs).map (s ++ ·)
  | [] => by simp [Dialect.doublePercent]
  | c :: s => by
    have ih := formatPercent_doublePercent t fs s
    by_cases hc : c = '%'
    · subst hc
      have hdouble : Dialect.doublePercent ('%' :: s) = '%' :: '%' :: Dialect.doublePercent s := rfl
      rw [hdouble, List.cons_append, List.cons_append, formatPercent, ih, Option.map_map]
      rfl
    · have hdouble : Dialect.doublePercent (c :: s) = c :: Dialect.doublePercent s := by
        rw [Dialect.doublePercent, List.flatMap_cons, if_neg (by simpa using hc), ← Dialect.doublePercent]
        rfl
      rw [hdouble, List.cons_append, formatPercent_char hc, ih, Option.map_map]
      rfl

/-! ### Adapted texts -/

/-- Segments adapted for a server. -/
def Segments.adapted (s : Segments) : List Char :=
  (⟨Dialect.doublePercent s.first, s.rest.map Dialect.doublePercent⟩ : Segments).join ['%', 's']

theorem Segments.adapted_cons (c : Char) (s : Segments) :
    (s.cons c).adapted = Dialect.doublePercent [c] ++ s.adapted := by
  simp [cons, adapted, join, Dialect.doublePercent]

theorem Segments.adapted_slot (s : Segments) : s.slot.adapted = '%' :: 's' :: s.adapted := by
  simp [slot, adapted, join, Dialect.doublePercent]

/-- With as many texts as slots, the driver writes them over the slots. -/
theorem formatPercent_adapted (state : Option Char) (t : List Char) (fs : List (List Char))
    (hcount : (segmentsFrom state t).slots = fs.length) :
    formatPercent (segmentsFrom state t).adapted fs = some (fillFrom state t fs) := by
  fun_induction segmentsFrom state t generalizing fs with
  | case1 state =>
    obtain rfl : fs = [] := List.length_eq_zero_iff.1 hcount.symm
    cases state <;> rfl
  | case2 quote c rest ih =>
    rw [Segments.adapted_cons, formatPercent_doublePercent, ih fs hcount, fillFrom]
    rfl
  | case3 c rest hquote ih =>
    rw [Segments.adapted_cons, formatPercent_doublePercent, ih fs hcount, fillFrom, if_pos hquote]
    rfl
  | case4 c rest hquote hslot ih =>
    rw [slots_slot] at hcount
    obtain ⟨f, fs, rfl⟩ := List.exists_cons_of_length_pos (show 0 < fs.length by omega)
    rw [List.length_cons, Nat.add_right_cancel_iff] at hcount
    rw [Segments.adapted_slot, formatPercent, ih fs hcount, fillFrom, if_neg hquote, if_pos hslot]
    rfl
  | case5 c rest hquote hslot ih =>
    rw [Segments.adapted_cons, formatPercent_doublePercent, ih fs hcount, fillFrom, if_neg hquote, if_neg hslot]
    rfl

theorem adaptMySQL_eq (sql : String) :
    Dialect.adaptMySQL sql = String.ofList (segmentsFrom none sql.toList).adapted := rfl

/-! ### The server's reading -/

/-- The request that a server's adapter makes of a statement is read as the statement with its bindings in it. -/
theorem serverText_request (r : Value → String) (sql : String) (params : List Value)
    (hcount : (segmentsFrom none sql.toList).slots = params.length) :
    ∃ request, AdapterKind.mysql.request sql params = .ok request ∧
      serverText r request = some (fillSlots sql (params.map (slotText r))) := by
  have hfill := fillFrom_widened r none sql.toList params
  rw [AdapterKind.request, expandBindings_eq sql params hcount, Except.map]
  cases hflat : (params.flatMap bound).isEmpty with
  | true =>
    refine ⟨_, rfl, ?_⟩
    -- without bindings there is nothing to be filled, so the widened text is the filled one already
    rw [List.isEmpty_iff.1 hflat, List.map_nil, List.map_nil, fillFrom_nil] at hfill
    dsimp only
    rw [if_pos hflat, serverText, fillSlots, hfill]
  | false =>
    refine ⟨_, rfl, ?_⟩
    have hformat := formatPercent_adapted none (widened none sql.toList params)
      (((params.flatMap bound).map r).map String.toList)
      (by rw [slots_widened none sql.toList params hcount, List.length_map, List.length_map])
    dsimp only
    rw [if_neg (by rw [hflat]; exact Bool.false_ne_true), serverText]
    simp only [adaptMySQL_eq, String.toList_ofList]
    rw [hformat, hfill, Option.map_some, fillSlots]

/-- An open server adapter sends one request for a statement with as many bindings as slots, and the server reads
it as the statement with every slot replaced by its binding: by the text of a value, by the texts of a list one behind
the other, or by `NULL`. All other characters are those of the statement. -/
theorem server_reads_filled (r : Value → String) (sql : String) (params : List Value) (s : System)
    (hkind : s.adapter.kind = .mysql) (hconnected : s.adapter.connected = true) (hpool : s.adapter.pool.isSome = true)
    (hcount : (splitPlaceholders sql).length = params.length + 1) :
    ∃ request, ((Adapter.execute sql (some params)).perform s).2.store.requests = s.store.requests ++ [request] ∧
      serverText r request = some (fillSlots sql (params.map (slotText r))) := by
  rw [length_splitPlaceholders, Nat.add_right_cancel_iff] at hcount
  obtain ⟨request, hrequest, htext⟩ := serverText_request r sql params hcount
  have hsent := (Adapter.perform_execute sql params s).2
  rw [hkind, hrequest, Adapter.isOpen, hconnected, hpool, Bool.and_true, Bool.or_true, if_pos rfl] at hsent
  exact ⟨request, hsent, htext⟩

/-- A connected adapter of a server that answers everything with no rows. -/
def connectedServer : System := { (default : System) with adapter := ⟨.mysql, true, some default⟩, store := .quiet }

/-- Question marks and percent signs in literals and outside, a value, a list and an empty list. -/
theorem connectedServer_reads_filled :
    let sql := "SELECT '100%?' FROM t WHERE a = ? AND b IN (?) AND c LIKE \"%?\" OR d % 2 IN (?)"
    let params := [Value.int 1, .list [.int 2, .int 3], .list []]
    ∃ request,
      ((Adapter.execute sql (some params)).perform connectedServer).2.store.requests = [request] ∧
      serverText Value.shown request =
        some "SELECT '100%?' FROM t WHERE a = 1 AND b IN (2, 3) AND c LIKE \"%?\" OR d % 2 IN (NULL)" := by
  obtain ⟨request, hsent, htext⟩ := server_reads_filled Value.shown
    "SELECT '100%?' FROM t WHERE a = ? AND b IN (?) AND c LIKE \"%?\" OR d % 2 IN (?)"
    [Value.int 1, .list [.int 2, .int 3], .list []] connectedServer rfl rfl rfl (by decide)
  exact ⟨request, hsent, htext.trans (by decide)⟩

end RecordMapper
