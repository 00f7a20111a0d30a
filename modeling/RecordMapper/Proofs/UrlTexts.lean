import RecordMapper.Proofs.Cuts
import RecordMapper.Proofs.Statement

/-!
URLs and their texts. Reading cuts a text into scheme, authority and what is behind the authority, and cuts that further
from the right; showing puts the parts together again and leaves out marks that nothing follows. What is told here for
each part is that what has been read is read the same way once it is shown. Main statement: the text of a URL that has
been read, with some other authority in the place of its own, is read as just that URL if reading allows the authority,
and is refused else.
-/
namespace RecordMapper.Url

open Text

/-- A letter, and behind it letters, digits and the other characters of a scheme. -/
def IsScheme (s : List Char) : Prop := s.head?.any Char.isAlpha = true ∧ s.all isSchemeChar = true

instance (s : List Char) : Decidable (IsScheme s) := inferInstanceAs (Decidable (_ ∧ _))

/-- Scheme and authority of a text, and what is behind them. -/
def sections (s : List Char) : List Char × List Char × List Char :=
  ((splitScheme s).1, splitAuthority (splitScheme s).2)

/-- Path and parameters, where the scheme has any. -/
def splitPath (scheme s : List Char) : List Char × List Char :=
  if parameterSchemes.contains (String.ofList scheme) then splitParameters s else (s, [])

/-- The URL with these sections. -/
def assembled (scheme authority tail : List Char) : Url :=
  let behind := splitBehind '#' tail
  let middle := splitBehind '?' behind.1
  let front := splitPath scheme middle.1
  ⟨scheme, authority, front.1, front.2, middle.2, behind.2⟩

/-- What a URL shows behind its authority. -/
def ending (u : Url) : List Char :=
  u.path ++ marked ';' u.parameters ++ (marked '?' u.query ++ marked '#' u.fragment)

/-- Reading refuses no such authority. -/
def Allowed (authority : List Char) : Prop := checkBrackets authority = .ok () ∧ checkCompatibility authority = .ok ()

theorem parse_eq_ok {s : String} {u : Url} :
    parse s = .ok u ↔
      Allowed (sections (cleaned s.toList)).2.1 ∧
        u = assembled (sections (cleaned s.toList)).1 (sections (cleaned s.toList)).2.1
          (sections (cleaned s.toList)).2.2 := by
  have hparse : parse s = (do
      checkBrackets (sections (cleaned s.toList)).2.1
      checkCompatibility (sections (cleaned s.toList)).2.1
      .ok (assembled (sections (cleaned s.toList)).1 (sections (cleaned s.toList)).2.1
        (sections (cleaned s.toList)).2.2)) := rfl
  rw [hparse]
  constructor
  · intro h
    obtain ⟨_, hbrackets, h⟩ := bind_eq_ok.1 h
    obtain ⟨_, hcompatible, h⟩ := bind_eq_ok.1 h
    cases h
    exact ⟨⟨hbrackets, hcompatible⟩, rfl⟩
  · rintro ⟨⟨hbrackets, hcompatible⟩, rfl⟩
    rw [hbrackets, hcompatible]
    rfl

theorem allowed_of_parse {s : String} {u : Url} (h : parse s = .ok u) : Allowed u.authority := by
  obtain ⟨hallowed, rfl⟩ := parse_eq_ok.1 h
  exact hallowed

/-- What a text is read as whose sections are known. -/
theorem parse_of_sections {s : String} {u : Url} {scheme authority tail : List Char}
    (h : sections (cleaned s.toList) = (scheme, authority, tail)) :
    parse s = .ok u ↔ Allowed authority ∧ u = assembled scheme authority tail := by
  rw [parse_eq_ok, h]

/-! ### Schemes -/

/-- What a text shows of a scheme. -/
def schemeText (scheme : List Char) : List Char := if scheme.isEmpty then [] else scheme ++ [':']

theorem lt_of_isAlphanum {c : Char} (h : c.isAlphanum = true) : c.toNat < 128 := by
  have hclasses : ((c.isUpper || c.isLower) || c.isDigit) = true := h
  have hupper (h : c.isUpper = true) : c.toNat ≤ 90 := UInt32.le_iff_toNat_le.1 (of_decide_eq_true h).2
  have hlower (h : c.isLower = true) : c.toNat ≤ 122 :=
    UInt32.le_iff_toNat_le.1 (of_decide_eq_true (Bool.and_eq_true_iff.1 h).2)
  have hdigit (h : c.isDigit = true) : c.toNat ≤ 57 :=
    UInt32.le_iff_toNat_le.1 (of_decide_eq_true (Bool.and_eq_true_iff.1 h).2)
  rcases Bool.or_eq_true_iff.1 hclasses with hletter | h
  · rcases Bool.or_eq_true_iff.1 hletter with h | h
    · exact Nat.lt_of_le_of_lt (hupper h) (by decide)
    · exact Nat.lt_of_le_of_lt (hlower h) (by decide)
  · exact Nat.lt_of_le_of_lt (hdigit h) (by decide)

theorem lt_of_isSchemeChar {c : Char} (h : isSchemeChar c = true) : c.toNat < 128 := by
  simp only [isSchemeChar, Bool.or_eq_true, beq_iff_eq] at h
  obtain ((h | rfl) | rfl) | rfl := h
  · exact lt_of_isAlphanum h
  all_goals decide

/-- The characters of a scheme can be told one by one. -/
theorem forall_schemeChar {P : Char → Prop} (h : ∀ n : Fin 128, isSchemeChar (Char.ofNat n) = true → P (Char.ofNat n))
    {c : Char} (hc : isSchemeChar c = true) : P c := by
  have hofNat := h ⟨c.toNat, lt_of_isSchemeChar hc⟩
  rw [Char.ofNat_toNat] at hofNat
  exact hofNat hc

/-- Small letters are characters of a scheme where the capital ones are, and stay as they are. -/
theorem toLower_of_isSchemeChar {c : Char} :
    isSchemeChar c = true → isSchemeChar c.toLower = true ∧ (c.isAlpha = true → c.toLower.isAlpha = true) ∧
      c.toLower.toLower = c.toLower :=
  forall_schemeChar (P := fun c => isSchemeChar c.toLower = true ∧ (c.isAlpha = true → c.toLower.isAlpha = true) ∧
    c.toLower.toLower = c.toLower) (by decide)

theorem kept_of_isSchemeChar {c : Char} : isSchemeChar c = true → 32 < c.toNat ∧ isDropped c = false :=
  forall_schemeChar (P := fun c => 32 < c.toNat ∧ isDropped c = false) (by decide)

theorem IsScheme.map_toLower {s : List Char} (h : IsScheme s) :
    IsScheme (s.map Char.toLower) ∧ (s.map Char.toLower).map Char.toLower = s.map Char.toLower := by
  have hall := List.all_eq_true.1 h.2
  refine ⟨⟨?_, ?_⟩, ?_⟩
  · cases s with
    | nil => cases h.1
    | cons c rest => exact (toLower_of_isSchemeChar (hall c List.mem_cons_self)).2.1 h.1
  · rw [List.all_map, List.all_eq_true]
    exact fun c hc => (toLower_of_isSchemeChar (hall c hc)).1
  · rw [List.map_map]
    exact List.map_congr_left fun c hc => (toLower_of_isSchemeChar (hall c hc)).2.2

theorem colon_not_mem_of_isScheme {s : List Char} (h : IsScheme s) : ':' ∉ s :=
  fun hmem => absurd (List.all_eq_true.1 h.2 _ hmem) (by decide)

/-- A scheme before a colon is read in small letters. -/
theorem splitScheme_append {s : List Char} (h : IsScheme s) (rest : List Char) :
    splitScheme (s ++ ':' :: rest) = (s.map Char.toLower, rest) := by
  rw [splitScheme, cut?_append (colon_not_mem_of_isScheme h)]
  obtain ⟨hhead, hall⟩ := h
  cases s with
  | nil => cases hhead
  | cons c s =>
    have hletter : c.isAlpha = true := hhead
    dsimp only
    rw [hletter, hall]
    rfl

/-- What begins with a slash has no scheme. -/
theorem splitScheme_slash (rest : List Char) : splitScheme ('/' :: rest) = ([], '/' :: rest) := by
  rw [splitScheme]
  split
  · rename_i c before after hcut
    obtain ⟨hs, -⟩ := cut?_eq_some.1 hcut
    obtain ⟨rfl, -⟩ := List.cons.inj hs
    rfl
  · rfl

/-- There is a scheme before a colon, or there is none. -/
theorem splitScheme_eq {s scheme rest : List Char} (h : splitScheme s = (scheme, rest)) :
    (∃ written, IsScheme written ∧ scheme = written.map Char.toLower ∧ s = written ++ ':' :: rest) ∨
      scheme = [] ∧ s = rest := by
  rw [splitScheme] at h
  split at h
  · rename_i c before after hcut
    split at h
    · rename_i hscheme
      rw [Bool.and_eq_true] at hscheme
      cases h
      exact .inl ⟨c :: before, hscheme, rfl, (cut?_eq_some.1 hcut).1⟩
    · cases h
      exact .inr ⟨rfl, rfl⟩
  · cases h
    exact .inr ⟨rfl, rfl⟩

/-- What a text shows of a scheme stays when the text is cleaned. -/
theorem kept_of_mem_schemeText {s scheme rest : List Char} (h : splitScheme s = (scheme, rest)) {c : Char}
    (hc : c ∈ schemeText scheme) : 32 < c.toNat ∧ isDropped c = false := by
  rw [schemeText] at hc
  split at hc
  · cases hc
  · rename_i hne
    rcases splitScheme_eq h with ⟨written, hwritten, rfl, -⟩ | ⟨rfl, -⟩
    · rcases List.mem_append.1 hc with hc | hc
      · exact kept_of_isSchemeChar (List.all_eq_true.1 hwritten.map_toLower.1.2 c hc)
      · rw [List.mem_singleton.1 hc]
        decide
    · exact absurd rfl hne

/-- What has been read as a scheme is read again as it is. -/
theorem splitScheme_schemeText {s scheme rest : List Char} (h : splitScheme s = (scheme, rest)) (behind : List Char) :
    splitScheme (schemeText scheme ++ '/' :: behind) = (scheme, '/' :: behind) := by
  rcases splitScheme_eq h with ⟨written, hwritten, rfl, -⟩ | ⟨rfl, -⟩
  · have hshown : schemeText (written.map Char.toLower) = written.map Char.toLower ++ [':'] := by
      rw [schemeText, if_neg]
      intro hempty
      rw [List.isEmpty_iff, List.map_eq_nil_iff] at hempty
      subst hempty
      cases hwritten.1
    rw [hshown, List.append_assoc, List.singleton_append, splitScheme_append hwritten.map_toLower.1,
      hwritten.map_toLower.2]
  · exact splitScheme_slash behind

/-! ### Authorities -/

/-- The authority ends where this begins. -/
def StartsBehind (tail : List Char) : Prop := ∀ c, tail.head? = some c → endsAuthority c = true

/-- An authority is read as far as it goes. -/
theorem splitAuthority_append {authority tail : List Char} (hinside : ∀ c ∈ authority, endsAuthority c = false)
    (hbehind : StartsBehind tail) : splitAuthority ('/' :: '/' :: (authority ++ tail)) = (authority, tail) := by
  have hplain : ∀ c ∈ authority, (!endsAuthority c) = true := fun c hc => by rw [hinside c hc]; rfl
  have htail : tail.takeWhile (!endsAuthority ·) = [] ∧ tail.dropWhile (!endsAuthority ·) = tail := by
    cases tail with
    | nil => exact ⟨rfl, rfl⟩
    | cons c rest => simp [hbehind c rfl]
  rw [splitAuthority, List.takeWhile_append_of_pos hplain, List.dropWhile_append_of_pos hplain, htail.1, htail.2,
    List.append_nil]

/-- An authority that is there stands behind two slashes. -/
theorem splitAuthority_eq {s authority tail : List Char} (h : splitAuthority s = (authority, tail))
    (hne : authority ≠ []) :
    s = '/' :: '/' :: (authority ++ tail) ∧ (∀ c ∈ authority, endsAuthority c = false) ∧ StartsBehind tail := by
  unfold splitAuthority at h
  split at h
  · rename_i rest
    cases h
    refine ⟨by rw [List.takeWhile_append_dropWhile], fun c hc => ?_, fun c hc => ?_⟩
    · simpa using List.all_eq_true.1 List.all_takeWhile c hc
    · have hhead := List.head?_dropWhile_not (!endsAuthority ·) rest
      rw [hc] at hhead
      simpa using hhead
  · cases h
    exact absurd rfl hne

/-! ### Behind the authority -/

theorem splitParameters_of_not_mem {s : List Char} (h : '/' ∉ s) : splitParameters s = splitBehind ';' s := by
  rw [splitParameters, cutLast?_eq_none.2 h]

/-- Parameters stand in the last step of a path. -/
theorem splitParameters_append {final : List Char} (h : '/' ∉ final) (before : List Char) :
    splitParameters (before ++ '/' :: final) =
      (before ++ '/' :: (splitBehind ';' final).1, (splitBehind ';' final).2) := by
  rw [splitParameters, cutLast?_eq_some.2 ⟨rfl, h⟩]
  dsimp only
  rw [splitBehind]
  cases cut? ';' final <;> rfl

/-- Path and parameters put together are what the text begins with, and are taken apart as before. -/
theorem splitPath_eq {scheme s path parameters : List Char} (h : splitPath scheme s = (path, parameters)) :
    path ++ marked ';' parameters <+: s ∧ splitPath scheme (path ++ marked ';' parameters) = (path, parameters) := by
  by_cases hparameters : parameterSchemes.contains (String.ofList scheme) = true
  · have hsplit (t : List Char) : splitPath scheme t = splitParameters t := if_pos hparameters
    rw [hsplit] at h ⊢
    cases hcut : cutLast? '/' s with
    | none =>
      have hs := cutLast?_eq_none.1 hcut
      rw [splitParameters_of_not_mem hs] at h
      have hbegins := prefix_of_splitBehind h
      rw [splitParameters_of_not_mem fun hmem => hs (hbegins.mem hmem)]
      exact ⟨hbegins, splitBehind_marked (splitBehind_eq h).1 parameters⟩
    | some parts =>
      obtain ⟨before, final⟩ := parts
      obtain ⟨rfl, hfinal⟩ := cutLast?_eq_some.1 hcut
      obtain ⟨step, rest, hstep⟩ : ∃ step rest, splitBehind ';' final = (step, rest) := ⟨_, _, rfl⟩
      rw [splitParameters_append hfinal, hstep] at h
      cases h
      have hbegins := prefix_of_splitBehind hstep
      rw [List.append_assoc, List.cons_append, splitParameters_append fun hmem => hfinal (hbegins.mem hmem),
        splitBehind_marked (splitBehind_eq hstep).1]
      exact ⟨(List.prefix_append_right_inj before).2 (List.cons_prefix_cons.2 ⟨rfl, hbegins⟩), rfl⟩
  · have hsplit (t : List Char) : splitPath scheme t = (t, []) := if_neg hparameters
    rw [hsplit] at h ⊢
    cases h
    rw [marked_nil, List.append_nil]
    exact ⟨List.prefix_rfl, rfl⟩

section
variable (scheme authority tail : List Char)

/-- What is behind an authority is cut at its first hash mark, and what is before that at its first question mark. -/
theorem assembled_cuts :
    let u := assembled scheme authority tail
    ∃ behind middle, splitBehind '#' tail = (behind, u.fragment) ∧ splitBehind '?' behind = (middle, u.query) ∧
      splitPath scheme middle = (u.path, u.parameters) :=
  ⟨_, _, rfl, rfl, rfl⟩

/-- What is shown before the hash mark does not have one, nor is there a question mark before the question mark. -/
theorem assembled_marks :
    let u := assembled scheme authority tail
    '#' ∉ u.path ++ marked ';' u.parameters ++ marked '?' u.query ∧ '?' ∉ u.path ++ marked ';' u.parameters ∧
      u.path ++ marked ';' u.parameters <+: tail ∧ u.ending.Sublist tail := by
  intro u
  obtain ⟨behind, middle, hbehind, hmiddle, hpath⟩ := assembled_cuts scheme authority tail
  obtain ⟨hfront, -⟩ := splitPath_eq hpath
  have hquery := prefix_of_splitBehind hmiddle
  have hfragment := prefix_of_splitBehind hbehind
  have hshown : (u.path ++ marked ';' u.parameters ++ marked '?' u.query).Sublist behind :=
    (hfront.sublist.append_right _).trans hquery.sublist
  refine ⟨fun hmem => (splitBehind_eq hbehind).1 (hshown.mem hmem),
    fun hmem => (splitBehind_eq hmiddle).1 (hfront.mem hmem), ?_, ?_⟩
  · exact hfront.trans ((List.prefix_append _ _).trans (hquery.trans ((List.prefix_append _ _).trans hfragment)))
  · rw [ending, ← List.append_assoc]
    exact (hshown.append_right _).trans hfragment.sublist

/-- What a URL shows behind its authority is read as it has been, whatever the authority. -/
theorem assembled_ending (other : List Char) :
    assembled scheme other (assembled scheme authority tail).ending =
      { assembled scheme authority tail with authority := other } := by
  obtain ⟨hhash, hquestion, -⟩ := assembled_marks scheme authority tail
  obtain ⟨behind, middle, -, -, hpath⟩ := assembled_cuts scheme authority tail
  rw [ending, ← List.append_assoc, assembled, splitBehind_marked hhash, splitBehind_marked hquestion,
    (splitPath_eq hpath).2]
  rfl

/-- Where the authority has an end, the path begins with a slash, and all that is shown behind it is behind it. -/
theorem startsBehind_ending (htail : StartsBehind tail) :
    let u := assembled scheme authority tail
    (∀ c, (u.path ++ marked ';' u.parameters).head? = some c → c = '/') ∧ StartsBehind u.ending := by
  intro u
  obtain ⟨hhash, hquestion, ⟨rest, hrest⟩, -⟩ := assembled_marks scheme authority tail
  have hslash : ∀ c, (u.path ++ marked ';' u.parameters).head? = some c → c = '/' := by
    intro c hc
    have hmem : c ∈ u.path ++ marked ';' u.parameters := List.mem_of_head? hc
    have hends : endsAuthority c = true := htail c (by rw [← hrest, List.head?_append, hc, Option.some_or])
    simp only [endsAuthority, Bool.or_eq_true, beq_iff_eq] at hends
    obtain (rfl | rfl) | rfl := hends
    · rfl
    · exact absurd hmem hquestion
    · exact absurd (List.mem_append_left _ hmem) hhash
  refine ⟨hslash, fun c hc => ?_⟩
  rw [ending, List.head?_append] at hc
  cases hfront : (u.path ++ marked ';' u.parameters).head? with
  | some d =>
    rw [hfront, Option.some_or] at hc
    cases hc
    rw [hslash c hfront]
    rfl
  | none =>
    rw [hfront, Option.none_or, List.head?_append] at hc
    by_cases hquery : u.query = []
    · by_cases hfragment : u.fragment = []
      · rw [hquery, hfragment] at hc
        cases hc
      · rw [hquery, marked_of_ne_nil '#' hfragment] at hc
        cases hc
        rfl
    · rw [marked_of_ne_nil '?' hquery] at hc
      cases hc
      rfl

end

/-! ### Texts -/

/-- Behind an authority a URL shows its ending. -/
theorem text_eq {u : Url} (hne : u.authority ≠ [])
    (hslash : ∀ c, (u.path ++ marked ';' u.parameters).head? = some c → c = '/') :
    u.text = schemeText u.scheme ++ '/' :: '/' :: (u.authority ++ u.ending) := by
  have hshown : (!u.authority.isEmpty) = true := by simpa using hne
  have hpath : (if !(u.path ++ marked ';' u.parameters).isEmpty &&
      (u.path ++ marked ';' u.parameters).head? != some '/' then '/' :: (u.path ++ marked ';' u.parameters)
      else u.path ++ marked ';' u.parameters) = u.path ++ marked ';' u.parameters := by
    refine if_neg fun h => ?_
    cases hfront : u.path ++ marked ';' u.parameters with
    | nil => simp [hfront] at h
    | cons c rest =>
      rw [hfront] at hslash h
      rw [hslash c rfl] at h
      cases h
  simp only [text, hshown, Bool.true_or, if_true, hpath, ending, schemeText]
  simp only [List.append_assoc, List.cons_append]

theorem cleaned_eq_self {s : List Char} (hhead : ∀ c, s.head? = some c → 32 < c.toNat)
    (hplain : ∀ c ∈ s, isDropped c = false) : cleaned s = s := by
  have hkept : s.filter (!isDropped ·) = s := List.filter_eq_self.2 fun c hc => by rw [hplain c hc]; rfl
  cases s with
  | nil => rfl
  | cons c rest =>
    have hc := hhead c rfl
    rw [cleaned, List.dropWhile_cons, if_neg (by simpa using hc), hkept]

/-- What stands behind something that stays is cleaned for itself, blanks in front of it included. -/
theorem cleaned_append {s : List Char} (h : cleaned s ≠ []) (t : List Char) :
    cleaned (s ++ t) = cleaned s ++ t.filter (!isDropped ·) := by
  have hstays : (s.dropWhile fun c => c.toNat ≤ 32).isEmpty = false := by
    rw [Bool.eq_false_iff]
    intro hempty
    rw [cleaned, List.isEmpty_iff.1 hempty] at h
    exact h rfl
  rw [cleaned, cleaned, List.dropWhile_append, hstays, if_neg Bool.false_ne_true, List.filter_append]

theorem not_dropped_of_cleaned {s : List Char} {c : Char} (h : c ∈ cleaned s) : isDropped c = false := by
  simpa using (List.mem_filter.1 h).2

/-- Where the parts of a URL with an authority come from. -/
theorem sections_of_parse {s : String} {u : Url} (h : parse s = .ok u) (hne : u.authority ≠ []) :
    ∃ scheme rest tail, splitScheme (cleaned s.toList) = (scheme, rest) ∧ u = assembled scheme u.authority tail ∧
      StartsBehind tail ∧ (∀ c ∈ u.authority, endsAuthority c = false) ∧
      ∀ c ∈ u.authority ++ tail, isDropped c = false := by
  obtain ⟨scheme, rest, hscheme⟩ : ∃ a b, splitScheme (cleaned s.toList) = (a, b) := ⟨_, _, rfl⟩
  obtain ⟨authority, tail, hauthority⟩ : ∃ a b, splitAuthority rest = (a, b) := ⟨_, _, rfl⟩
  obtain ⟨-, hu⟩ := parse_eq_ok.1 h
  simp only [sections, hscheme, hauthority] at hu
  subst hu
  obtain ⟨hrest, hinside, htail⟩ := splitAuthority_eq hauthority hne
  refine ⟨scheme, rest, tail, hscheme, rfl, htail, hinside, fun c hc => ?_⟩
  have hmem : c ∈ rest := hrest ▸ List.mem_cons_of_mem _ (List.mem_cons_of_mem _ hc)
  refine not_dropped_of_cleaned (s := s.toList) ?_
  rcases splitScheme_eq hscheme with ⟨written, -, -, hs⟩ | ⟨-, hs⟩
  · simp [hs, hmem]
  · rwa [hs]

/-- The text of a URL with a scheme that has been read is not changed when it is cleaned. -/
theorem cleaned_schemeText {s scheme rest behind : List Char} (h : splitScheme s = (scheme, rest))
    (hbehind : ∀ c ∈ behind, isDropped c = false) :
    cleaned (schemeText scheme ++ '/' :: '/' :: behind) = schemeText scheme ++ '/' :: '/' :: behind := by
  refine cleaned_eq_self (fun c hc => ?_) fun c hc => ?_
  · rw [List.head?_append] at hc
    cases hhead : (schemeText scheme).head? with
    | some first =>
      rw [hhead] at hc
      cases hc
      exact (kept_of_mem_schemeText h (List.mem_of_head? hhead)).1
    | none =>
      rw [hhead] at hc
      cases hc
      decide
  · simp only [List.mem_append, List.mem_cons] at hc
    obtain hc | rfl | rfl | hc := hc
    · exact (kept_of_mem_schemeText h hc).2
    · rfl
    · rfl
    · exact hbehind c hc

/-- A URL with another authority in its place is read from its text if reading allows that authority. -/
theorem parse_text {s : String} {u v : Url} (h : parse s = .ok u) (hne : u.authority ≠ []) {other : List Char}
    (hother : other ≠ []) (hplain : ∀ c ∈ other, endsAuthority c = false ∧ isDropped c = false) :
    parse (String.ofList { u with authority := other }.text) = .ok v ↔
      Allowed other ∧ v = { u with authority := other } := by
  obtain ⟨scheme, rest, tail, hscheme, hu, htail, -, hkept⟩ := sections_of_parse h hne
  obtain ⟨hslash, hends⟩ := startsBehind_ending scheme u.authority tail htail
  obtain ⟨-, -, -, hending⟩ := assembled_marks scheme u.authority tail
  have hagain := assembled_ending scheme u.authority tail other
  rw [← hu] at hslash hends hending hagain
  obtain rfl : u.scheme = scheme := by
    rw [hu]
    rfl
  have htext : ({ u with authority := other } : Url).text =
      schemeText u.scheme ++ '/' :: '/' :: (other ++ u.ending) :=
    text_eq (u := { u with authority := other }) hother hslash
  have hcleaned : cleaned (schemeText u.scheme ++ '/' :: '/' :: (other ++ u.ending)) =
      schemeText u.scheme ++ '/' :: '/' :: (other ++ u.ending) := by
    refine cleaned_schemeText hscheme fun c hc => ?_
    rcases List.mem_append.1 hc with hc | hc
    · exact (hplain c hc).2
    · exact hkept c (List.mem_append_right _ (hending.mem hc))
  have hsections : sections (cleaned (String.ofList { u with authority := other }.text).toList) =
      (u.scheme, other, u.ending) := by
    rw [String.toList_ofList, htext, hcleaned, sections, splitScheme_schemeText hscheme,
      splitAuthority_append (fun c hc => (hplain c hc).1) hends]
  rw [parse_of_sections hsections, hagain]

end RecordMapper.Url
