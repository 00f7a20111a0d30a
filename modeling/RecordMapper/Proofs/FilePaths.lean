import RecordMapper.Proofs.HiddenPasswords

/-!
Paths of files. The driver of a URL is read off its scheme, in small letters and up to a plus sign; the path of a file
is what is behind the scheme `sqlite` as it is written. Where the scheme is written in another way, the whole URL is the
path, but for the text `sqlite:` wherever it occurs in it. Main statement: of all the ways to write the scheme with
which the driver is that of files, the one without change is the only one with which the path is that of the URL.
-/
namespace RecordMapper

open Text

namespace Text

/-! ### Removals -/

theorem after?_eq_some {start s rest : List Char} : after? start s = some rest ↔ s = start ++ rest := by
  refine ⟨fun h => ?_, fun h => h ▸ after?_append start rest⟩
  induction start generalizing s with
  | nil => exact Option.some_inj.1 h
  | cons p start ih =>
    cases s with
    | nil => cases h
    | cons c s =>
      rw [after?] at h
      split at h
      · rename_i hpc
        rw [← beq_iff_eq.1 hpc, ih h, List.cons_append]
      · cases h

/-- What still belongs to a removal is passed over. -/
theorem removeAll_skip (old : List Char) : ∀ (n : Nat) (s : List Char),
    removeAll old n s = removeAll old 0 (s.drop n)
  | 0, _ => rfl
  | _ + 1, [] => rfl
  | n + 1, c :: rest => by
    rw [removeAll, if_pos (Nat.succ_pos n), Nat.add_sub_cancel, removeAll_skip old n rest, List.drop_succ_cons]

/-- At each place of a text either the removed text stands, and is left out, or the character stays. -/
theorem removeAll_cons {old : List Char} (hold : old ≠ []) (c : Char) (rest : List Char) :
    (∃ behind, c :: rest = old ++ behind ∧ removeAll old 0 (c :: rest) = removeAll old 0 behind) ∨
      after? old (c :: rest) = none ∧ removeAll old 0 (c :: rest) = c :: removeAll old 0 rest := by
  have hempty : (!old.isEmpty) = true := by simpa using hold
  rw [removeAll, if_neg (Nat.lt_irrefl 0), hempty, Bool.and_true]
  cases hafter : after? old (c :: rest) with
  | none => exact .inr ⟨rfl, rfl⟩
  | some behind =>
    have hs := after?_eq_some.1 hafter
    refine .inl ⟨behind, hs, ?_⟩
    obtain ⟨d, tail, rfl⟩ := List.exists_cons_of_ne_nil hold
    rw [List.cons_append] at hs
    have hdrop : rest.drop ((d :: tail).length - 1) = behind := by
      rw [(List.cons.inj hs).2, List.length_cons, Nat.add_sub_cancel, List.drop_left]
    rw [Option.isSome_some, if_pos rfl, removeAll_skip, hdrop]

/-- Removing a text without a character leaves every occurrence of the character. -/
theorem count_removeAll {old : List Char} {c : Char} (hold : old ≠ []) (hc : c ∉ old) : ∀ s : List Char,
    (removeAll old 0 s).count c = s.count c
  | [] => rfl
  | d :: rest => by
    obtain ⟨behind, hs, hremoved⟩ | ⟨-, hremoved⟩ := removeAll_cons hold d rest
    · have hshort : behind.length < (d :: rest).length := by
        have hpositive := List.length_pos_iff.2 hold
        rw [hs, List.length_append]
        omega
      rw [hremoved, count_removeAll hold hc behind, hs, List.count_append, List.count_eq_zero_of_not_mem hc,
        Nat.zero_add]
    · rw [hremoved, List.count_cons, List.count_cons, count_removeAll hold hc rest]
termination_by s => s.length
decreasing_by
  · exact hshort
  · exact Nat.lt_succ_self _

end Text

/-! ### Schemes of files -/

namespace Config

/-- Settings that are nothing but a URL. -/
def ofUrl (url : String) : Config := { url := some url }

/-- If the driver is that of files, a scheme says so. -/
theorem scheme_of_resolvedDriver {url : String} (hurl : url ≠ "")
    (h : (ofUrl url).resolvedDriver = .ok (.text "sqlite")) : (Url.splitScheme (Url.cleaned url.toList)).1 ≠ [] := by
  rw [resolvedDriver, ofUrl, given?_some hurl] at h
  obtain ⟨u, hu, h⟩ := bind_eq_ok.1 h
  obtain ⟨-, rfl⟩ := Url.parse_eq_ok.1 hu
  intro hnone
  rw [Url.sections, hnone] at h
  exact absurd (Value.text.inj (Except.ok.inj h)) (by decide)

/-- A URL with a scheme does not begin with a slash. -/
theorem head_of_resolvedDriver {url : String} (hurl : url ≠ "")
    (h : (ofUrl url).resolvedDriver = .ok (.text "sqlite")) : ∃ c rest, url.toList = c :: rest ∧ c ≠ '/' := by
  have hscheme := scheme_of_resolvedDriver hurl h
  cases hs : url.toList with
  | nil => exact absurd (String.toList_eq_nil_iff.1 hs) hurl
  | cons c rest =>
    rw [hs] at hscheme
    refine ⟨c, rest, rfl, ?_⟩
    rintro rfl
    exact hscheme (congrArg Prod.fst (Url.splitScheme_slash _))

end Config

section
variable {scheme : String} (hcolon : ':' ∉ scheme.toList) (hscheme : scheme ≠ "sqlite")
include hcolon hscheme

/-- Where the first colon is behind another text, the text does not begin with the scheme of files. -/
theorem after?_eq_none_of_scheme (more rest : List Char) :
    after? ("sqlite".toList ++ ':' :: more) (scheme.toList ++ ':' :: rest) = none := by
  cases hafter : after? ("sqlite".toList ++ ':' :: more) (scheme.toList ++ ':' :: rest) with
  | none => rfl
  | some behind =>
    have hcut := congrArg (cut? ':') (after?_eq_some.1 hafter)
    rw [cut?_append hcolon, List.append_assoc, List.cons_append, cut?_append (by decide)] at hcut
    exact absurd (String.toList_inj.1 (Prod.mk.inj (Option.some.inj hcut)).1) hscheme

/-- The path is then the whole URL, without the scheme of files wherever it occurs. -/
theorem filePath_of_scheme {url : String} {rest : List Char} (hurl : url.toList = scheme.toList ++ ':' :: rest)
    (hhead : ∃ c tail, url.toList = c :: tail ∧ c ≠ '/') :
    filePath url = String.ofList (removeAll "sqlite:".toList 0 url.toList) := by
  have hthree : after? "sqlite:///".toList url.toList = none := by
    rw [hurl]
    exact after?_eq_none_of_scheme hcolon hscheme "///".toList rest
  have htwo : after? "sqlite://".toList url.toList = none := by
    rw [hurl]
    exact after?_eq_none_of_scheme hcolon hscheme "//".toList rest
  have hone : after? "sqlite:".toList url.toList = none := by
    rw [hurl]
    exact after?_eq_none_of_scheme hcolon hscheme [] rest
  rw [filePath, hthree, htwo]
  dsimp only
  obtain ⟨c, tail, hc, hslash⟩ := hhead
  rw [hc] at hone ⊢
  obtain ⟨behind, hs, -⟩ | ⟨-, hremoved⟩ := removeAll_cons (by decide : "sqlite:".toList ≠ []) c tail
  · rw [after?_eq_some.2 hs] at hone
    cases hone
  · rw [hremoved, List.dropWhile_cons_of_neg (by simpa using hslash)]
    rfl

end

/-- Behind the scheme of files there is the path. -/
theorem filePath_sqlite (path : String) :
    filePath ("sqlite:///" ++ path) = if path = "" then memoryPath else path := by
  have hafter : after? "sqlite:///".toList ("sqlite:///" ++ path).toList = some path.toList := by
    rw [String.toList_append, after?_append]
  rw [filePath, hafter]
  dsimp only
  rw [nonEmpty?]
  by_cases hempty : path = ""
  · rw [if_pos hempty, hempty]
    rfl
  · rw [if_neg hempty, if_neg (by simpa using hempty), String.ofList_toList]
    rfl

/-- A way to write a scheme, without a colon in it, with which the driver is that of files, whatever the path. The path
of the file is the path of the URL, or memory if that is empty, exactly if the scheme is written `sqlite`; written in
any other way, the whole URL is the path, but for the text `sqlite:` wherever it occurs in it. -/
theorem filePath_agrees_iff {scheme path : String} (hcolon : ':' ∉ scheme.toList)
    (hdriver : (Config.ofUrl (scheme ++ ":///" ++ path)).resolvedDriver = .ok (.text "sqlite")) :
    let url := scheme ++ ":///" ++ path
    filePath ("sqlite:///" ++ path) = (if path = "" then memoryPath else path) ∧
      (filePath url = filePath ("sqlite:///" ++ path) ↔ scheme = "sqlite") ∧
      (scheme ≠ "sqlite" → filePath url = String.ofList (removeAll "sqlite:".toList 0 url.toList)) := by
  intro url
  have hurl : url.toList = scheme.toList ++ ':' :: ("///".toList ++ path.toList) := by
    simp [url]
  have hne : url ≠ "" := by
    intro h
    rw [h] at hurl
    simp at hurl
  have hwhole (hscheme : scheme ≠ "sqlite") :=
    filePath_of_scheme hcolon hscheme hurl (Config.head_of_resolvedDriver hne hdriver)
  refine ⟨filePath_sqlite path, ⟨fun h => Decidable.byContradiction fun hscheme => ?_, fun h => ?_⟩, hwhole⟩
  · -- the URL has more slashes than its path, and removing the scheme loses none of them
    have hslashes : url.toList.count '/' = (filePath ("sqlite:///" ++ path)).toList.count '/' := by
      rw [← h, hwhole hscheme, String.toList_ofList, count_removeAll (by decide) (by decide)]
    have hmore : url.toList.count '/' = scheme.toList.count '/' + (3 + path.toList.count '/') := by
      have hthree : "///".toList.count '/' = 3 := by decide
      rw [hurl, List.count_append, List.count_cons_of_ne (by decide), List.count_append, hthree]
    have hfew : (filePath ("sqlite:///" ++ path)).toList.count '/' ≤ path.toList.count '/' := by
      have hmemory : memoryPath.toList.count '/' = 0 := by decide
      rw [filePath_sqlite]
      split
      · rw [hmemory]
        exact Nat.zero_le _
      · exact Nat.le_refl _
    omega
  · have hsame : url = "sqlite:///" ++ path := by
      rw [← String.toList_inj, hurl, h]
      simp
    rw [hsame]

/-- A spelling with capital letters and a driver behind a plus sign: the file that is opened is not that of the URL. -/
theorem spelled_url_is_path :
    let scheme := "SQLite+aio"
    ':' ∉ scheme.toList ∧
      (Config.ofUrl (scheme ++ ":///" ++ "data/app.db")).resolvedDriver = .ok (.text "sqlite") ∧
      filePath (scheme ++ ":///" ++ "data/app.db") ≠ filePath ("sqlite:///" ++ "data/app.db") := by
  have hcolon : ':' ∉ "SQLite+aio".toList := by decide
  have hdriver : (Config.ofUrl ("SQLite+aio" ++ ":///" ++ "data/app.db")).resolvedDriver = .ok (.text "sqlite") := rfl
  obtain ⟨-, hsame, -⟩ := filePath_agrees_iff hcolon hdriver
  exact ⟨hcolon, hdriver, fun h => absurd (hsame.1 h) (by decide)⟩

/-- The driver is that of files, and the file is one of another name. -/
theorem suffixed_scheme_is_in_path :
    (Config.ofUrl "sqlite+aiosqlite:///x.db").resolvedDriver = .ok (.text "sqlite") ∧
      filePath "sqlite+aiosqlite:///x.db" = "sqlite+aio///x.db" ∧ filePath "sqlite:///x.db" = "x.db" :=
  ⟨rfl, rfl, rfl⟩

end RecordMapper
