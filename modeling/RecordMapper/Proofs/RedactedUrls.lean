import RecordMapper.Proofs.UrlTexts

/-!
Masked passwords. A password that is there stands between the first colon of what is before the last at sign, and that
at sign; so its first occurrence with a colon before it and an at sign behind it is the password itself, and masking
touches nothing else. Main statements: URLs that are the same but for their passwords are one and the same masked, and a
masked URL is read from its text, with its other parts as they were, exactly if no bracket has lost its partner with the
password.
-/
namespace RecordMapper.Url

open Text

/-- The URLs are alike but for the password. What stands behind the user is read as host and port. -/
structure SameButPassword (u v : Url) : Prop where
  scheme : v.scheme = u.scheme
  user : v.user = u.user
  located : v.userAndHost.2 = u.userAndHost.2
  path : v.path = u.path
  parameters : v.parameters = u.parameters
  query : v.query = u.query
  fragment : v.fragment = u.fragment

/-- Beside the password there are brackets of both sorts or of none. -/
def BracketsPaired (u : Url) : Prop := '[' ∈ u.user ++ u.userAndHost.2 ↔ ']' ∈ u.user ++ u.userAndHost.2

theorem SameButPassword.host_eq {u v : Url} (h : u.SameButPassword v) : v.host = u.host := by
  rw [host, host, hostAndPort, hostAndPort, h.located]

theorem SameButPassword.port_eq {u v : Url} (h : u.SameButPassword v) : v.port = u.port := by
  rw [port, port, hostAndPort, hostAndPort, h.located]

theorem SameButPassword.refl (u : Url) : u.SameButPassword u := ⟨rfl, rfl, rfl, rfl, rfl, rfl, rfl⟩

theorem SameButPassword.symm {u v : Url} (h : u.SameButPassword v) : v.SameButPassword u :=
  ⟨h.scheme.symm, h.user.symm, h.located.symm, h.path.symm, h.parameters.symm, h.query.symm, h.fragment.symm⟩

/-! ### Authorities with a password -/

theorem splitUser_append {located : List Char} (h : '@' ∉ located) (info : List Char) :
    splitUser (info ++ '@' :: located) = (some info, located) := by
  rw [splitUser, cutLast?_eq_some.2 ⟨rfl, h⟩]

/-- Without an at sign there is neither user nor password; else both stand before the last one. -/
theorem authority_cases (u : Url) :
    (u.userAndHost.2 = u.authority ∧ u.user = [] ∧ u.password = []) ∨
      ∃ info, u.authority = info ++ '@' :: u.userAndHost.2 ∧ '@' ∉ u.userAndHost.2 ∧
        splitBehind ':' info = (u.user, u.password) := by
  cases hcut : cutLast? '@' u.authority with
  | none =>
    have hparts : u.userAndHost = (none, u.authority) := by rw [userAndHost, splitUser, hcut]
    exact .inl ⟨by rw [hparts], by rw [user, hparts], by rw [password, hparts]⟩
  | some parts =>
    obtain ⟨info, located⟩ := parts
    have hparts : u.userAndHost = (some info, located) := by rw [userAndHost, splitUser, hcut]
    rw [hparts]
    obtain ⟨hauthority, hlocated⟩ := cutLast?_eq_some.1 hcut
    exact .inr ⟨info, hauthority, hlocated, by rw [user, password, hparts]⟩

/-- A password that is there stands between a colon and the last at sign. -/
theorem authority_eq {u : Url} (h : u.password ≠ []) :
    u.authority = u.user ++ (':' :: (u.password ++ ['@']) ++ u.userAndHost.2) ∧ ':' ∉ u.user ∧
      '@' ∉ u.userAndHost.2 := by
  obtain ⟨-, -, hnone⟩ | ⟨info, hauthority, hlocated, hinfo⟩ := authority_cases u
  · exact absurd hnone h
  · obtain ⟨huser, hshown | ⟨hnone, -⟩⟩ := splitBehind_eq hinfo
    · refine ⟨?_, huser, hlocated⟩
      rw [hauthority, hshown, marked_of_ne_nil ':' h]
      simp
    · exact absurd hnone h

/-- Masking replaces the password and nothing else. -/
theorem redacted_eq {u : Url} (h : u.password ≠ []) :
    u.redacted = { u with authority := u.user ++ (":***@".toList ++ u.userAndHost.2) } := by
  obtain ⟨hauthority, huser, -⟩ := authority_eq h
  -- the text that is replaced begins with a colon, and the user before it has none
  have hmasked := replaceFirst_append huser (u.password ++ ['@']) ":***@".toList u.userAndHost.2
  rw [← hauthority] at hmasked
  rw [redacted, List.cons_append, hmasked]

theorem userAndHost_redacted {u : Url} (h : u.password ≠ []) :
    u.redacted.userAndHost = (some (u.user ++ ":***".toList), u.userAndHost.2) := by
  obtain ⟨-, -, hlocated⟩ := authority_eq h
  have hmask : u.user ++ (":***@".toList ++ u.userAndHost.2) = u.user ++ ":***".toList ++ '@' :: u.userAndHost.2 := by
    simp
  rw [redacted_eq h, userAndHost, hmask, splitUser_append hlocated]

/-- The masked URL is like the URL. -/
theorem sameButPassword_redacted {u : Url} (h : u.password ≠ []) : u.SameButPassword u.redacted where
  scheme := rfl
  user := by
    have huser := (authority_eq h).2.1
    rw [user, userAndHost_redacted h]
    exact congrArg Prod.fst (splitBehind_append huser "***".toList)
  located := by rw [userAndHost_redacted h]
  path := rfl
  parameters := rfl
  query := rfl
  fragment := rfl

/-- URLs that are alike but for their passwords are one and the same with the passwords masked. -/
theorem SameButPassword.redacted_eq {u v : Url} (h : u.SameButPassword v) (hu : u.password ≠ [])
    (hv : v.password ≠ []) : v.redacted = u.redacted := by
  rw [Url.redacted_eq hu, Url.redacted_eq hv, h.user, h.located, h.scheme, h.path, h.parameters, h.query, h.fragment]

/-! ### What reading allows -/

theorem checkBrackets_eq_ok {authority : List Char} :
    checkBrackets authority = .ok () ↔ ('[' ∈ authority ↔ ']' ∈ authority) ∧
      ('[' ∈ authority →
        ∃ host, bracketedHost? (splitUser authority).2 = some host ∧ checkBracketedHost host = .ok ()) := by
  rw [checkBrackets]
  by_cases hopened : '[' ∈ authority <;> by_cases hclosed : ']' ∈ authority
  · cases hhost : bracketedHost? (splitUser authority).2 <;> simp [hopened, hclosed]
  · simp [hopened, hclosed]
  · simp [hopened, hclosed]
  · simp [hopened, hclosed]

theorem checkCompatibility_eq_ok {authority : List Char} :
    checkCompatibility authority = .ok () ↔ ∀ c ∈ authority, c.toNat ∉ compatibilityPoints := by
  rw [checkCompatibility]
  by_cases h : (authority.any fun c => compatibilityPoints.contains c.toNat) = true
  · rw [if_pos h]
    obtain ⟨c, hc, hpoint⟩ := List.any_eq_true.1 h
    exact ⟨nofun, fun hnone => absurd (List.contains_iff_mem.1 hpoint) (hnone c hc)⟩
  · rw [if_neg h]
    refine ⟨fun _ c hc hpoint => h (List.any_eq_true.2 ⟨c, hc, List.contains_iff_mem.2 hpoint⟩), fun _ => rfl⟩

/-! ### One password in the place of another -/

/-- What stands behind an at sign is taken apart the same way, whatever stands before. -/
theorem splitUser_at (rest : List Char) :
    ∃ more located, ∀ before, splitUser (before ++ '@' :: rest) = (some (before ++ more), located) := by
  cases hcut : cutLast? '@' rest with
  | none =>
    refine ⟨[], rest, fun before => ?_⟩
    rw [splitUser_append (cutLast?_eq_none.1 hcut), List.append_nil]
  | some parts =>
    obtain ⟨more, located⟩ := parts
    obtain ⟨rfl, hlocated⟩ := cutLast?_eq_some.1 hcut
    refine ⟨'@' :: more, located, fun before => ?_⟩
    rw [← List.cons_append, ← List.append_assoc, splitUser_append hlocated]

/-- Behind user and password the host is found in the same place, whatever the password. -/
theorem splitUser_credentials (name rest : List Char) :
    ∃ more located, ∀ x,
      splitUser (name ++ ':' :: (x ++ '@' :: rest)) = (some (name ++ ':' :: (x ++ more)), located) := by
  obtain ⟨more, located, hrest⟩ := splitUser_at rest
  refine ⟨more, located, fun x => ?_⟩
  have hjoined := hrest (name ++ ':' :: x)
  simpa only [List.append_assoc, List.cons_append] using hjoined

section
variable {name x y : List Char}

/-- How a scheme, a name and a password in front of some text are read, the same way for every password. -/
theorem sections_of_credentials {driver : List Char} (hscheme : IsScheme (cleaned driver)) (text : List Char)
    (hname : ∀ c ∈ name, endsAuthority c = false ∧ isDropped c = false) :
    ∃ scheme rest tail, ∀ x : List Char, (∀ c ∈ x, endsAuthority c = false ∧ isDropped c = false) →
      sections (cleaned (driver ++ ':' :: '/' :: '/' :: (name ++ ':' :: (x ++ '@' :: text)))) =
        (scheme, name ++ ':' :: (x ++ '@' :: rest), tail) := by
  have hne : cleaned driver ≠ [] := by
    intro hnil
    rw [hnil] at hscheme
    cases hscheme.1
  let behind := text.filter (!isDropped ·)
  refine ⟨(cleaned driver).map Char.toLower, behind.takeWhile (!endsAuthority ·), behind.dropWhile (!endsAuthority ·),
    fun x hx => ?_⟩
  have hkept {t : List Char} (ht : ∀ c ∈ t, endsAuthority c = false ∧ isDropped c = false) :
      t.filter (!isDropped ·) = t := List.filter_eq_self.2 fun c hc => by rw [(ht c hc).2]; rfl
  have hfiltered : (':' :: '/' :: '/' :: (name ++ ':' :: (x ++ '@' :: text))).filter (!isDropped ·) =
      ':' :: '/' :: '/' :: (name ++ ':' :: (x ++ '@' :: behind)) := by
    simp only [List.filter_cons, List.filter_append, hkept hname, hkept hx]
    rfl
  have hjoined (t : List Char) : name ++ ':' :: (x ++ '@' :: t) = (name ++ ':' :: (x ++ ['@'])) ++ t := by simp
  have hinside : ∀ c ∈ name ++ ':' :: (x ++ ['@']), (!endsAuthority c) = true := by
    intro c hc
    simp only [List.mem_append, List.mem_cons, List.not_mem_nil, or_false] at hc
    obtain hc | rfl | hc | rfl := hc
    · rw [(hname c hc).1]
      rfl
    · rfl
    · rw [(hx c hc).1]
      rfl
    · rfl
  rw [cleaned_append hne, hfiltered, sections, splitScheme_append hscheme]
  dsimp only
  rw [splitAuthority, hjoined behind, List.takeWhile_append_of_pos hinside, List.dropWhile_append_of_pos hinside,
    ← hjoined]

/-- Authorities with another password make URLs that are the same but for it. -/
theorem sameButPassword_assembled (hname : ':' ∉ name) (hx : x ≠ []) (hy : y ≠ []) (scheme rest tail : List Char) :
    let u := assembled scheme (name ++ ':' :: (x ++ '@' :: rest)) tail
    let v := assembled scheme (name ++ ':' :: (y ++ '@' :: rest)) tail
    u.SameButPassword v ∧ u.password ≠ [] ∧ v.password ≠ [] := by
  intro u v
  obtain ⟨more, located, hsplit⟩ := splitUser_credentials name rest
  have hu : u.userAndHost = (some (name ++ ':' :: (x ++ more)), located) := hsplit x
  have hv : v.userAndHost = (some (name ++ ':' :: (y ++ more)), located) := hsplit y
  refine ⟨⟨rfl, ?_, ?_, rfl, rfl, rfl, rfl⟩, ?_, ?_⟩
  · simp only [user, hu, hv, splitBehind_append hname]
  · rw [hu, hv]
  · simp [password, hu, splitBehind_append hname, hx]
  · simp [password, hv, splitBehind_append hname, hy]

/-- A password without brackets and without characters that hide others may stand for another one without brackets. -/
theorem Allowed.of_password (hx : '[' ∉ x ∧ ']' ∉ x)
    (hy : ∀ c ∈ y, c ≠ '[' ∧ c ≠ ']' ∧ c.toNat ∉ compatibilityPoints) {rest : List Char}
    (h : Allowed (name ++ ':' :: (x ++ '@' :: rest))) : Allowed (name ++ ':' :: (y ++ '@' :: rest)) := by
  have hsame {c : Char} (hcx : c ∉ x) (hcy : c ∉ y) :
      c ∈ name ++ ':' :: (y ++ '@' :: rest) ↔ c ∈ name ++ ':' :: (x ++ '@' :: rest) := by
    simp [hcx, hcy]
  have hopened := hsame hx.1 fun hmem => (hy _ hmem).1 rfl
  have hclosed := hsame hx.2 fun hmem => (hy _ hmem).2.1 rfl
  obtain ⟨more, located, hsplit⟩ := splitUser_credentials name rest
  obtain ⟨hbrackets, hcompatible⟩ := h
  rw [checkBrackets_eq_ok, hsplit] at hbrackets
  rw [checkCompatibility_eq_ok] at hcompatible
  refine ⟨?_, ?_⟩
  · rw [checkBrackets_eq_ok, hopened, hclosed, hsplit]
    exact hbrackets
  · rw [checkCompatibility_eq_ok]
    intro c hc
    by_cases hcy : c ∈ y
    · exact (hy c hcy).2.2
    · refine hcompatible c ?_
      simp only [List.mem_append, List.mem_cons] at hc ⊢
      grind

end

/-! ### Reading what is masked -/

/-- A masked authority has the characters of the mask, and else those beside the password. -/
theorem mem_redacted_authority {u : Url} (h : u.password ≠ []) {c : Char} :
    c ∈ u.redacted.authority ↔ (c = ':' ∨ c = '*' ∨ c = '@') ∨ c ∈ u.user ++ u.userAndHost.2 := by
  have hmask : c ∈ ":***@".toList ↔ c = ':' ∨ c = '*' ∨ c = '@' := by simp
  rw [redacted_eq h]
  simp only [List.mem_append, hmask]
  exact or_left_comm

theorem mem_authority {u : Url} (h : u.password ≠ []) {c : Char} (hc : c ∈ u.user ++ u.userAndHost.2) :
    c ∈ u.authority := by
  rw [(authority_eq h).1]
  rcases List.mem_append.1 hc with hc | hc
  · exact List.mem_append_left _ hc
  · exact List.mem_append_right _ (List.mem_append_right _ hc)

/-- Reading allows a masked authority if brackets are paired in it. -/
theorem allowed_redacted {u : Url} (h : u.password ≠ []) (hallowed : Allowed u.authority) :
    Allowed u.redacted.authority ↔ u.BracketsPaired := by
  have hopened : '[' ∈ u.redacted.authority ↔ '[' ∈ u.user ++ u.userAndHost.2 := by
    rw [mem_redacted_authority h]
    exact or_iff_right (by decide)
  have hclosed : ']' ∈ u.redacted.authority ↔ ']' ∈ u.user ++ u.userAndHost.2 := by
    rw [mem_redacted_authority h]
    exact or_iff_right (by decide)
  have hlocated : splitUser u.redacted.authority = (some (u.user ++ ":***".toList), u.userAndHost.2) :=
    userAndHost_redacted h
  rw [Allowed, checkBrackets_eq_ok, hopened, hclosed, hlocated]
  refine ⟨fun hred => hred.1.1, fun hpaired => ⟨⟨hpaired, fun hmem => ?_⟩, ?_⟩⟩
  · -- the host is looked for behind the password, where nothing has changed
    exact (checkBrackets_eq_ok.1 hallowed.1).2 (mem_authority h hmem)
  · rw [checkCompatibility_eq_ok]
    intro c hc
    obtain (rfl | rfl | rfl) | hc := (mem_redacted_authority h).1 hc
    · decide
    · decide
    · decide
    · exact checkCompatibility_eq_ok.1 hallowed.2 c (mem_authority h hc)

/-- A masked URL is read from its text if brackets are paired in it. -/
theorem parse_redacted {s : String} {u v : Url} (hs : parse s = .ok u) (h : u.password ≠ []) :
    parse (String.ofList u.redacted.text) = .ok v ↔ u.BracketsPaired ∧ v = u.redacted := by
  have hne : u.authority ≠ [] := by
    rw [(authority_eq h).1]
    simp
  obtain ⟨scheme, rest, tail, -, -, -, hinside, hkept⟩ := sections_of_parse hs hne
  have hplain : ∀ c ∈ u.redacted.authority, endsAuthority c = false ∧ isDropped c = false := by
    intro c hc
    obtain (rfl | rfl | rfl) | hc := (mem_redacted_authority h).1 hc
    · decide
    · decide
    · decide
    · have hmem := mem_authority h hc
      exact ⟨hinside c hmem, hkept c (List.mem_append_left _ hmem)⟩
  have hother : u.redacted.authority ≠ [] := by
    rw [redacted_eq h]
    simp
  rw [← allowed_redacted h (allowed_of_parse hs)]
  exact parse_text hs hne hother hplain

/-- Reading has paired the brackets of a URL without a password. -/
theorem bracketsPaired_of_parse {s : String} {u : Url} (hs : parse s = .ok u) (h : u.password = []) :
    u.BracketsPaired := by
  have hmem {c : Char} (hcolon : c ≠ ':') (hat : c ≠ '@') : c ∈ u.authority ↔ c ∈ u.user ++ u.userAndHost.2 := by
    obtain ⟨hlocated, huser, -⟩ | ⟨info, hauthority, -, hinfo⟩ := authority_cases u
    · rw [hlocated, huser, List.nil_append]
    · obtain ⟨-, hshown | ⟨-, hshown⟩⟩ := splitBehind_eq hinfo
      · rw [hauthority, hshown, h]
        simp [hat]
      · rw [hauthority, hshown]
        simp [hcolon, hat]
  rw [BracketsPaired, ← hmem (by decide) (by decide), ← hmem (by decide) (by decide)]
  exact (checkBrackets_eq_ok.1 (allowed_of_parse hs).1).1

end RecordMapper.Url
