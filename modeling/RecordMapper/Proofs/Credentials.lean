import RecordMapper.Proofs.HiddenPasswords
import RecordMapper.Proofs.IntegerTexts

/-!
Addresses of servers. Settings by parts are written as a URL from which the address of the server is read: user and
password stand in it in percent encoding, host and port as they are, and the database, whatever it is, behind the first
slash, where the authority has ended. Main statement: user, password, host and port are read back.
-/
namespace RecordMapper

open Text

/-- Small letters, digits, points and dashes. -/
def isHostChar (c : Char) : Bool := c.isLower || c.isDigit || c == '.' || c == '-'

theorem lt_of_isHostChar {c : Char} (h : isHostChar c = true) : c.toNat < 128 := by
  simp only [isHostChar, Bool.or_eq_true, beq_iff_eq] at h
  obtain ((h | h) | rfl) | rfl := h
  · have hletter : ((c.isUpper || c.isLower) || c.isDigit) = true := by rw [h, Bool.or_true, Bool.true_or]
    exact Url.lt_of_isAlphanum hletter
  · exact Numeral.lt_of_isDigit h
  all_goals decide

/-- A text of small ASCII letters stays as it is in small letters. -/
theorem smallText_eq_self {s : List Char} (h : ∀ c ∈ s, c.toNat < 128 ∧ c.toLower = c) : smallText s = s := by
  have hbehind : ∀ {s : List Char}, (∀ c ∈ s, c.toNat < 128 ∧ c.toLower = c) → ∀ before, smallBehind before s = s := by
    intro s
    induction s with
    | nil => exact fun _ _ => rfl
    | cons c rest ih =>
      intro hs before
      obtain ⟨⟨hascii, hlower⟩, hrest⟩ := List.forall_mem_cons.1 hs
      have hsigma : (c == 'Σ') = false := beq_eq_false_iff_ne.2 (by rintro rfl; exact absurd hascii (by decide))
      have hsmall : small c = [c] := by rw [small, mapCase, if_pos hascii, hlower]
      rw [smallBehind, hsigma, if_neg Bool.false_ne_true, hsmall, List.singleton_append, ih hrest]
  exact hbehind h []

/-! ### URLs with a plain authority -/

namespace Url

/-- The character structures no URL, and reading neither drops nor refuses it. -/
structure IsPlain (c : Char) : Prop where
  inside : endsAuthority c = false
  kept : isDropped c = false
  notOpened : c ≠ '['
  notClosed : c ≠ ']'
  compatible : c.toNat ∉ compatibilityPoints

/-- A character of a host is plain, structures no authority either, and is its own small letter. -/
theorem plain_of_isHostChar {c : Char} (h : isHostChar c = true) :
    IsPlain c ∧ (c ≠ ':' ∧ c ≠ '@' ∧ c ≠ '%') ∧ c.toLower = c := by
  have hplain : ∀ n : Fin 128, isHostChar (Char.ofNat n) = true →
      (endsAuthority (Char.ofNat n) = false ∧ isDropped (Char.ofNat n) = false ∧ Char.ofNat n ≠ '[' ∧
        Char.ofNat n ≠ ']' ∧ (Char.ofNat n).toNat ∉ compatibilityPoints) ∧
      (Char.ofNat n ≠ ':' ∧ Char.ofNat n ≠ '@' ∧ Char.ofNat n ≠ '%') ∧ (Char.ofNat n).toLower = Char.ofNat n := by
    decide
  have hc := hplain ⟨c.toNat, lt_of_isHostChar h⟩
  rw [Char.ofNat_toNat] at hc
  obtain ⟨⟨hinside, hkept, hopened, hclosed, hcompatible⟩, hmarks, hsmall⟩ := hc h
  exact ⟨⟨hinside, hkept, hopened, hclosed, hcompatible⟩, hmarks, hsmall⟩

theorem allowed_of_isPlain {authority : List Char} (h : ∀ c ∈ authority, IsPlain c) : Allowed authority := by
  have hopened : '[' ∉ authority := fun hmem => (h _ hmem).notOpened rfl
  have hclosed : ']' ∉ authority := fun hmem => (h _ hmem).notClosed rfl
  refine ⟨checkBrackets_eq_ok.2 ⟨iff_of_false hopened hclosed, fun hmem => absurd hmem hopened⟩, ?_⟩
  exact checkCompatibility_eq_ok.2 fun c hc => (h c hc).compatible

/-- A scheme, a plain authority and any path behind it are read as they are, but for what cleaning drops. -/
theorem parse_isPlain {scheme authority : List Char} (hscheme : IsScheme scheme)
    (hauthority : ∀ c ∈ authority, IsPlain c) (path : List Char) {s : String}
    (hs : s.toList = scheme ++ ':' :: '/' :: '/' :: (authority ++ '/' :: path)) :
    parse s = .ok (assembled (scheme.map Char.toLower) authority ('/' :: path.filter (!isDropped ·))) := by
  have hkept : ∀ c ∈ scheme, 32 < c.toNat ∧ isDropped c = false :=
    fun c hc => kept_of_isSchemeChar (List.all_eq_true.1 hscheme.2 c hc)
  have hstays : cleaned scheme = scheme :=
    cleaned_eq_self (fun c hc => (hkept c (List.mem_of_head? hc)).1) fun c hc => (hkept c hc).2
  have hne : cleaned scheme ≠ [] := by
    rw [hstays]
    rintro rfl
    cases hscheme.1
  have hsame : authority.filter (!isDropped ·) = authority :=
    List.filter_eq_self.2 fun c hc => by rw [(hauthority c hc).kept]; rfl
  have hcleaned : cleaned s.toList =
      scheme ++ ':' :: '/' :: '/' :: (authority ++ '/' :: path.filter (!isDropped ·)) := by
    rw [hs, cleaned_append hne, hstays]
    simp only [List.filter_cons, List.filter_append, hsame]
    rfl
  have hsections : sections (cleaned s.toList) =
      (scheme.map Char.toLower, authority, '/' :: path.filter (!isDropped ·)) := by
    rw [hcleaned, sections, splitScheme_append hscheme]
    dsimp only
    rw [splitAuthority_append (fun c hc => (hauthority c hc).inside)]
    rintro c ⟨⟩
    rfl
  exact (parse_of_sections hsections).2 ⟨allowed_of_isPlain hauthority, rfl⟩

section
variable {u : Url} {name word host port : List Char}

/-- User, password, host and port of an authority that is made of them. -/
theorem parts_of_authority (h : u.authority = name ++ ':' :: word ++ '@' :: (host ++ ':' :: port)) (hname : ':' ∉ name)
    (hhost : ':' ∉ host ∧ '@' ∉ host ∧ '[' ∉ host) (hport : '@' ∉ port ∧ '[' ∉ port) :
    u.user = name ∧ u.password = word ∧ u.hostAndPort = (host, port) := by
  have hat : '@' ∉ host ++ ':' :: port := by simp [hhost, hport]
  have hopened : '[' ∉ host ++ ':' :: port := by simp [hhost, hport]
  have hparts : u.userAndHost = (some (name ++ ':' :: word), host ++ ':' :: port) := by
    rw [userAndHost, h, splitUser_append hat]
  refine ⟨?_, ?_, ?_⟩
  · rw [user, hparts]
    dsimp only
    rw [splitBehind_append hname]
  · rw [password, hparts]
    dsimp only
    rw [splitBehind_append hname]
  · rw [hostAndPort, hparts]
    dsimp only
    rw [cut?_eq_none.2 hopened]
    dsimp only
    rw [splitBehind_append hhost.1]

/-- A host of small letters, digits, points and dashes is read as it is. -/
theorem host_eq_self (h : u.hostAndPort.1 = host) (hhost : ∀ c ∈ host, isHostChar c = true) : u.host = host := by
  have hpercent : '%' ∉ host := fun hmem => (plain_of_isHostChar (hhost _ hmem)).2.1.2.2 rfl
  rw [Url.host, h, cut?_eq_none.2 hpercent]
  exact smallText_eq_self fun c hc => ⟨lt_of_isHostChar (hhost c hc), (plain_of_isHostChar (hhost c hc)).2.2⟩

/-- A port in decimal digits is read. -/
theorem port_eq_ok {n : Nat} (h : u.hostAndPort.2 = (toString n).toList) (hn : n ≤ 65535) : u.port = .ok (some n) := by
  have htext := Numeral.toList_toString_nat n
  have hdigits : (Nat.toDigits 10 n).all Char.isDigit = true :=
    List.all_eq_true.2 fun c hc => Numeral.isDigit_of_mem_toDigits hc
  have hempty : (Nat.toDigits 10 n).isEmpty = false := by
    rw [List.isEmpty_eq_false_iff]
    exact Nat.toDigits_ne_nil
  have hshort : (toString n).length ≤ Numeral.maxDigits := by
    have hfive : (Nat.toDigits 10 n).length ≤ 5 := (Nat.length_toDigits_le_iff (by decide) (by decide)).2 (by omega)
    rw [← String.length_toList, htext, Numeral.maxDigits]
    omega
  have hread := Numeral.readInt_toString n
  rw [if_pos hshort, htext] at hread
  rw [port, h, htext, hempty, hdigits, hread]
  have hbound : (n : Int) ≤ 65535 := by omega
  exact if_pos hbound

end

end Url

/-! ### Settings by parts -/

namespace Config

/-- Settings of a server by parts, whatever its database and its other settings. -/
def ofServer (base : Config) (user password host : String) (port : Nat) : Config :=
  { base with url := none, driver := .text "mysql", user := some user, password := some password,
              host := .text host, port := .int port }

section
variable (base : Config) (user password host : String) (port : Nat)

/-- User, password, host and port as they stand in the URL. -/
def serverAuthority : List Char :=
  percentEncode user.toList ++ ':' :: percentEncode password.toList ++
    '@' :: (host.toList ++ ':' :: (toString port).toList)

variable {user password host}

theorem toUrl_ofServer (huser : user ≠ "") (hpassword : password ≠ "") :
    (base.ofServer user password host port).toUrl.toList =
      "mysql".toList ++ ':' :: '/' :: '/' ::
        (serverAuthority user password host port ++ '/' :: (base.databaseOr "").toList) := by
  have hparts : (base.ofServer user password host port).located =
      host ++ ":" ++ toString port ++ "/" ++ base.databaseOr "" := rfl
  have hlocated : (base.ofServer user password host port).located.toList =
      host.toList ++ ':' :: (toString port).toList ++ '/' :: (base.databaseOr "").toList := by
    rw [hparts]
    simp
  have hdriver : (base.ofServer user password host port).driver.shown = "mysql" := rfl
  have hgiven : given? (base.ofServer user password host port).user = some user := given?_some huser
  rw [← show { base.ofServer user password host port with password := some password } =
      base.ofServer user password host port from rfl, toUrl_of_parts rfl rfl hgiven hpassword, hlocated, hdriver,
    serverAuthority]
  simp

/-- The URL of a server's settings has a plain authority. -/
theorem isPlain_serverAuthority (hhost : ∀ c ∈ host.toList, isHostChar c = true) :
    ∀ c ∈ serverAuthority user password host port, Url.IsPlain c := by
  have hencoded {s : String} {c : Char} (hc : c ∈ percentEncode s.toList) : Url.IsPlain c := by
    obtain ⟨⟨hinside, hkept⟩, -, -, hopened, hclosed, hcompatible⟩ := plain_of_mem_percentEncode hc
    exact ⟨hinside, hkept, hopened, hclosed, hcompatible⟩
  have hdigit {c : Char} (hc : c ∈ (toString port).toList) : isHostChar c = true := by
    simp [isHostChar, Numeral.isDigit_of_mem_toString hc]
  have hlocated {c : Char} (hc : isHostChar c = true) : Url.IsPlain c := (Url.plain_of_isHostChar hc).1
  intro c hc
  simp only [serverAuthority, List.mem_append, List.mem_cons] at hc
  obtain ((hc | rfl | hc) | rfl | hc | rfl | hc) := hc
  · exact hencoded hc
  · exact ⟨rfl, rfl, by decide, by decide, by decide⟩
  · exact hencoded hc
  · exact ⟨rfl, rfl, by decide, by decide, by decide⟩
  · exact hlocated (hhost c hc)
  · exact ⟨rfl, rfl, by decide, by decide, by decide⟩
  · exact hlocated (hdigit hc)

/-- What the URL of a server's settings is read as. -/
theorem parse_ofServer (huser : user ≠ "") (hpassword : password ≠ "")
    (hhost : ∀ c ∈ host.toList, isHostChar c = true) :
    Url.parse (base.ofServer user password host port).toUrl =
      .ok (Url.assembled "mysql".toList (serverAuthority user password host port)
        ('/' :: (base.databaseOr "").toList.filter (!Url.isDropped ·))) := by
  have hscheme : Url.IsScheme "mysql".toList := by decide
  exact Url.parse_isPlain hscheme (isPlain_serverAuthority port hhost) _ (toUrl_ofServer base port huser hpassword)

end

/-- A part of the URL that is a percent encoding is given, and is what has been encoded. -/
theorem decoded_percentEncode {s : String} (hs : s ≠ "") :
    (nonEmpty? (percentEncode s.toList)).map (fun t => String.ofList (percentDecode t.toList)) = some s := by
  have hne : (percentEncode s.toList).isEmpty = false :=
    List.isEmpty_eq_false_iff.2 (percentEncode_ne_nil (by simpa using hs))
  rw [nonEmpty?, hne, if_neg Bool.false_ne_true, Option.map_some, String.toList_ofList, percentDecode_percentEncode,
    String.ofList_toList]

/-- User and password that are not empty, a host of small letters, digits, points and dashes, and a port are read back
from the URL of the settings, whatever the database and the other settings are. Without a host the address is that of
this machine. -/
theorem credentials_read_back (base : Config) {user password host : String} {port : Nat} (huser : user ≠ "")
    (hpassword : password ≠ "") (hhost : ∀ c ∈ host.toList, isHostChar c = true) (hport : 1 ≤ port ∧ port ≤ 65535) :
    ∃ a, ServerAddress.ofUrl (base.ofServer user password host port).toUrl = .ok a ∧ a.user = some user ∧
      a.password = some password ∧ a.host = (if host = "" then "localhost" else host) ∧ a.port = port := by
  obtain ⟨u, hu, hauthority⟩ : ∃ u, Url.parse (base.ofServer user password host port).toUrl = .ok u ∧
      u.authority = serverAuthority user password host port :=
    ⟨_, parse_ofServer base port huser hpassword hhost, rfl⟩
  have hencoded {c : Char} {s : String} (hc : c = ':' ∨ c = '@') : c ∉ percentEncode s.toList := by
    intro hmem
    obtain ⟨-, hcolon, hat, -⟩ := plain_of_mem_percentEncode hmem
    exact hc.elim hcolon hat
  have hmarks {c : Char} (hc : c ∈ host.toList) : c ≠ ':' ∧ c ≠ '@' ∧ c ≠ '%' :=
    (Url.plain_of_isHostChar (hhost c hc)).2.1
  have hdigit {c : Char} (hc : c ∈ (toString port).toList) : c.isDigit = true := Numeral.isDigit_of_mem_toString hc
  obtain ⟨hname, hword, hlocated⟩ := Url.parts_of_authority hauthority (hencoded (.inl rfl))
    ⟨fun h => (hmarks h).1 rfl, fun h => (hmarks h).2.1 rfl,
      fun h => (Url.plain_of_isHostChar (hhost _ h)).1.notOpened rfl⟩
    ⟨fun h => absurd (hdigit h) (by decide), fun h => absurd (hdigit h) (by decide)⟩
  have hread : u.port = .ok (some port) := Url.port_eq_ok (by rw [hlocated]) hport.2
  have hhostRead : u.host = host.toList := Url.host_eq_self (by rw [hlocated]) hhost
  refine ⟨_, by rw [ServerAddress.ofUrl, hu, ok_bind, hread, ok_bind]; rfl, ?_, ?_, ?_, ?_⟩
  · rw [hname]
    exact decoded_percentEncode huser
  · rw [hword]
    exact decoded_percentEncode hpassword
  · rw [hhostRead, nonEmpty?]
    by_cases hempty : host = ""
    · rw [if_pos hempty, hempty]
      rfl
    · rw [if_neg hempty, if_neg (by simpa using hempty), Option.getD_some, String.ofList_toList]
  · cases port with
    | zero => exact absurd hport.1 (by decide)
    | succ n => rfl

/-- Reserved characters, letters beyond ASCII and a database that looks like the end of a URL. -/
theorem shop_credentials_read_back :
    let host := "db-1.local"
    "app:1" ≠ "" ∧ "p@ß/100%" ≠ "" ∧ (∀ c ∈ host.toList, isHostChar c = true) ∧ (1 ≤ 3307 ∧ 3307 ≤ 65535) ∧
      ∃ a, ServerAddress.ofUrl
          (({ database := .text "shop@x:1/?#" } : Config).ofServer "app:1" "p@ß/100%" host 3307).toUrl = .ok a ∧
        a.user = some "app:1" ∧ a.password = some "p@ß/100%" ∧ a.host = host ∧ a.port = 3307 := by
  have hhost : ∀ c ∈ "db-1.local".toList, isHostChar c = true := List.all_eq_true.1 rfl
  refine ⟨by decide, by decide, hhost, by decide, ?_⟩
  exact credentials_read_back { database := .text "shop@x:1/?#" } (by decide) (by decide) hhost (by decide)

/-- A host without characters is not read back. -/
theorem empty_host_not_read_back :
    (∀ c ∈ "".toList, isHostChar c = true) ∧
      ServerAddress.ofUrl (({} : Config).ofServer "app" "secret" "" 3306).toUrl =
        .ok ⟨"localhost", 3306, some "app", some "secret", none⟩ :=
  ⟨nofun, rfl⟩

end Config

end RecordMapper
