import RecordMapper.Proofs.Credentials

/-!
Settings whose URL can be read. A URL that is set has been read before the settings are accepted, and that of a file
names no authority; but the URL of a server by parts has the host in it as it is written. Main statements: the masked
URL can be shown exactly if the URL can be read; and the URL of a server is read, with the authority that user,
password, host and port make, if host and port consist of small letters, digits, points and dashes.
-/
namespace RecordMapper

open Text

namespace Config

/-- The URL of the settings can be read. -/
def Readable (c : Config) : Prop := ∃ u, Url.parse c.toUrl = .ok u

theorem readable_iff {c : Config} : c.Readable ↔ ∃ text, c.redactedUrl = .ok text := by
  constructor
  · rintro ⟨u, hu⟩
    exact ⟨_, redactedUrl_eq_ok.2 ⟨u, hu, rfl⟩⟩
  · rintro ⟨text, htext⟩
    obtain ⟨u, hu, -⟩ := redactedUrl_eq_ok.1 htext
    exact ⟨u, hu⟩

/-- A URL that is set has been read to find out the driver. -/
theorem readable_of_url {c : Config} (hvalid : c.validate = .ok ()) {url : String} (hurl : given? c.url = some url) :
    c.Readable := by
  obtain ⟨driver, hdriver, -⟩ := bind_eq_ok.1 hvalid
  rw [UrlError.mapError_eq_ok, resolvedDriver, hurl] at hdriver
  obtain ⟨u, hu, -⟩ := bind_eq_ok.1 hdriver
  refine ⟨u, ?_⟩
  rw [toUrl, hurl]
  exact hu

/-- The URL of a file names no authority. -/
theorem readable_of_file {c : Config} (hurl : given? c.url = none)
    (hdriver : c.driver.sameKey (.text "sqlite") = true) : c.Readable := by
  have htext : c.toUrl.toList =
      "sqlite".toList ++ ':' :: '/' :: '/' :: ([] ++ '/' :: (c.databaseOr memoryPath).toList) := by
    rw [toUrl, hurl]
    dsimp only
    rw [if_pos hdriver]
    simp
  have hscheme : Url.IsScheme "sqlite".toList := by decide
  exact ⟨_, Url.parse_isPlain hscheme (fun _ hmem => absurd hmem List.not_mem_nil) _ htext⟩

/-! ### Servers -/

/-- User and password stand before an at sign, if they are there. -/
theorem credentials_eq (c : Config) :
    c.credentials.toList = [] ∨ ∃ info, c.credentials.toList = info ++ ['@'] := by
  rw [credentials]
  split
  · exact .inl rfl
  · exact .inr ⟨_, String.toList_append⟩

/-- What stands before the host has none of the characters that a URL is cut at. -/
theorem isPlain_credentials (c : Config) : ∀ ch ∈ c.credentials.toList, Url.IsPlain ch := by
  have hencoded {s : String} {ch : Char} (hc : ch ∈ (encoded s).toList) : Url.IsPlain ch := by
    rw [encoded, String.toList_ofList] at hc
    obtain ⟨⟨hinside, hkept⟩, -, -, hopened, hclosed, hcompatible⟩ := plain_of_mem_percentEncode hc
    exact ⟨hinside, hkept, hopened, hclosed, hcompatible⟩
  have hcolon : Url.IsPlain ':' := ⟨rfl, rfl, by decide, by decide, by decide⟩
  have hat : Url.IsPlain '@' := ⟨rfl, rfl, by decide, by decide, by decide⟩
  intro ch hch
  rw [credentials] at hch
  split at hch
  · cases hch
  · simp only [String.toList_append, List.mem_append] at hch
    obtain (hch | hch) | hch := hch
    · exact hencoded hch
    · split at hch
      · cases hch
      · rw [String.toList_append, List.mem_append] at hch
        rcases hch with hch | hch
        · rw [List.mem_singleton.1 hch]
          exact hcolon
        · exact hencoded hch
    · rw [List.mem_singleton.1 hch]
      exact hat

/-- User, password, host and port of a server by parts, as they stand in the URL. -/
def partsAuthority (c : Config) : List Char :=
  c.credentials.toList ++ (c.host.shown.toList ++ ':' :: c.port.shown.toList)

/-- Settings of a server by parts, with host and port of small letters, digits, points and dashes. -/
structure IsServer (c : Config) : Prop where
  url : given? c.url = none
  driver : c.driver = .text "mysql"
  host : ∀ ch ∈ c.host.shown.toList, isHostChar ch = true
  port : ∀ ch ∈ c.port.shown.toList, isHostChar ch = true

/-- A port that is a number is plain. -/
theorem isHostChar_of_mem_port {port : Nat} {ch : Char} (hch : ch ∈ (Value.int port).shown.toList) :
    isHostChar ch = true := by
  have hdigit : ch.isDigit = true := Numeral.isDigit_of_mem_toString hch
  simp [isHostChar, hdigit]

namespace IsServer

variable {c : Config} (h : c.IsServer)
include h

theorem isPlain : ∀ ch ∈ c.partsAuthority, Url.IsPlain ch := by
  intro ch hch
  rw [partsAuthority, List.mem_append, List.mem_append, List.mem_cons] at hch
  rcases hch with hch | hch | rfl | hch
  · exact isPlain_credentials c ch hch
  · exact (Url.plain_of_isHostChar (h.host ch hch)).1
  · exact ⟨rfl, rfl, by decide, by decide, by decide⟩
  · exact (Url.plain_of_isHostChar (h.port ch hch)).1

/-- What the URL is read as: the database, whatever it is, is behind the authority. -/
theorem parse_eq : Url.parse c.toUrl = .ok (Url.assembled "mysql".toList c.partsAuthority
    ('/' :: (c.databaseOr "").toList.filter (!Url.isDropped ·))) := by
  have htext : c.toUrl.toList =
      "mysql".toList ++ ':' :: '/' :: '/' :: (c.partsAuthority ++ '/' :: (c.databaseOr "").toList) := by
    have hother : (Value.text "mysql").sameKey (.text "sqlite") = false := rfl
    have hshown : (Value.text "mysql").shown = "mysql" := rfl
    simp [toUrl, h.url, h.driver, hother, hshown, partsAuthority]
  have hscheme : Url.IsScheme "mysql".toList := by decide
  exact Url.parse_isPlain hscheme h.isPlain _ htext

theorem readable : c.Readable := ⟨_, h.parse_eq⟩

/-- Host and port as they are read. -/
theorem hostAndPort_eq {u : Url} (hu : u.authority = c.partsAuthority) :
    u.hostAndPort = (c.host.shown.toList, c.port.shown.toList) := by
  have hmarks {s : List Char} (hs : ∀ ch ∈ s, isHostChar ch = true) : ':' ∉ s ∧ '@' ∉ s ∧ '[' ∉ s :=
    ⟨fun hmem => (Url.plain_of_isHostChar (hs _ hmem)).2.1.1 rfl,
      fun hmem => (Url.plain_of_isHostChar (hs _ hmem)).2.1.2.1 rfl,
      fun hmem => (Url.plain_of_isHostChar (hs _ hmem)).1.notOpened rfl⟩
  obtain ⟨hcolon, hat, hopened⟩ := hmarks h.host
  obtain ⟨-, hatPort, hopenedPort⟩ := hmarks h.port
  have hnoAt : '@' ∉ c.host.shown.toList ++ ':' :: c.port.shown.toList := by simp [hat, hatPort]
  have hnoBracket : '[' ∉ c.host.shown.toList ++ ':' :: c.port.shown.toList := by simp [hopened, hopenedPort]
  have hlocated : u.userAndHost.2 = c.host.shown.toList ++ ':' :: c.port.shown.toList := by
    rw [Url.userAndHost, hu, partsAuthority]
    rcases credentials_eq c with hnone | ⟨info, hinfo⟩
    · rw [hnone, List.nil_append, Url.splitUser, cutLast?_eq_none.2 hnoAt]
    · rw [hinfo, List.append_assoc, List.singleton_append, Url.splitUser_append hnoAt]
  rw [Url.hostAndPort, hlocated, cut?_eq_none.2 hnoBracket]
  exact Url.splitBehind_append hcolon _

end IsServer

/-- The settings that are there without any are those of a server. -/
theorem isServer_default : ({} : Config).IsServer where
  url := rfl
  driver := rfl
  host := List.all_eq_true.1 (rfl : "localhost".toList.all isHostChar = true)
  port _ hch := isHostChar_of_mem_port hch

/-- Settings within bounds can be read if they have a URL, or are those of a file, or of a server with a plain host. -/
theorem readable_of_validate {c : Config} (hvalid : c.validate = .ok ())
    (h : given? c.url ≠ none ∨ c.driver.sameKey (.text "sqlite") = true ∨ c.IsServer) : c.Readable := by
  cases hurl : given? c.url with
  | some url => exact readable_of_url hvalid hurl
  | none =>
    obtain hdriver | hserver := h.resolve_left (absurd hurl)
    · exact readable_of_file hurl hdriver
    · exact hserver.readable

/-- The host of an address with one of its brackets: the settings are within bounds, and their URL cannot be read. -/
def halfBracketed : Config := { host := .text "[::1" }

example : halfBracketed.validate = .ok () ∧ Url.parse halfBracketed.toUrl = .error .unbalancedBrackets := ⟨rfl, rfl⟩

end Config

end RecordMapper
