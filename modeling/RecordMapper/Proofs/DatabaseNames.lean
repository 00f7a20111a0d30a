import Mathlib.Data.List.DropRight
import RecordMapper.Proofs.ReadableUrls

/-!
Names of databases. In the URL of a server by parts the name stands as it is, between the slash that ends the authority
and the end of the URL, and reading takes the path without the slashes at its ends. What a URL drops or is cut at is
lost with all that is behind the cut, and so are slashes at the ends of the name. Main statement: the name is read back
exactly if it has none of these.
-/
namespace RecordMapper

open Text

/-! ### Trimmed texts -/

theorem Text.head_of_dropWhile {p : Char → Bool} {s : List Char} (h : s.dropWhile p = s) :
    ∀ c ∈ s.head?, p c = false := by
  intro c hc
  have hhead := List.head?_dropWhile_not p s
  rw [h, hc] at hhead
  exact hhead

/-- Trimming leaves exactly the texts alone that neither begin nor end with what is trimmed. -/
theorem Text.trimWhile_eq_self_iff {p : Char → Bool} {s : List Char} :
    trimWhile p s = s ↔ (∀ c ∈ s.head?, p c = false) ∧ ∀ c ∈ s.getLast?, p c = false := by
  refine ⟨fun h => ?_, fun h => trimWhile_eq_self h.1 h.2⟩
  have hright : trimWhile p s <+: s.dropWhile p := List.rdropWhile_prefix p _
  rw [h] at hright
  have hleft : s.dropWhile p = s := (List.dropWhile_suffix p).eq_of_length_le hright.length_le
  rw [trimWhile, hleft, dropRightWhile, List.reverse_eq_iff] at h
  refine ⟨head_of_dropWhile hleft, ?_⟩
  rw [← List.head?_reverse]
  exact head_of_dropWhile h

theorem Text.trimWhile_sublist (p : Char → Bool) (s : List Char) : (trimWhile p s).Sublist s :=
  (List.rdropWhile_prefix p _).sublist.trans (List.dropWhile_sublist p)

namespace Url

/-- The part before the first mark. -/
theorem splitBehind_fst (mark : Char) (s : List Char) : (splitBehind mark s).1 = s.takeWhile (· != mark) := by
  rw [splitBehind]
  cases hcut : cut? mark s with
  | none =>
    have hall : ∀ c ∈ s, (c != mark) = true := fun c hc =>
      bne_iff_ne.2 fun heq => cut?_eq_none.1 hcut (heq ▸ hc)
    exact (List.takeWhile_eq_self_iff.2 hall).symm
  | some parts =>
    obtain ⟨hs, hbefore⟩ := cut?_eq_some.1 hcut
    have hall : ∀ c ∈ parts.1, (c != mark) = true := fun c hc => bne_iff_ne.2 fun heq => hbefore (heq ▸ hc)
    rw [hs, List.takeWhile_append_of_pos hall, List.takeWhile_cons_of_neg (by simp), List.append_nil]
    rfl

/-- A path ends before it. -/
def endsPath (c : Char) : Bool := c == '#' || c == '?'

/-- The path behind an authority, where the scheme has no parameters. -/
theorem path_assembled {scheme : List Char} (hscheme : parameterSchemes.contains (String.ofList scheme) = false)
    (authority behind : List Char) :
    (assembled scheme authority ('/' :: behind)).path = '/' :: behind.takeWhile (!endsPath ·) := by
  have hends (c : Char) : decide ((c != '?') = true ∧ (c != '#') = true) = !endsPath c := by
    rw [endsPath, Bool.not_or, Bool.and_comm, Bool.decide_and, Bool.decide_eq_true, Bool.decide_eq_true]
    rfl
  have hwhole (s : List Char) : splitPath scheme s = (s, []) := if_neg (Bool.eq_false_iff.1 hscheme)
  rw [assembled]
  dsimp only
  rw [hwhole, splitBehind_fst, splitBehind_fst, List.takeWhile_takeWhile]
  simp only [hends]
  exact List.takeWhile_cons_of_pos rfl

end Url

/-! ### Names -/

/-- The name of a database as it is read from the URL that it has been written to. -/
def nameRead (name : List Char) : List Char :=
  trimWhile (· == '/') ((name.filter (!Url.isDropped ·)).takeWhile (!Url.endsPath ·))

/-- A name is read as it is if it has nothing that is dropped or that ends a path, and no slash at its ends. -/
theorem nameRead_eq_self_iff {name : List Char} :
    nameRead name = name ↔ (∀ c ∈ name, Url.endsPath c = false ∧ Url.isDropped c = false) ∧
      name.head? ≠ some '/' ∧ name.getLast? ≠ some '/' := by
  have hends (o : Option Char) : (∀ c ∈ o, (c == '/') = false) ↔ o ≠ some '/' := by
    cases o <;> simp
  rw [← hends, ← hends, ← trimWhile_eq_self_iff]
  have htaken := List.takeWhile_sublist (p := (!Url.endsPath ·)) (l := name.filter (!Url.isDropped ·))
  have hkept := List.filter_sublist (p := (!Url.isDropped ·)) (l := name)
  constructor
  · intro h
    have htrimmed := trimWhile_sublist (· == '/') ((name.filter (!Url.isDropped ·)).takeWhile (!Url.endsPath ·))
    rw [← nameRead, h] at htrimmed
    have hfilter : name.filter (!Url.isDropped ·) = name := hkept.antisymm (htrimmed.trans htaken)
    rw [hfilter] at htaken htrimmed
    have htake : name.takeWhile (!Url.endsPath ·) = name := htaken.antisymm htrimmed
    rw [nameRead, hfilter, htake] at h
    refine ⟨fun c hc => ⟨?_, ?_⟩, h⟩
    · simpa using List.takeWhile_eq_self_iff.1 htake c hc
    · simpa using List.filter_eq_self.1 hfilter c hc
  · rintro ⟨hplain, htrimmed⟩
    have hfilter : name.filter (!Url.isDropped ·) = name :=
      List.filter_eq_self.2 fun c hc => by rw [(hplain c hc).2]; rfl
    have htake : name.takeWhile (!Url.endsPath ·) = name :=
      List.takeWhile_eq_self_iff.2 fun c hc => by rw [(hplain c hc).1]; rfl
    rw [nameRead, hfilter, htake, htrimmed]

/-- A text that is not empty is given by its characters. -/
theorem nonEmpty?_eq_some {s : List Char} {name : String} (hname : name ≠ "") :
    nonEmpty? s = some name ↔ s = name.toList := by
  rw [nonEmpty?]
  split
  · rename_i hempty
    rw [List.isEmpty_iff] at hempty
    subst hempty
    constructor
    · intro h
      cases h
    · intro h
      exact absurd (String.toList_eq_nil_iff.1 h.symm) hname
  · rw [Option.some_inj, ← String.toList_inj, String.toList_ofList]

/-- The database is the path without the slashes at its ends. -/
theorem ServerAddress.database_ofUrl {text : String} {u : Url} (hu : Url.parse text = .ok u) {port : Option Nat}
    (hport : u.port = .ok port) :
    ∃ a, ServerAddress.ofUrl text = .ok a ∧ a.database = nonEmpty? (trimWhile (· == '/') u.path) := by
  refine ⟨_, by rw [ServerAddress.ofUrl, hu, ok_bind, hport, ok_bind]; rfl, ?_⟩
  rfl

namespace Config

/-- Settings of a server by parts, whatever the user, the password and the other settings are. -/
def atServer (base : Config) (host : String) (port : Nat) (database : String) : Config :=
  { base with url := none, driver := .text "mysql", host := .text host, port := .int port, database := .text database }

theorem isServer_atServer (base : Config) {host : String} (hhost : ∀ c ∈ host.toList, isHostChar c = true) (port : Nat)
    (database : String) : (base.atServer host port database).IsServer where
  url := rfl
  driver := rfl
  host := hhost
  port _ hc := isHostChar_of_mem_port hc

/-- A host of small letters, digits, points and dashes, a port, and a name that is not empty, with any user and any
password and whatever the other settings are: the URL of the settings is read, and the name of the database in it is the
one of `nameRead`. This is the name itself exactly if the name has no question mark, no hash mark, no tab and no line
end, and neither begins nor ends with a slash. -/
theorem database_read_back_iff (base : Config) {host database : String} {port : Nat}
    (hhost : ∀ c ∈ host.toList, isHostChar c = true) (hport : port ≤ 65535) (hdatabase : database ≠ "") :
    ∃ a, ServerAddress.ofUrl (base.atServer host port database).toUrl = .ok a ∧
      a.database = nonEmpty? (nameRead database.toList) ∧
      (a.database = some database ↔
        (∀ c ∈ database.toList, c ≠ '?' ∧ c ≠ '#' ∧ c ≠ '\t' ∧ c ≠ '\r' ∧ c ≠ '\n') ∧
          database.toList.head? ≠ some '/' ∧ database.toList.getLast? ≠ some '/') := by
  have hserver := base.isServer_atServer hhost port database
  have hname : (base.atServer host port database).databaseOr "" = database :=
    if_pos (by simpa [atServer, Value.isTruthy, String.isEmpty_iff] using hdatabase)
  obtain ⟨u, hu, hauthority, hpath⟩ : ∃ u, Url.parse (base.atServer host port database).toUrl = .ok u ∧
      u.authority = (base.atServer host port database).partsAuthority ∧
      u.path = '/' :: (database.toList.filter (!Url.isDropped ·)).takeWhile (!Url.endsPath ·) := by
    have hscheme : Url.parameterSchemes.contains (String.ofList "mysql".toList) = false := by decide
    refine ⟨_, hserver.parse_eq, rfl, ?_⟩
    rw [Url.path_assembled hscheme, hname]
  have hread : u.port = .ok (some port) := Url.port_eq_ok (by rw [hserver.hostAndPort_eq hauthority]; rfl) hport
  obtain ⟨a, ha, hgiven⟩ := ServerAddress.database_ofUrl hu hread
  rw [hpath, trimWhile, List.dropWhile_cons_of_pos rfl, ← trimWhile, ← nameRead] at hgiven
  refine ⟨a, ha, hgiven, ?_⟩
  rw [hgiven, nonEmpty?_eq_some hdatabase, nameRead_eq_self_iff]
  refine and_congr_left fun _ => forall₂_congr fun c _ => ?_
  simp only [Url.endsPath, Url.isDropped, Bool.or_eq_false_iff, beq_eq_false_iff_ne]
  constructor
  · rintro ⟨⟨hhash, hquestion⟩, ⟨htab, hreturn⟩, hline⟩
    exact ⟨hquestion, hhash, htab, hreturn, hline⟩
  · rintro ⟨hquestion, hhash, htab, hreturn, hline⟩
    exact ⟨⟨hhash, hquestion⟩, ⟨htab, hreturn⟩, hline⟩

/-- A name with characters that structure a URL elsewhere is read back, percent signs included. -/
theorem reserved_name_read_back :
    let host := "db-1.local"
    let name := "shop;v=1 %2F@x:y/ä"
    (∀ c ∈ host.toList, isHostChar c = true) ∧ 3307 ≤ 65535 ∧ name ≠ "" ∧
      ∃ a, ServerAddress.ofUrl (({ user := some "app" } : Config).atServer host 3307 name).toUrl = .ok a ∧
        a.database = some name := by
  have hhost : ∀ c ∈ "db-1.local".toList, isHostChar c = true := List.all_eq_true.1 rfl
  have hname : "shop;v=1 %2F@x:y/ä" ≠ "" := by decide
  obtain ⟨a, ha, -, hsame⟩ := database_read_back_iff { user := some "app" } hhost (by decide : 3307 ≤ 65535) hname
  exact ⟨hhost, by decide, hname, a, ha, hsame.2 ⟨by simp, by decide, by decide⟩⟩

/-- What is behind a question mark in a name is not read as a part of it. -/
theorem marked_name_not_read_back :
    (∀ c ∈ "db".toList, isHostChar c = true) ∧ "a?b" ≠ "" ∧
      ServerAddress.ofUrl (({} : Config).atServer "db" 3306 "a?b").toUrl = .ok ⟨"db", 3306, none, none, some "a"⟩ :=
  ⟨List.all_eq_true.1 rfl, by decide, rfl⟩

end Config

end RecordMapper
