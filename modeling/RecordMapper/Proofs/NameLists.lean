import RecordMapper.Proofs.ConditionShapes
import RecordMapper.Proofs.InheritedRelations

/-!
Lists of names. A call takes names one by one, as one list, or as one text in which they stand between commas with white
space around them. Cutting such a text at its commas and trimming the parts undoes the joining. Main statement: in each
of the three shapes the names become the columns to select or to group by as they are, and the relations are declared
one after another.
-/
namespace RecordMapper

/-- A name that can stand between commas. -/
structure PlainName (name : String) : Prop where
  nonempty : name ≠ ""
  noComma : ',' ∉ name.toList
  firstNotBlank : ∀ c ∈ name.toList.head?, Text.isBlank c = false
  lastNotBlank : ∀ c ∈ name.toList.getLast?, Text.isBlank c = false

/-- The part is the name with white space around it. -/
def Surrounds (name part : String) : Prop :=
  ∃ left right, part.toList = left ++ name.toList ++ right ∧ ∀ c ∈ left ++ right, Text.isBlank c = true

/-- The shapes in which names may be given to a call. -/
inductive NameShape (given : List String) : List Value → Prop
  /-- One by one. -/
  | separately : NameShape given (given.map .text)
  /-- As one list. -/
  | together : NameShape given (Chain.listed given)
  /-- As one text with commas between them. -/
  | joined {parts : List String} : List.Forall₂ Surrounds given parts → NameShape given [.text (",".intercalate parts)]

/-! ### Parts between separators -/

namespace Text

theorem splitWhere_eq_splitOnP (p : Char → Bool) (s : List Char) : splitWhere p s = s.splitOnP p := by
  induction s with
  | nil => rfl
  | cons c rest ih =>
    rw [splitWhere, List.splitOnP_cons_eq_if_modifyHead, ← ih]
    split
    · rfl
    · cases hparts : splitWhere p rest with
      | nil => exact absurd hparts (splitWhere_ne_nil p rest)
      | cons part parts => rfl

/-- Parts without the separator come back from what they have been joined to. -/
theorem splitOn_intercalate {sep : Char} {parts : List String} (hparts : ∀ part ∈ parts, sep ∉ part.toList)
    (hsome : parts ≠ []) : splitOn sep (sep.toString.intercalate parts) = parts := by
  have hcut : ([sep].intercalate (parts.map String.toList)).splitOn sep = parts.map String.toList :=
    List.splitOn_intercalate sep (List.forall_mem_map.2 hparts) (by simpa using hsome)
  have hsep : sep.toString.toList = [sep] := String.toList_singleton sep
  rw [splitOn, splitWhere_eq_splitOnP, ← List.splitOn_eq_splitOnP, String.toList_intercalate, hsep, hcut,
    List.map_map]
  simp [Function.comp_def]

end Text

/-! ### A name and its part -/

theorem Surrounds.self (name : String) : Surrounds name name := ⟨[], [], (List.append_nil _).symm, by simp⟩

namespace PlainName

variable {name part : String}

theorem trim_part (hname : PlainName name) (hpart : Surrounds name part) : Text.trim part = name := by
  obtain ⟨left, right, htext, hends⟩ := hpart
  rw [Text.trim, htext, Text.trimWhile_append_append _ hends,
    Text.trimWhile_eq_self hname.firstNotBlank hname.lastNotBlank, String.ofList_toList]

theorem noComma_part (hname : PlainName name) (hpart : Surrounds name part) : ',' ∉ part.toList := by
  obtain ⟨left, right, htext, hends⟩ := hpart
  have hnotBlank : Text.isBlank ',' = false := by decide
  have hends : ',' ∉ left ++ right := fun h => Bool.false_ne_true (hnotBlank.symm.trans (hends _ h))
  rw [List.mem_append, not_or] at hends
  simp [htext, hends, hname.noComma]

theorem name?_part (hname : PlainName name) (hpart : Surrounds name part) :
    Chain.name? (.text part) = .ok (some name) := by
  rw [Chain.name?, hname.trim_part hpart, Except.ok.injEq, Option.filter_eq_some_iff]
  exact ⟨rfl, by simpa using hname.nonempty⟩

theorem name?_self (hname : PlainName name) : Chain.name? (.text name) = .ok (some name) :=
  hname.name?_part (.self name)

end PlainName

/-! ### Names in their shapes -/

namespace Chain

variable {given parts : List String} {fields : List Value}

theorem noComma_parts (hparts : List.Forall₂ Surrounds given parts) (hgiven : ∀ name ∈ given, PlainName name) :
    ∀ part ∈ parts, ',' ∉ part.toList := by
  induction hparts with
  | nil => simp
  | cons hpart _ ih =>
    obtain ⟨hname, hrest⟩ := List.forall_mem_cons.1 hgiven
    exact List.forall_mem_cons.2 ⟨hname.noComma_part hpart, ih hrest⟩

theorem forall₂_name?_parts (hparts : List.Forall₂ Surrounds given parts)
    (hgiven : ∀ name ∈ given, PlainName name) :
    List.Forall₂ (fun part name => name? (.text part) = .ok (some name)) parts given := by
  induction hparts with
  | nil => exact .nil
  | cons hpart _ ih =>
    obtain ⟨hname, hrest⟩ := List.forall_mem_cons.1 hgiven
    exact .cons (hname.name?_part hpart) (ih hrest)

theorem names_joined (hgiven : ∀ name ∈ given, PlainName name) (hsome : given ≠ [])
    (hparts : List.Forall₂ Surrounds given parts) : names [.text (",".intercalate parts)] = .ok given := by
  have hsomeParts : parts ≠ [] := fun h => hsome (List.forall₂_nil_right_iff.1 (h ▸ hparts))
  have hcut : Text.splitOn ',' (",".intercalate parts) = parts :=
    Text.splitOn_intercalate (noComma_parts hparts hgiven) hsomeParts
  refine names_of_forall₂ ?_
  rw [nameParts, hcut, List.forall₂_map_left_iff]
  exact forall₂_name?_parts hparts hgiven

/-- A single name by itself is read as a text of names, several are taken as they are. -/
theorem names_separately (hgiven : ∀ name ∈ given, PlainName name) : names (given.map .text) = .ok given := by
  match given with
  | [] => rfl
  | [name] =>
    have hjoined := names_joined hgiven (List.cons_ne_nil _ _) (.cons (.self name) .nil)
    rwa [String.intercalate_singleton] at hjoined
  | first :: second :: rest =>
    show names (listed (first :: second :: rest)) = .ok (first :: second :: rest)
    exact names_listed fun name hname => (hgiven name hname).name?_self

/-- The names are the same in each shape. -/
theorem names_eq_of_shape (hgiven : ∀ name ∈ given, PlainName name) (hsome : given ≠ [])
    (hfields : NameShape given fields) : names fields = .ok given := by
  cases hfields with
  | separately => exact names_separately hgiven
  | together => exact names_listed fun name hname => (hgiven name hname).name?_self
  | joined hparts => exact names_joined hgiven hsome hparts

/-- With a comma in it, a name is one name in a list and two in a text. -/
example : names (listed ["first,last"]) = .ok ["first,last"] ∧ names [.text "first,last"] = .ok ["first", "last"] :=
  ⟨rfl, rfl⟩

/-! ### Relations one after another -/

section
variable {classes : Catalogue} {s : Schema} {run : Intent → List ChainCall → Step}

/-- Asking for one relation makes its calls, if there is one. -/
theorem call_withRelations_single {name : String} (hname : PlainName name) (i : Intent) :
    call classes s run i (.withRelations [.text name]) = (s.relations.lookup name).elim
      (i, .error (misuse s ("relation '" ++ name ++ "' does not exist"))) (run i) := by
  have hgiven : ∀ n ∈ [name], PlainName n := List.forall_mem_singleton.2 hname
  have hnames : names [.text name] = .ok [name] := names_separately hgiven
  rw [call, hnames]
  dsimp only
  cases hcalls : s.relations.lookup name with
  | none =>
    rw [declare, hcalls]
    rfl
  | some calls => exact Catalogue.declare_singleton hcalls run i

/-- Declaring relations by their names is asking for one after another. -/
theorem declare_eq_callAll : ∀ (given : List String) (i : Intent), (∀ name ∈ given, PlainName name) →
    declare s run i given = callAll classes s run i (given.map fun name => .withRelations [.text name])
  | [], _, _ => rfl
  | name :: rest, i, hgiven => by
    obtain ⟨hname, hrest⟩ := List.forall_mem_cons.1 hgiven
    rw [List.map_cons, callAll, call_withRelations_single hname, declare]
    cases s.relations.lookup name with
    | none => rfl
    | some calls =>
      -- the rest is asked for only if the calls of the first do not fail, on either side
      dsimp only [Option.elim]
      split
      · exact declare_eq_callAll rest _ hrest
      · rfl

/-- A call may be taken for another that does the same to every intent. -/
theorem callAll_congr {c d : ChainCall} (hsame : ∀ i, call classes s run i c = call classes s run i d)
    (after : List ChainCall) : ∀ (before : List ChainCall) (i : Intent),
    callAll classes s run i (before ++ c :: after) = callAll classes s run i (before ++ d :: after)
  | [], i => by rw [List.nil_append, List.nil_append, callAll, callAll, hsame]
  | b :: before, i => by
    rw [List.cons_append, List.cons_append, callAll, callAll]
    split
    · exact callAll_congr hsame after before _
    · rfl

end

/-- The calls for which names are given. -/
def namedCalls : List (List Value → ChainCall) := [.select, .groupBy, .withRelations]

/-- Such a call looks at nothing but the names. -/
theorem call_congr_names (classes : Catalogue) (s : Schema) {fields fields' : List Value}
    (hnames : names fields = names fields') {c : List Value → ChainCall} (hc : c ∈ namedCalls)
    (run : Intent → List ChainCall → Step) (i : Intent) :
    call classes s run i (c fields) = call classes s run i (c fields') := by
  simp only [namedCalls, List.mem_cons, List.not_mem_nil, or_false] at hc
  obtain rfl | rfl | rfl := hc <;> simp only [call, hnames]

end Chain

open Chain

/-- Names in any of the shapes, given to a call. Selecting and grouping by them changes the columns alone, to the names
in their order. Declaring relations by them is asking for one after another by its name alone, up to the first that
fails, and one makes the calls that are registered under its name. Wherever such a call stands in a chain, it may be
made with the names in another shape. -/
theorem names_in_any_shape {given : List String} (hgiven : ∀ name ∈ given, PlainName name) (hsome : given ≠ [])
    {fields fields' : List Value} (hfields : NameShape given fields) (hfields' : NameShape given fields')
    (classes : Catalogue) (s : Schema) :
    (∀ run i, call classes s run i (.select fields) = ok { i with select := given } ∧
      call classes s run i (.groupBy fields) = ok { i with groupBy := given } ∧
      call classes s run i (.withRelations fields) =
        callAll classes s run i (given.map fun name => .withRelations [.text name]) ∧
      ∀ name ∈ given, call classes s run i (.withRelations [.text name]) = (s.relations.lookup name).elim
        (i, .error (misuse s ("relation '" ++ name ++ "' does not exist"))) (run i)) ∧
    ∀ c ∈ namedCalls, ∀ (i : Intent) (before after : List ChainCall),
      Model.chain classes ⟨s, i⟩ (before ++ c fields :: after) =
        Model.chain classes ⟨s, i⟩ (before ++ c fields' :: after) := by
  have hnames : names fields = .ok given := names_eq_of_shape hgiven hsome hfields
  refine ⟨fun run i => ⟨?_, ?_, ?_, fun name hname => ?_⟩, fun c hc i before after => ?_⟩
  · simp [call, hnames, orElse, hsome]
  · simp [call, hnames, orElse, hsome]
  · rw [call, hnames]
    exact declare_eq_callAll given i hgiven
  · exact call_withRelations_single (hgiven name hname) i
  · have hsame := call_congr_names classes s (hnames.trans (names_eq_of_shape hgiven hsome hfields').symm) hc
    have hruns (calls : List ChainCall) : runCalls classes s maxDepth i calls =
        callAll classes s (runCalls classes s (maxDepth - 1)) i calls := rfl
    rw [Model.chain, Model.chain, hruns, hruns, callAll_congr (hsame _) after before i]

/-- Users with posts and a picture. -/
def usersWithPicture : Schema :=
  { userSchema with relations := [("posts", [.relate .hasMany "Post" "user_id" "id" none none]),
      ("picture", [.relate .hasOne "Post" "user_id" "id" (some "picture") none])] }

/-- Posts and pictures asked for by one text, with white space around the names, in the midst of a chain. -/
theorem posts_and_picture_by_one_text :
    let joined : List Value := [.text "\tposts ,picture  "]
    let separate : List Value := [.text "posts", .text "picture"]
    let chained (fields : List Value) := Model.chain [Hydration.postClass] ⟨usersWithPicture, .empty⟩
      ([.whereNull false "city"] ++ .withRelations fields :: [.limit (.int 5) .null])
    chained joined = chained separate ∧
      (chained separate).1.intent.relations.map Relation.identifier = ["posts", "picture"] ∧
      ∀ run i, call [Hydration.postClass] usersWithPicture run i (.select joined) =
        ok { i with select := ["posts", "picture"] } := by
  intro joined separate chained
  have hposts : PlainName "posts" := ⟨by decide, by decide, by simp [Text.isBlank], by simp [Text.isBlank]⟩
  have hpicture : PlainName "picture" := ⟨by decide, by decide, by simp [Text.isBlank], by simp [Text.isBlank]⟩
  have hgiven : ∀ name ∈ ["posts", "picture"], PlainName name :=
    List.forall_mem_cons.2 ⟨hposts, List.forall_mem_singleton.2 hpicture⟩
  have hparts : List.Forall₂ Surrounds ["posts", "picture"] ["\tposts ", "picture  "] :=
    .cons ⟨['\t'], [' '], rfl, by simp [Text.isBlank]⟩ (.cons ⟨[], [' ', ' '], rfl, by simp [Text.isBlank]⟩ .nil)
  obtain ⟨hcalls, hchains⟩ := names_in_any_shape hgiven (by decide) (.joined hparts) .separately
    [Hydration.postClass] usersWithPicture
  exact ⟨hchains .withRelations (by simp [namedCalls]) .empty _ _, rfl, fun run i => (hcalls run i).1⟩

end RecordMapper
