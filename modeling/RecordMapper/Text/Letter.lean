import RecordMapper.Text.CaseTable
import RecordMapper.Text.CasedTable

/-!
Capital and small letters of every script, character by character. A letter may turn into several
(`ß` into `SS`), so the maps go from a character to a text. One letter looks around: a capital sigma at the end of a
word has a small letter of its own.
-/
namespace RecordMapper.Text

/-- The shift that a table of runs gives to code point `n`. -/
def shiftIn (runs : List (Nat × Nat × Nat × Int)) (n : Nat) : Option Int :=
  (runs.find? fun (first, last, stride, _) => first ≤ n && n ≤ last && (n - first) % stride == 0).map
    (·.2.2.2)

/-- A case map made of a map on ASCII, a table of runs and a table of special cases. -/
def mapCase (ascii : Char → Char) (runs : List (Nat × Nat × Nat × Int)) (specials : List (Nat × List Nat))
    (c : Char) : List Char :=
  if c.toNat < 128 then [ascii c]
  else match specials.lookup c.toNat with
    | some several => several.map Char.ofNat
    | none =>
      match shiftIn runs c.toNat with
      | some shift => [Char.ofNat (c.toNat + shift).toNat]
      | none => [c]

/-- The capital of a character. -/
def capital : Char → List Char := mapCase Char.toUpper capitalRuns capitalSpecials

/-- The small letter of a character. -/
def small : Char → List Char := mapCase Char.toLower smallRuns smallSpecials

/-- The text in capitals. -/
def toCapitals (s : String) : String := String.ofList (s.toList.flatMap capital)

/-- Whether one of the ranges has the character. -/
def isWithin (ranges : List (Nat × Nat)) (c : Char) : Bool :=
  ranges.any fun (first, last) => first ≤ c.toNat && c.toNat ≤ last

/-- Whether the next letter is one with case; ignorable characters before it are left out. -/
def meetsCased (s : List Char) : Bool :=
  ((s.dropWhile (isWithin ignorableRanges)).head?.map (isWithin casedRanges)).getD false

/-- The small letter of a capital sigma between what stands before it, the nearest first, and what behind it. -/
def smallSigma (before behind : List Char) : Char :=
  if meetsCased before && !meetsCased behind then 'ς' else 'σ'

/-- The small letters of what stands behind `before`, whose nearest character comes first. -/
def smallBehind (before : List Char) : List Char → List Char
  | [] => []
  | c :: rest =>
    (if c == 'Σ' then [smallSigma before rest] else small c) ++ smallBehind (c :: before) rest

/-- A text in small letters. -/
def smallText (s : List Char) : List Char := smallBehind [] s

/-- The text in small letters. -/
def toSmall (s : String) : String := String.ofList (smallText s.toList)

end RecordMapper.Text
