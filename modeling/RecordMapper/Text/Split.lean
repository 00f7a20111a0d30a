/-!
Taking a text apart at a character and putting it together again: `splitOn` never loses a part, empty ones
included, and `cut?` and `cutLast?` cut at the first or the last place only.
-/
namespace RecordMapper.Text

/-- The parts between the places where `p` holds, empty parts included. -/
def splitWhere (p : Char → Bool) : List Char → List (List Char)
  | [] => [[]]
  | c :: rest =>
    if p c then [] :: splitWhere p rest
    else match splitWhere p rest with
      | [] => [[c]]
      | part :: parts => (c :: part) :: parts

/-- The parts between the occurrences of `sep`. -/
def splitOn (sep : Char) (s : String) : List String :=
  (splitWhere (· == sep) s.toList).map String.ofList

/-- Before and after the first `sep`, if there is one. -/
def cut? (sep : Char) : List Char → Option (List Char × List Char)
  | [] => none
  | c :: rest =>
    if c == sep then some ([], rest)
    else (cut? sep rest).map fun (before, after) => (c :: before, after)

/-- Before and after the last `sep`, if there is one. -/
def cutLast? (sep : Char) (s : List Char) : Option (List Char × List Char) :=
  (cut? sep s.reverse).map fun (after, before) => (before.reverse, after.reverse)

/-- What follows `start` in `s`, if `s` begins with it. -/
def after? : (start s : List Char) → Option (List Char)
  | [], s => some s
  | _ :: _, [] => none
  | p :: start, c :: s => if p == c then after? start s else none

/-- Whether `part` occurs somewhere in the text. -/
def hasInfix (part : List Char) : List Char → Bool
  | [] => part.isEmpty
  | c :: rest => (after? part (c :: rest)).isSome || hasInfix part rest

/-- Replaces the first occurrence of `old`. -/
def replaceFirst (old new : List Char) : List Char → List Char
  | [] => if old.isEmpty then new else []
  | c :: rest =>
    match after? old (c :: rest) with
    | some tail => new ++ tail
    | none => c :: replaceFirst old new rest

/-- Removes every occurrence of `old`, from the left and without looking at what a removal brings together;
`skip` counts the characters that still belong to the occurrence being removed. -/
def removeAll (old : List Char) (skip : Nat) : List Char → List Char
  | [] => []
  | c :: rest =>
    if skip > 0 then removeAll old (skip - 1) rest
    else if (after? old (c :: rest)).isSome && !old.isEmpty then removeAll old (old.length - 1) rest
    else c :: removeAll old 0 rest

theorem splitWhere_ne_nil (p : Char → Bool) (s : List Char) : splitWhere p s ≠ [] := by
  cases s with
  | nil => simp [splitWhere]
  | cons c rest =>
    simp only [splitWhere]
    split
    · simp
    · split <;> simp

end RecordMapper.Text
