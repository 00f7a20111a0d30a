import RecordMapper.Value

/-!
Statements as they are laid out: pieces of text with values at their places. `sql` puts a question mark where a
value stands and `bindings` lists the values, so the two always agree in number; `render` writes the values
themselves.
-/
namespace RecordMapper

/-- A piece of a statement: text, or the place of a value. -/
inductive Piece where
  | text (s : String)
  | slot (v : Value)
  deriving Inhabited

/-- A statement in pieces. -/
abbrev Layout := List Piece

namespace Layout

/-- A piece of text. -/
def words (s : String) : Layout := [.text s]

/-- The text of a statement with its values written by `r`. -/
def render (r : Value → String) : Layout → String
  | [] => ""
  | .text s :: rest => s ++ render r rest
  | .slot v :: rest => r v ++ render r rest

/-- The text of a statement with a question mark for each value. -/
def sql (l : Layout) : String := render (fun _ => "?") l

/-- The values of a statement in order. -/
def bindings : Layout → List Value
  | [] => []
  | .text _ :: rest => bindings rest
  | .slot v :: rest => v :: bindings rest

/-- Parts with a separator between them. -/
def separated (separator : String) : List Layout → Layout
  | [] => []
  | [part] => part
  | part :: rest => part ++ words separator ++ separated separator rest

@[simp] theorem render_append (r : Value → String) (l m : Layout) : render r (l ++ m) = render r l ++ render r m := by
  induction l with
  | nil => simp [render]
  | cons p l ih => cases p <;> simp [render, ih, String.append_assoc]

@[simp] theorem bindings_append (l m : Layout) : bindings (l ++ m) = bindings l ++ bindings m := by
  induction l with
  | nil => rfl
  | cons p l ih => cases p <;> simp [bindings, ih]

end Layout

end RecordMapper
