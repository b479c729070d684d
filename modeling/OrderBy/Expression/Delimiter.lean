/-
  OrderBy.Expression.Delimiter — what separates the pieces of an expression.

  A delimiter is a text, or the runs of blanks between words.  A caller may
  also hand over a value that is neither; such a delimiter is no error by
  itself, but only when a text is cut at it.

  Reading an expression cuts it at the delimiter (`Delimiter.cut`).  Writing
  one puts the shown form of the delimiter after the property
  (`Delimiter.shown`).
-/
import OrderBy.SortError
import OrderBy.Text.Blank
import OrderBy.Text.Split

namespace OrderBy.Expression

/-! ## §1. Delimiters -/

/-- **What separates the pieces of an expression.** -/
inductive Delimiter where
  /-- A text. -/
  | text (s : String)
  /-- Every run of blanks. -/
  | blanks
  /-- A value that separates nothing. -/
  | unusable (value : Json)
  deriving Repr, Inhabited

namespace Delimiter

/-- A comma, what separates pieces unless it is told otherwise. -/
def comma : Delimiter := .text ","

/-- The delimiter that a value stands for: `null` stands for the runs of blanks. -/
def ofJson : Json → Delimiter
  | .text s => .text s
  | .null => .blanks
  | value => .unusable value

/-- The value that stands for a delimiter. -/
def toJson : Delimiter → Json
  | .text s => .text s
  | .blanks => .null
  | .unusable value => value

/-! ## §2. Cutting, and the shown form -/

/-- **Cut a text at a delimiter.** -/
def cut (delimiter : Delimiter) (cs : List Char) : Except SortError (List (List Char)) :=
  match delimiter with
  | .text s => if s.isEmpty then .error .emptyDelimiter else .ok (Text.pieces s.toList cs)
  | .blanks => .ok (Text.words cs)
  | .unusable value => .error (.badDelimiter value)

/-- A text that is not empty cuts a text into its pieces. -/
theorem cut_text {s : String} (h : s.isEmpty = false) (cs : List Char) :
    (text s).cut cs = .ok (Text.pieces s.toList cs) := by
  simp [cut, h]

/-- The form of a delimiter inside a written expression. -/
def shown (delimiter : Delimiter) : String := delimiter.toJson.display

@[simp] theorem shown_text (s : String) : (text s).shown = s := rfl

end Delimiter

end OrderBy.Expression
