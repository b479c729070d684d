/-
  OrderBy.Clause — one property with its direction.

  A clause is made by one checking function, `Clause.check`: it refuses a
  property that has no character other than dots and blanks, trims the ones it
  accepts, and reads the direction.  Every function that changes a clause goes
  back through it (`Clause.make`), so a clause that was made once is
  `Clause.WellFormed`, and that is what lets the changes succeed.
-/
import OrderBy.Direction
import OrderBy.SortError

namespace OrderBy

/-! ## §1. Valid properties -/

/-- The character between the parts of a property path. -/
def pathSeparator : Char := '.'

/-- **A property names something** when it is not empty after trimming, dropping the dots and
trimming again. -/
def isValidProperty (property : List Char) : Bool :=
  !(Text.strip ((Text.strip property).filter (· != pathSeparator))).isEmpty

/-- A value is a valid property when it is a text that is one. -/
def Json.isValidProperty : Json → Bool
  | .text s => OrderBy.isValidProperty s.toList
  | _ => false

/-! ## §2. Clauses -/

/-- **One property with its direction.** -/
structure Clause where
  /-- The property, a path whose parts are separated by dots. -/
  property : String
  /-- The direction. -/
  direction : Direction := .asc
  deriving DecidableEq, Repr, Hashable, Inhabited

/-- Read a direction as a caller gives it; a value that is no text is read by its shown form. -/
def DirectionChoice.read : DirectionChoice → Except SortError Direction
  | .known direction => .ok direction
  | .written value =>
    match Direction.ofText? value.display with
    | some direction => .ok direction
    | none => .error (.invalidDirection value)

namespace Clause

/-- What every clause that was made satisfies: its property is trimmed and names something. -/
structure WellFormed (c : Clause) : Prop where
  trimmed : Text.IsTrimmed c.property.toList
  valid : isValidProperty c.property.toList = true

instance (c : Clause) : Decidable c.WellFormed :=
  decidable_of_iff (Text.IsTrimmed c.property.toList ∧ isValidProperty c.property.toList = true)
    ⟨fun h => ⟨h.1, h.2⟩, fun h => ⟨h.trimmed, h.valid⟩⟩

/-- **Make a clause**: the property is checked first, then trimmed, and the direction read
last. -/
def check (property : Json) (direction : DirectionChoice) : Except SortError Clause :=
  match property with
  | .text s =>
    if isValidProperty s.toList then
      match direction.read with
      | .ok d => .ok ⟨String.ofList (Text.strip s.toList), d⟩
      | .error e => .error e
    else .error (.invalidProperty property)
  | _ => .error (.invalidProperty property)

/-- Make a clause of a text and a direction. -/
def make (property : String) (direction : Direction) : Except SortError Clause :=
  check (.text property) (.known direction)

/-- A text and a direction make a clause exactly when the text is a valid property. -/
theorem make_eq (property : String) (direction : Direction) :
    make property direction
      = if isValidProperty property.toList then
          .ok ⟨String.ofList (Text.strip property.toList), direction⟩
        else .error (.invalidProperty (.text property)) := by
  simp only [make, check, DirectionChoice.read]

/-- The clause of the same property in a direction yet to be read. -/
def withChoice (c : Clause) (direction : DirectionChoice) : Except SortError Clause :=
  check (.text c.property) direction

/-- The clause of the same property in a given direction. -/
def withDirection (c : Clause) (direction : Direction) : Except SortError Clause :=
  c.withChoice (.known direction)

/-- The clause of the same property in the other direction. -/
def flip (c : Clause) : Except SortError Clause :=
  c.withDirection c.direction.flip

end Clause

end OrderBy
