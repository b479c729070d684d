/-
  OrderBy.Proofs.Clause — which texts are properties, and which clauses can be made.

  A property is checked by trimming it, dropping the dots and trimming again.
  What this looks for is one character that is neither a dot nor blank, wherever
  it stands (`isValidProperty_iff`); so trimming never makes a property valid or
  invalid, and a clause that was made can be made again from its own parts.

  Main results:
    * `isValidProperty_iff` — the check, by the characters of the property;
    * `Clause.check_eq_ok_iff`, `Clause.check_eq_error_iff` — what the checking
      function makes, and what it refuses with which error;
    * `Clause.make_of_wellFormed`, `Clause.wellFormed_of_check` — the clauses
      that it makes are the well-formed ones.
-/
import OrderBy.Clause
import OrderBy.Proofs.Direction
import OrderBy.Proofs.Outcome
import OrderBy.Proofs.Text.Trimming

namespace OrderBy

open OrderBy.Text

/-! ## §1. Valid properties -/

/-- **A property names something exactly when it has a character that is neither a dot nor
blank.** -/
theorem isValidProperty_iff {property : List Char} :
    isValidProperty property = true ↔ ∃ c ∈ property, c ≠ pathSeparator ∧ isBlank c = false := by
  constructor
  · intro h
    by_contra hnone
    push Not at hnone
    -- nothing but blanks is left once the dots are dropped
    have hblank : ∀ c ∈ (strip property).filter (· != pathSeparator), isBlank c = true := by
      intro c hc
      obtain ⟨hmem, hdot⟩ := List.mem_filter.mp hc
      have hnot := hnone c ((isInfix_strip property).subset hmem) (bne_iff_ne.mp hdot)
      rwa [ne_eq, Bool.not_eq_false] at hnot
    rw [isValidProperty, strip_eq_nil_iff.mpr hblank] at h
    exact absurd h (by decide)
  · rintro ⟨c, hc, hdot, hblank⟩
    -- the character comes through all three steps
    have hmem : c ∈ (strip property).filter (· != pathSeparator) :=
      List.mem_filter.mpr ⟨mem_strip_of_not_blank hblank hc, bne_iff_ne.mpr hdot⟩
    have hkept := mem_strip_of_not_blank hblank hmem
    rw [isValidProperty, Bool.not_eq_true', List.isEmpty_eq_false_iff]
    exact List.ne_nil_of_mem hkept

/-- Trimming makes no property valid or invalid. -/
theorem isValidProperty_strip (property : List Char) :
    isValidProperty (strip property) = isValidProperty property := by
  rw [isValidProperty, isValidProperty, strip_strip]

/-! ## §2. What the check accepts and refuses -/

/-- **A text names something** when it has a character that is neither a dot nor blank. -/
def NamesSomething (property : List Char) : Prop :=
  ∃ c ∈ property, c ≠ pathSeparator ∧ isBlank c = false

/-- A value names a property when it is a text that names something. -/
def Json.NamesProperty (value : Json) : Prop :=
  ∃ text : String, value = .text text ∧ NamesSomething text.toList

/-- **The direction that a choice stands for**: the one that is known, or that the value is written
with. -/
inductive DirectionChoice.StandsFor : DirectionChoice → Direction → Prop where
  /-- A known direction. -/
  | known (direction : Direction) : StandsFor (.known direction) direction
  /-- A value whose form in messages names a direction. -/
  | written {value : Json} {direction : Direction} (h : direction.Named value.display.toList) :
    StandsFor (.written value) direction

namespace DirectionChoice

variable {choice : DirectionChoice}

theorem read_written (value : Json) :
    read (.written value) = match Direction.ofChars? value.display.toList with
      | some direction => .ok direction
      | none => .error (.invalidDirection value) :=
  rfl

/-- **Reading a choice gives the direction that it stands for.** -/
theorem read_eq_ok_iff {direction : Direction} :
    choice.read = .ok direction ↔ choice.StandsFor direction := by
  cases choice with
  | known own =>
    constructor
    · intro h
      rw [← Except.ok.inj h]
      exact .known own
    · rintro ⟨⟩
      rfl
  | written value =>
    rw [read_written]
    constructor
    · intro h
      split at h
      next found hfound =>
        rw [← Except.ok.inj h]
        exact .written (Direction.ofChars?_eq_some_iff.mp hfound)
      next => exact absurd h (by simp)
    · rintro (_ | hnamed)
      rw [Direction.ofChars?_eq_some_iff.mpr hnamed]

/-- **A choice is refused when it is written with a value that names no direction.** -/
theorem read_eq_error_iff {e : SortError} :
    choice.read = .error e ↔ ∃ value, choice = .written value
      ∧ (∀ direction : Direction, ¬ direction.Named value.display.toList)
      ∧ e = .invalidDirection value := by
  cases choice with
  | known own =>
    constructor
    · intro h
      exact absurd h (by simp [read])
    · rintro ⟨value, hvalue, _⟩
      exact absurd hvalue (by simp)
  | written value =>
    rw [read_written]
    constructor
    · intro h
      split at h
      next => exact absurd h (by simp)
      next hnone =>
        exact ⟨value, rfl, Direction.ofChars?_eq_none_iff.mp hnone, (Except.error.inj h).symm⟩
    · rintro ⟨other, hother, hnone, rfl⟩
      rw [written.injEq] at hother
      rw [← hother] at hnone ⊢
      rw [Direction.ofChars?_eq_none_iff.mpr hnone]

end DirectionChoice

namespace Clause

/-- **A clause is made of a value and a choice** when the value names its property, the blanks around
it apart, and the choice stands for its direction. -/
structure MadeOf (property : Json) (direction : DirectionChoice) (c : Clause) : Prop where
  property : ∃ text : String, property = .text text ∧ NamesSomething text.toList
    ∧ c.property.toList = strip text.toList
  direction : direction.StandsFor c.direction

/-- **What is refused, and with which error**: the direction is looked at only when the property is
accepted. -/
inductive Refused : Json → DirectionChoice → SortError → Prop where
  /-- The value names no property. -/
  | property {value : Json} {direction : DirectionChoice} (h : ¬ value.NamesProperty) :
    Refused value direction (.invalidProperty value)
  /-- The value names a property, and the other value no direction. -/
  | direction {property value : Json} (hproperty : property.NamesProperty)
    (h : ∀ direction : Direction, ¬ direction.Named value.display.toList) :
    Refused property (.written value) (.invalidDirection value)

variable {property : Json} {direction : DirectionChoice}

theorem Refused.kind {e : SortError} (h : Refused property direction e) :
    e.kind = .invalidSort := by
  cases h <;> rfl

theorem exists_madeOf_iff :
    (∃ c, MadeOf property direction c)
      ↔ property.NamesProperty ∧ ∃ d, direction.StandsFor d := by
  constructor
  · rintro ⟨c, ⟨text, htext, hnames, _⟩, hdirection⟩
    exact ⟨⟨text, htext, hnames⟩, c.direction, hdirection⟩
  · rintro ⟨⟨text, htext, hnames⟩, d, hdirection⟩
    exact ⟨⟨String.ofList (strip text.toList), d⟩,
      ⟨text, htext, hnames, String.toList_ofList⟩, hdirection⟩

/-- A value that names a property is trimmed, and the choice is read. -/
theorem check_of_namesSomething {text : String} (h : NamesSomething text.toList)
    (direction : DirectionChoice) :
    check (.text text) direction
      = direction.read.map fun d => ⟨String.ofList (strip text.toList), d⟩ := by
  have hvalid : isValidProperty text.toList = true := isValidProperty_iff.mpr h
  show (if isValidProperty text.toList then _ else _) = _
  rw [if_pos hvalid]
  cases direction.read <;> rfl

/-- Any other value is refused, whatever the choice is. -/
theorem check_of_not_namesProperty (h : ¬ property.NamesProperty) (direction : DirectionChoice) :
    check property direction = .error (.invalidProperty property) := by
  unfold check
  split
  next text =>
    rw [if_neg]
    intro hvalid
    exact h ⟨text, rfl, isValidProperty_iff.mp hvalid⟩
  next => rfl

/-- **The check makes the clauses that are made of what it is given**, and no others. -/
theorem check_eq_ok_iff {c : Clause} :
    check property direction = .ok c ↔ MadeOf property direction c := by
  constructor
  · intro h
    by_cases hnames : property.NamesProperty
    · obtain ⟨text, rfl, htext⟩ := hnames
      rw [check_of_namesSomething htext] at h
      obtain ⟨d, hread, rfl⟩ := Outcome.of_map_eq_ok h
      exact ⟨⟨text, rfl, htext, String.toList_ofList⟩, DirectionChoice.read_eq_ok_iff.mp hread⟩
    · rw [check_of_not_namesProperty hnames] at h
      exact absurd h (by simp)
  · rintro ⟨⟨text, rfl, htext, hproperty⟩, hdirection⟩
    rw [check_of_namesSomething htext, DirectionChoice.read_eq_ok_iff.mpr hdirection, ← hproperty,
      String.ofList_toList]
    rfl

/-- **It refuses what is to be refused**, with that error. -/
theorem check_eq_error_iff {e : SortError} :
    check property direction = .error e ↔ Refused property direction e := by
  constructor
  · intro h
    by_cases hnames : property.NamesProperty
    · obtain ⟨text, rfl, htext⟩ := id hnames
      -- the property passes, so it is the direction that does not
      rw [check_of_namesSomething htext, Outcome.map_eq_error_iff,
        DirectionChoice.read_eq_error_iff] at h
      obtain ⟨value, rfl, hnone, rfl⟩ := h
      exact .direction hnames hnone
    · -- the choice was not read
      rw [check_of_not_namesProperty hnames] at h
      rw [← Except.error.inj h]
      exact .property hnames
  · intro h
    cases h with
    | property hnames => exact check_of_not_namesProperty hnames direction
    | @direction value hnames hnone =>
      obtain ⟨text, rfl, htext⟩ := hnames
      rw [check_of_namesSomething htext, Outcome.map_eq_error_iff,
        DirectionChoice.read_eq_error_iff]
      exact ⟨value, rfl, hnone, rfl⟩

end Clause

/-! ## §3. Clauses that can be made -/

namespace Clause

/-- The clause of a valid property is well formed. -/
theorem wellFormed_of_valid {property : List Char} (h : isValidProperty property = true)
    (direction : Direction) : WellFormed ⟨String.ofList (strip property), direction⟩ := by
  constructor
  · show IsTrimmed (String.ofList (strip property)).toList
    rw [String.toList_ofList]
    exact strip_strip property
  · show isValidProperty (String.ofList (strip property)).toList = true
    rw [String.toList_ofList, isValidProperty_strip]
    exact h

/-- **Every clause that the checking function makes is well formed.** -/
theorem wellFormed_of_check {property : Json} {direction : DirectionChoice} {c : Clause}
    (h : check property direction = .ok c) : c.WellFormed := by
  obtain ⟨⟨text, _, hnames, hproperty⟩, _⟩ := check_eq_ok_iff.mp h
  constructor
  · show strip c.property.toList = c.property.toList
    rw [hproperty, strip_strip]
  · rw [hproperty, isValidProperty_strip]
    exact isValidProperty_iff.mpr hnames

/-- **Every well-formed clause can be made** from its own property and direction. -/
theorem make_of_wellFormed {c : Clause} (h : c.WellFormed) :
    make c.property c.direction = .ok c := by
  have htrim : strip c.property.toList = c.property.toList := h.trimmed
  rw [make_eq, if_pos h.valid, htrim, String.ofList_toList]

end Clause

end OrderBy
