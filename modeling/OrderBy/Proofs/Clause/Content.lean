/-
  OrderBy.Proofs.Clause.Content — a property is judged by its content alone.

  Dots and blanks are fillers: they may be added to a property or taken away
  from it, at either end or in its midst, without making it valid or invalid.
  What is left of a property without them, its content, is the same for all
  texts that differ in fillers only (`content_of_refilled`), and a property is
  valid when it has any.

  The clause that is made of a property keeps the fillers in its midst and is
  rid of the blanks around it, so its own property has the same content, and
  making a clause of that changes nothing more.

  Main results:
    * `isValidProperty_of_refilled` — fillers make no difference;
    * `judgedByContent` — the rule, and what it says about making clauses.
-/
import OrderBy.Proofs.Clause

namespace OrderBy

open OrderBy.Text

/-! ## §1. Fillers -/

/-- A character that no property is named by. -/
def isFiller (c : Char) : Bool := c == pathSeparator || isBlank c

/-- **Texts that differ in fillers only**, which are added or taken away anywhere. -/
inductive Refilled : List Char → List Char → Prop where
  /-- There is nothing left. -/
  | nil : Refilled [] []
  /-- A character is kept. -/
  | keep (c : Char) {cs ds : List Char} : Refilled cs ds → Refilled (c :: cs) (c :: ds)
  /-- A filler is added. -/
  | add {c : Char} {cs ds : List Char} : isFiller c = true → Refilled cs ds → Refilled cs (c :: ds)
  /-- A filler is taken away. -/
  | drop {c : Char} {cs ds : List Char} : isFiller c = true → Refilled cs ds → Refilled (c :: cs) ds

/-- What is left of a property without fillers. -/
def content (property : List Char) : List Char := property.filter (!isFiller ·)

theorem content_of_refilled {cs ds : List Char} (h : Refilled cs ds) : content cs = content ds := by
  unfold content
  induction h with
  | nil => rfl
  | keep c _ ih => rw [List.filter_cons, List.filter_cons, ih]
  | add hfiller _ ih => rw [ih, List.filter_cons_of_neg (by simp [hfiller])]
  | drop hfiller _ ih => rw [List.filter_cons_of_neg (by simp [hfiller]), ih]

theorem isFiller_eq_false_iff {c : Char} :
    isFiller c = false ↔ c ≠ pathSeparator ∧ isBlank c = false := by
  rw [isFiller, Bool.or_eq_false_iff, beq_eq_false_iff_ne]

/-- A text names something when it has content. -/
theorem namesSomething_iff {property : List Char} :
    NamesSomething property ↔ content property ≠ [] := by
  rw [content, ne_eq, List.filter_eq_nil_iff, NamesSomething]
  push Not
  simp only [Bool.not_eq_true', isFiller_eq_false_iff]

/-- **Fillers make no property valid or invalid**, wherever they are added or taken away. -/
theorem isValidProperty_of_refilled {cs ds : List Char} (h : Refilled cs ds) :
    isValidProperty ds = isValidProperty cs := by
  rw [Bool.eq_iff_iff, isValidProperty_iff, isValidProperty_iff]
  show NamesSomething ds ↔ NamesSomething cs
  rw [namesSomething_iff, namesSomething_iff, content_of_refilled h]

/-! ## §2. Clauses of properties -/

namespace Clause

variable {text : String} {choice : DirectionChoice} {direction : Direction}

/-- A valid property makes a clause in every direction. -/
theorem check_of_valid (hvalid : isValidProperty text.toList = true)
    (hdirection : choice.StandsFor direction) :
    check (.text text) choice = .ok ⟨String.ofList (strip text.toList), direction⟩ :=
  check_eq_ok_iff.mpr
    ⟨⟨text, rfl, isValidProperty_iff.mp hvalid, String.toList_ofList⟩, hdirection⟩

/-- Any other text is refused before its direction is looked at. -/
theorem check_of_not_valid (hinvalid : isValidProperty text.toList = false)
    (choice : DirectionChoice) :
    check (.text text) choice = .error (.invalidProperty (.text text)) := by
  refine check_of_not_namesProperty ?_ choice
  rintro ⟨other, hother, hnames⟩
  obtain rfl : text = other := Json.text.inj hother
  exact absurd (isValidProperty_iff.mpr hnames) (Bool.eq_false_iff.mp hinvalid)

/-- The clause of a clause's own property has that property. -/
theorem check_property {property : Json} {c : Clause} (hmade : check property choice = .ok c)
    {other : DirectionChoice} {otherDirection : Direction}
    (hother : other.StandsFor otherDirection) :
    check (.text c.property) other = .ok ⟨c.property, otherDirection⟩ := by
  have hformed := wellFormed_of_check hmade
  have htrimmed : strip c.property.toList = c.property.toList := hformed.trimmed
  rw [check_of_valid hformed.valid hother, htrimmed, String.ofList_toList]

end Clause

/-! ## §3. One rule -/

/-- **A property is judged by its content**, and a clause is made of it when it has some. -/
structure JudgedByContent (text : String) : Prop where
  /-- It is valid when some character of it is neither a dot nor blank. -/
  content : isValidProperty text.toList = true
    ↔ ∃ c ∈ text.toList, c ≠ pathSeparator ∧ isBlank c = false
  /-- Trimming makes no difference. -/
  trimmed : isValidProperty (strip text.toList) = isValidProperty text.toList
  /-- Nor do dots and blanks that are added or taken away anywhere. -/
  refilled : ∀ other : String, Refilled text.toList other.toList →
    isValidProperty other.toList = isValidProperty text.toList
  /-- With a direction that can be read, it is refused exactly when it is not valid. -/
  refused : ∀ (choice : DirectionChoice) (direction : Direction), choice.StandsFor direction →
    ((∃ e, Clause.check (.text text) choice = .error e) ↔ isValidProperty text.toList = false)
  /-- When it is valid, the clause made of it has it trimmed, and so has every clause that is made
  of that clause's property. -/
  accepted : isValidProperty text.toList = true →
    ∀ (choice : DirectionChoice) (direction : Direction), choice.StandsFor direction →
      ∃ c, Clause.check (.text text) choice = .ok c ∧ c.property.toList = strip text.toList
        ∧ ∀ (other : DirectionChoice) (otherDirection : Direction),
            other.StandsFor otherDirection →
            ∃ again, Clause.check (.text c.property) other = .ok again
              ∧ again.property = c.property

/-- **Every text is judged by its content**, when it is checked and when a clause is made of it. -/
theorem judgedByContent (text : String) : JudgedByContent text := by
  constructor
  case content => exact isValidProperty_iff
  case trimmed => exact isValidProperty_strip text.toList
  case refilled => exact fun other h => isValidProperty_of_refilled h
  case refused =>
    intro choice direction hdirection
    constructor
    · rintro ⟨e, herror⟩
      rw [Bool.eq_false_iff]
      intro hvalid
      rw [Clause.check_of_valid hvalid hdirection] at herror
      exact absurd herror (by simp)
    · intro hinvalid
      exact ⟨_, Clause.check_of_not_valid hinvalid choice⟩
  case accepted =>
    intro hvalid choice direction hdirection
    -- the property made is the trimmed text, and passes again whatever the direction is
    have hmade := Clause.check_of_valid hvalid hdirection
    refine ⟨_, hmade, String.toList_ofList, ?_⟩
    intro other otherDirection hother
    exact ⟨_, Clause.check_property hmade hother, rfl⟩

end OrderBy
