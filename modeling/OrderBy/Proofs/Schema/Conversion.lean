/-
  OrderBy.Proofs.Schema.Conversion — schemas become sorts in their normal form.

  A schema keeps its properties as they were written, a sort has them trimmed and
  checked.  So a schema becomes a sort only when each of its properties names
  something, and comes back with its properties trimmed; nothing else of it
  changes.  A sort is in this form already, and comes back as it was.

  Main results:
    * `ClauseSchema.toClause_of_namesProperty`, `ClauseSchema.toClause_of_nameless` —
      the clause of a schema, or the error it is refused with;
    * `SortingSchema.normalising` — which schemas become sorts, what they come back
      as, and that sorts come back unchanged.
-/
import OrderBy.Proofs.Sorting.Rebuilding

namespace OrderBy

open OrderBy.Text

/-! ## §1. Clauses -/

namespace ClauseSchema

variable {x : ClauseSchema}

/-- The property of a schema names something. -/
def NamesProperty (x : ClauseSchema) : Prop :=
  NamesSomething x.property.toList

/-- **A schema is refused** for its property, when that names nothing. -/
def Refused (x : ClauseSchema) (e : SortError) : Prop :=
  ¬ x.NamesProperty ∧ e = .invalidProperty (.text x.property)

/-- **The normal form of a schema** has its property trimmed, and the same direction. -/
def trimmed (x : ClauseSchema) : ClauseSchema :=
  { x with property := String.ofList (strip x.property.toList) }

/-- The clause with the parts of a schema. -/
def clause (x : ClauseSchema) : Clause :=
  ⟨x.property, x.direction⟩

theorem trimmed_eq_self_iff : x.trimmed = x ↔ IsTrimmed x.property.toList := by
  obtain ⟨property, direction⟩ := x
  rw [trimmed, mk.injEq, ← String.toList_inj, String.toList_ofList, and_iff_left rfl]
  rfl

/-- **A schema whose property names something becomes the clause of its normal form.** -/
theorem toClause_of_namesProperty (h : x.NamesProperty) : x.toClause = .ok x.trimmed.clause := by
  rw [toClause, Clause.make_eq, if_pos (isValidProperty_iff.mpr h)]
  rfl

theorem toClause_of_nameless (h : ¬ x.NamesProperty) :
    x.toClause = .error (.invalidProperty (.text x.property)) := by
  rw [toClause, Clause.make_eq, if_neg]
  intro hvalid
  exact h (isValidProperty_iff.mp hvalid)

theorem wellFormed_of_toClause {c : Clause} (h : x.toClause = .ok c) : c.WellFormed := by
  unfold toClause Clause.make at h
  exact Clause.wellFormed_of_check h

/-- A schema becomes a clause exactly when its property names something. -/
theorem exists_toClause_iff : (∃ c, x.toClause = .ok c) ↔ x.NamesProperty := by
  constructor
  · rintro ⟨c, hc⟩
    by_contra hnameless
    rw [toClause_of_nameless hnameless] at hc
    exact absurd hc (by simp)
  · intro h
    exact ⟨_, toClause_of_namesProperty h⟩

/-- It fails exactly with the error that it is refused with. -/
theorem toClause_eq_error_iff {e : SortError} : x.toClause = .error e ↔ x.Refused e := by
  constructor
  · intro h
    have hnameless : ¬ x.NamesProperty := by
      intro hnames
      rw [toClause_of_namesProperty hnames] at h
      exact absurd h (by simp)
    rw [toClause_of_nameless hnameless] at h
    exact ⟨hnameless, (Except.error.inj h).symm⟩
  · rintro ⟨hnameless, rfl⟩
    exact toClause_of_nameless hnameless

end ClauseSchema

/-! ## §2. Sorts -/

namespace SortingSchema

variable {x : SortingSchema}

/-- **A schema whose properties all name something becomes the sort of their normal forms.** -/
theorem toSorting_of_namesProperty (h : ∀ y ∈ x.clauses, y.NamesProperty) :
    x.toSorting = .ok ⟨x.clauses.map fun y => y.trimmed.clause⟩ := by
  rw [toSorting, Outcome.mapM_eq_ok fun y hy => ClauseSchema.toClause_of_namesProperty (h y hy)]
  rfl

/-- Only such a schema becomes a sort. -/
theorem namesProperty_of_toSorting {s : Sorting} (h : x.toSorting = .ok s) :
    ∀ y ∈ x.clauses, y.NamesProperty := by
  obtain ⟨clauses, hclauses, _⟩ := Outcome.of_map_eq_ok h
  have hmade := Outcome.exists_forall₂_iff.mp ⟨clauses, Outcome.mapM_eq_ok_iff.mp hclauses⟩
  intro y hy
  exact ClauseSchema.exists_toClause_iff.mp (hmade y hy)

/-- **A schema fails with its first property that names nothing.** -/
theorem toSorting_eq_error_iff {e : SortError} :
    x.toSorting = .error e
      ↔ Outcome.FirstOffence ClauseSchema.NamesProperty ClauseSchema.Refused x.clauses e := by
  -- the sort fails as its clauses do
  refine Outcome.map_eq_error_iff.trans ?_
  simp only [Outcome.mapM_eq_error_iff, ClauseSchema.exists_toClause_iff,
    ClauseSchema.toClause_eq_error_iff]

theorem wellFormed_of_toSorting {s : Sorting} (h : x.toSorting = .ok s) : s.WellFormed :=
  Sorting.wellFormed_of_made (fun _ _ => ClauseSchema.wellFormed_of_toClause) h

theorem map_trimmed_eq_self_iff {clauses : List ClauseSchema} :
    clauses.map ClauseSchema.trimmed = clauses
      ↔ ∀ y ∈ clauses, IsTrimmed y.property.toList := by
  calc clauses.map ClauseSchema.trimmed = clauses
      ↔ clauses.map ClauseSchema.trimmed = clauses.map id := by rw [List.map_id]
    _ ↔ ∀ y ∈ clauses, y.trimmed = y := List.map_inj_left
    _ ↔ ∀ y ∈ clauses, IsTrimmed y.property.toList := by
        simp only [ClauseSchema.trimmed_eq_self_iff]

/-- **Schemas become sorts in their normal form**, and sorts come back from their schemas. -/
structure Normalising : Prop where
  /-- A schema fails exactly when one of its properties names nothing. -/
  raises : ∀ x : SortingSchema,
    (∃ e, x.toSorting = .error e) ↔ ∃ y ∈ x.clauses, ¬ y.NamesProperty
  /-- The error is that of the first such property, and one of those for sorts that are not
  allowed. -/
  fails : ∀ (x : SortingSchema) (e : SortError), x.toSorting = .error e →
    Outcome.FirstOffence ClauseSchema.NamesProperty ClauseSchema.Refused x.clauses e
      ∧ e.kind = .invalidSort
  /-- Any other schema comes back from its sort with the same clauses in the same order, each
  trimmed: it is itself again exactly when it was trimmed already, and is kept from then on. -/
  converts : ∀ x : SortingSchema, (∀ y ∈ x.clauses, y.NamesProperty) →
    ∃ s, x.toSorting = .ok s
      ∧ (ofSorting s).clauses = x.clauses.map ClauseSchema.trimmed
      ∧ (ofSorting s = x ↔ ∀ y ∈ x.clauses, IsTrimmed y.property.toList)
      ∧ (ofSorting s).toSorting = .ok s
  /-- A sort comes back from its schema. -/
  inverse : ∀ s : Sorting, s.WellFormed → (ofSorting s).toSorting = .ok s

/-- **Becoming a sort normalises a schema.** -/
theorem normalising : Normalising := by
  constructor
  case raises =>
    intro x
    constructor
    · rintro ⟨e, he⟩
      obtain ⟨before, y, after, hsplit, _, hnameless, _⟩ := toSorting_eq_error_iff.mp he
      refine ⟨y, ?_, hnameless⟩
      rw [hsplit]
      exact List.mem_append_right before List.mem_cons_self
    · rintro ⟨y, hy, hnameless⟩
      cases hsort : x.toSorting with
      | error e => exact ⟨e, rfl⟩
      | ok s => exact absurd (namesProperty_of_toSorting hsort y hy) hnameless
  case fails =>
    intro x e he
    have hfirst := toSorting_eq_error_iff.mp he
    obtain ⟨_, _, _, _, _, _, hkind⟩ := id hfirst
    exact ⟨hfirst, by rw [hkind]; rfl⟩
  case converts =>
    intro x hnames
    have hsort := toSorting_of_namesProperty hnames
    have hback : (ofSorting ⟨x.clauses.map fun y => y.trimmed.clause⟩).clauses
        = x.clauses.map ClauseSchema.trimmed := List.map_map
    refine ⟨_, hsort, hback, ?_, Sorting.toSorting_ofSorting (wellFormed_of_toSorting hsort)⟩
    -- a schema is its clauses, and they are the trimmed ones
    rw [← map_trimmed_eq_self_iff, ← hback]
    exact ⟨congrArg clauses, congrArg mk⟩
  case inverse =>
    intro s hs
    exact Sorting.toSorting_ofSorting hs

/-- A schema with blanks around a property comes back without them; one with a property of dots and an
empty one fails with the first of the two. -/
theorem normalising_padded :
    let x : SortingSchema := ⟨[⟨"\ta ", .desc⟩, ⟨"b", .asc⟩]⟩
    let nameless : SortingSchema := ⟨[⟨"a", .asc⟩, ⟨" . ", .desc⟩, ⟨"", .asc⟩]⟩
    (∃ s, x.toSorting = .ok s ∧ ofSorting s ≠ x ∧ (ofSorting s).toSorting = .ok s)
      ∧ nameless.toSorting = .error (.invalidProperty (.text " . "))
      ∧ Outcome.FirstOffence ClauseSchema.NamesProperty ClauseSchema.Refused nameless.clauses
          (.invalidProperty (.text " . ")) := by
  intro x nameless
  have hvalid : ∀ y ∈ x.clauses, isValidProperty y.property.toList = true := by decide
  obtain ⟨s, hs, _, hself, hkept⟩ :=
    normalising.converts x fun y hy => isValidProperty_iff.mp (hvalid y hy)
  have hpadded : ¬ ∀ y ∈ x.clauses, IsTrimmed y.property.toList := by decide
  have hfails : nameless.toSorting = .error (.invalidProperty (.text " . ")) := rfl
  exact ⟨⟨s, hs, fun hsame => hpadded (hself.mp hsame), hkept⟩, hfails,
    (normalising.fails nameless _ hfails).1⟩

end SortingSchema

end OrderBy
