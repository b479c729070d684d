/-
  OrderBy.Proofs.Sorting.Building — sorts made of what is given, or the first offence in it.

  A sort is made clause by clause, and a list of defaults default by default,
  each of them property by property.  The two levels make no difference: the
  defaults are checked as the one list of their properties, each with the
  direction of its default (`toSorting_several`).  A default without properties
  adds nothing to that list, so its direction is never looked at.

  Main results:
    * `Sorting.ofPairs_eq_ok_iff`, `Sorting.ofPairs_eq_error_iff` — the sort that
      pairs make, and the error that they fail with;
    * `ParameterDefault.toSorting_several` — defaults as one list of pairs;
    * `ParameterDefault.builtInOrder_several` — a list of defaults makes the sort
      of all its pairs, or fails at the first one that is refused.
-/
import OrderBy.Proofs.Default

namespace OrderBy

/-! ## §1. Sorts of pairs -/

namespace Sorting

variable {pairs : List (Json × DirectionChoice)}

/-- **Pairs make the sort of the clauses made of them**, in order. -/
theorem ofPairs_eq_ok_iff {s : Sorting} :
    ofPairs pairs = .ok s
      ↔ List.Forall₂ (fun pair c => Clause.MadeOf pair.1 pair.2 c) pairs s.clauses := by
  have hmade : (pairs.mapM fun pair => Clause.check pair.1 pair.2) = .ok s.clauses
      ↔ List.Forall₂ (fun pair c => Clause.MadeOf pair.1 pair.2 c) pairs s.clauses := by
    simp only [Outcome.mapM_eq_ok_iff, Clause.check_eq_ok_iff]
  rw [← hmade]
  constructor
  · intro h
    obtain ⟨clauses, hclauses, rfl⟩ := Outcome.of_map_eq_ok h
    exact hclauses
  · intro h
    rw [ofPairs, h]
    rfl

/-- **Pairs fail at the first one that is refused.** -/
theorem ofPairs_eq_error_iff {e : SortError} :
    ofPairs pairs = .error e
      ↔ Outcome.FirstOffence (fun pair => ∃ c, Clause.MadeOf pair.1 pair.2 c)
          (fun pair => Clause.Refused pair.1 pair.2) pairs e := by
  -- the sort fails as its clauses do
  refine Outcome.map_eq_error_iff.trans ?_
  simp only [Outcome.mapM_eq_error_iff, Clause.check_eq_ok_iff, Clause.check_eq_error_iff]

/-- They make one when each of them names a property and stands for a direction. -/
theorem exists_ofPairs_eq_ok_iff :
    (∃ s, ofPairs pairs = .ok s)
      ↔ ∀ pair ∈ pairs, pair.1.NamesProperty ∧ ∃ direction, pair.2.StandsFor direction := by
  calc (∃ s, ofPairs pairs = .ok s)
      ↔ ∃ clauses, List.Forall₂ (fun pair c => Clause.MadeOf pair.1 pair.2 c) pairs clauses := by
        constructor
        · rintro ⟨s, hs⟩
          exact ⟨s.clauses, ofPairs_eq_ok_iff.mp hs⟩
        · rintro ⟨clauses, hclauses⟩
          exact ⟨⟨clauses⟩, ofPairs_eq_ok_iff.mpr hclauses⟩
    _ ↔ ∀ pair ∈ pairs, ∃ c, Clause.MadeOf pair.1 pair.2 c := Outcome.exists_forall₂_iff
    _ ↔ ∀ pair ∈ pairs, pair.1.NamesProperty ∧ ∃ direction, pair.2.StandsFor direction := by
        simp only [Clause.exists_madeOf_iff]

theorem ofPairs_eq_unsorted_iff : ofPairs pairs = .ok unsorted ↔ pairs = [] := by
  rw [ofPairs_eq_ok_iff]
  exact List.forall₂_nil_right_iff

theorem ofPairs_append (more : List (Json × DirectionChoice)) :
    ofPairs (pairs ++ more) = (do
      let s ← ofPairs pairs
      let t ← ofPairs more
      pure (s ++ t)) := by
  unfold ofPairs
  rw [List.mapM_append]
  cases pairs.mapM fun pair => Clause.check pair.1 pair.2 <;>
    cases more.mapM fun pair => Clause.check pair.1 pair.2 <;> rfl

end Sorting

/-! ## §2. Lists of defaults -/

/-- The properties of a default, each with its direction. -/
def DefaultSort.pairs (d : DefaultSort) : List (Json × DirectionChoice) :=
  d.properties.map fun property => (property, d.direction)

theorem DefaultSort.toSorting_eq (d : DefaultSort) : d.toSorting = Sorting.ofPairs d.pairs := by
  rw [DefaultSort.pairs, Sorting.ofPairs, List.mapM_map]
  rfl

theorem Parameter.defaultSorting_eq_none_iff {p : Parameter} :
    p.defaultSorting = .ok none ↔ p.default.toSorting = .ok .unsorted := by
  constructor
  · intro h
    obtain ⟨s, hs, hnone⟩ := Outcome.of_map_eq_ok h
    rw [hs]
    obtain ⟨clauses⟩ := s
    cases clauses with
    | nil => rfl
    | cons c clauses => exact absurd hnone (by simp [Sorting.isSorted])
  · intro h
    rw [defaultSorting, h]
    rfl

namespace ParameterDefault

/-- **A list of defaults makes the sort of all their pairs**, and fails as they do. -/
theorem toSorting_several (ds : List DefaultSort) :
    (several ds).toSorting = Sorting.ofPairs (ds.flatMap DefaultSort.pairs) := by
  induction ds with
  | nil => rfl
  | cons d ds ih =>
    have hlist : ∀ ds, (several ds).toSorting = (ds.mapM DefaultSort.toSorting).map
        fun built => Sorting.merge (built.map some) := fun _ => rfl
    have hmerge : ∀ (s : Sorting) (built : List Sorting),
        Sorting.merge ((s :: built).map some) = s ++ Sorting.merge (built.map some) := by
      intro s built
      rw [Sorting.merge_map_some, Sorting.merge_map_some]
      rfl
    rw [List.flatMap_cons, Sorting.ofPairs_append, ← ih, ← d.toSorting_eq, hlist, hlist,
      List.mapM_cons]
    -- an error of the first default hides those of the others, on either side
    cases d.toSorting with
    | error e => rfl
    | ok s =>
      cases ds.mapM DefaultSort.toSorting with
      | error e => rfl
      | ok built => exact congrArg Except.ok (hmerge s built)

/-- **What a list of defaults makes**: the sort of all its properties in order, or the error of the
first one that is refused. -/
structure BuiltInOrder (ds : List DefaultSort) : Prop where
  /-- It makes a sort exactly when every property is one, and every default that has a property has
  a direction. -/
  succeeds : (∃ s, (several ds).toSorting = .ok s)
    ↔ ∀ d ∈ ds, (∀ property ∈ d.properties, property.NamesProperty)
        ∧ (d.properties ≠ [] → ∃ direction, d.direction.StandsFor direction)
  /-- The sort has a clause for each property, in the direction of its default. -/
  gives : ∀ s, (several ds).toSorting = .ok s →
    List.Forall₂ (fun pair c => Clause.MadeOf pair.1 pair.2 c) (ds.flatMap DefaultSort.pairs)
      s.clauses
  /-- A parameter with these defaults has no default sort exactly when none has a property. -/
  unsorted : ∀ qualifier, ({ qualifier, default := .several ds } : Parameter).defaultSorting
      = .ok none ↔ ∀ d ∈ ds, d.properties = []
  /-- The error is that of the first property that is refused, or whose direction is. -/
  fails : ∀ e, (several ds).toSorting = .error e
    ↔ Outcome.FirstOffence (fun pair => ∃ c, Clause.MadeOf pair.1 pair.2 c)
        (fun pair => Clause.Refused pair.1 pair.2) (ds.flatMap DefaultSort.pairs) e
  /-- So it is one of the errors for sorts that are not allowed. -/
  kind : ∀ e, (several ds).toSorting = .error e → e.kind = .invalidSort

/-- **A list of defaults makes the sort of all its properties in order, or fails at the first one
that is refused.** -/
theorem builtInOrder_several (ds : List DefaultSort) : BuiltInOrder ds := by
  have hbuilt := toSorting_several ds
  constructor
  case succeeds =>
    rw [hbuilt, Sorting.exists_ofPairs_eq_ok_iff, List.forall_mem_flatMap]
    refine forall₂_congr fun d _ => ?_
    rw [DefaultSort.pairs, List.forall_mem_map]
    constructor
    · intro h
      refine ⟨fun property hproperty => (h property hproperty).1, ?_⟩
      -- only a property makes the direction matter
      intro hfilled
      obtain ⟨property, hproperty⟩ := List.exists_mem_of_ne_nil _ hfilled
      exact (h property hproperty).2
    · rintro ⟨hproperties, hdirection⟩ property hproperty
      exact ⟨hproperties property hproperty, hdirection (List.ne_nil_of_mem hproperty)⟩
  case gives =>
    intro s hs
    rw [hbuilt] at hs
    exact Sorting.ofPairs_eq_ok_iff.mp hs
  case unsorted =>
    intro qualifier
    rw [Parameter.defaultSorting_eq_none_iff, hbuilt, Sorting.ofPairs_eq_unsorted_iff,
      List.flatMap_eq_nil_iff]
    refine forall₂_congr fun d _ => ?_
    exact List.map_eq_nil_iff
  case fails =>
    intro e
    rw [hbuilt]
    exact Sorting.ofPairs_eq_error_iff
  case kind =>
    intro e he
    rw [hbuilt, Sorting.ofPairs_eq_error_iff] at he
    obtain ⟨_, _, _, _, _, hrefused⟩ := he
    exact hrefused.kind

/-- A direction that is none is passed over where there are no properties, and is the error where
there is one, before the property of dots behind it. -/
theorem builtInOrder_several_passed :
    let good : List DefaultSort :=
      [{ direction := .written (.text "up") },
        { properties := [.text " a ", .text "b.c"], direction := .written (.text " Descending ") }]
    let ds := good ++ [{ properties := [.text "d"], direction := .written (.int 1) },
      { properties := [.text "."] }]
    List.Forall₂ (fun pair c => Clause.MadeOf pair.1 pair.2 c) (good.flatMap DefaultSort.pairs)
        [⟨"a", .desc⟩, ⟨"b.c", .desc⟩]
      ∧ Outcome.FirstOffence (fun pair => ∃ c, Clause.MadeOf pair.1 pair.2 c)
          (fun pair => Clause.Refused pair.1 pair.2) (ds.flatMap DefaultSort.pairs)
          (.invalidDirection (.int 1)) := by
  intro good ds
  have hgood : (several good).toSorting = .ok ⟨[⟨"a", .desc⟩, ⟨"b.c", .desc⟩]⟩ := rfl
  have hfails : (several ds).toSorting = .error (.invalidDirection (.int 1)) := rfl
  exact ⟨(builtInOrder_several good).gives _ hgood, ((builtInOrder_several ds).fails _).mp hfails⟩

end ParameterDefault

end OrderBy
