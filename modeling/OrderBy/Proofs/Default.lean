/-
  OrderBy.Proofs.Default — what defaults that can be built look like.

  A default is kept as it was given, and its properties and directions are
  looked at only when its sort is built.  Every clause of such a sort comes out
  of the checking function, so the sort is well formed; only a default that was
  given as a sort has to be so by itself (`ParameterDefault.WellFormed`).
-/
import Mathlib.Data.List.ReduceOption
import OrderBy.Default
import OrderBy.Proofs.Clause
import OrderBy.Proofs.Outcome

namespace OrderBy

/-! ## §1. Sorts that are built -/

namespace Sorting

theorem wellFormed_unsorted : unsorted.WellFormed :=
  List.forall_mem_nil _

/-- A sort whose clauses are made one by one is well formed, when only well-formed ones are
made. -/
theorem wellFormed_of_made {α : Type} {make : α → Except SortError Clause}
    (hmake : ∀ a c, make a = .ok c → c.WellFormed) {entries : List α} {s : Sorting}
    (h : Sorting.mk <$> entries.mapM make = .ok s) : s.WellFormed := by
  obtain ⟨clauses, hclauses, rfl⟩ := Outcome.of_map_eq_ok h
  intro c hc
  obtain ⟨entry, _, hentry⟩ := Outcome.exists_mem_of_mapM_eq_ok hclauses hc
  exact hmake entry c hentry

/-- The sort of properties that share a direction is well formed. -/
theorem wellFormed_of_ofProperties {properties : List Json} {direction : DirectionChoice}
    {s : Sorting} (h : ofProperties properties direction = .ok s) : s.WellFormed :=
  wellFormed_of_made (fun _ _ => Clause.wellFormed_of_check) h

/-- **Merging gives the clauses of all sorts**, in order, passing over the missing ones. -/
theorem clauses_merge (sortings : List (Option Sorting)) :
    (merge sortings).clauses = sortings.reduceOption.flatMap Sorting.clauses := by
  induction sortings using List.reverseRecOn with
  | nil => rfl
  | append_singleton sortings sorting ih =>
    -- the last one is merged into what the others make
    unfold merge at ih ⊢
    rw [List.foldl_append, List.reduceOption_append, List.flatMap_append, ← ih]
    cases sorting with
    | none => exact (List.append_nil _).symm
    | some s =>
      have hlast : [some s].reduceOption.flatMap Sorting.clauses = s.clauses :=
        List.append_nil s.clauses
      rw [hlast]
      exact clauses_append _ s

/-- Merging sorts that are all there is putting their clauses one after another. -/
theorem merge_map_some (sortings : List Sorting) :
    merge (sortings.map some) = ⟨sortings.flatMap clauses⟩ := by
  have hall : (sortings.map some).reduceOption = sortings := by
    rw [List.reduceOption, List.filterMap_map]
    exact List.filterMap_some
  have hclauses := clauses_merge (sortings.map some)
  rw [hall] at hclauses
  exact congrArg Sorting.mk hclauses

end Sorting

/-! ## §2. Defaults that are built -/

namespace ParameterDefault

/-- **A default is well formed** unless it was given as a sort that is not. -/
def WellFormed : ParameterDefault → Prop
  | .sorting s => s.WellFormed
  | .nothing | .single _ | .several _ => True

/-- **The sort of a well-formed default is well formed**, if it can be built. -/
theorem wellFormed_of_toSorting {default : ParameterDefault} (hdefault : default.WellFormed)
    {t : Sorting} (h : default.toSorting = .ok t) : t.WellFormed := by
  cases default with
  | nothing =>
    rw [← Except.ok.inj h]
    exact Sorting.wellFormed_unsorted
  | sorting s =>
    rw [← Except.ok.inj h]
    exact hdefault
  | single d => exact Sorting.wellFormed_of_ofProperties h
  | several ds =>
    obtain ⟨built, hbuilt, rfl⟩ := Outcome.of_map_eq_ok h
    intro c hc
    rw [Sorting.merge_map_some] at hc
    obtain ⟨s, hs, hc⟩ := List.mem_flatMap.mp hc
    obtain ⟨d, _, hd⟩ := Outcome.exists_mem_of_mapM_eq_ok hbuilt hs
    exact Sorting.wellFormed_of_ofProperties hd c hc

end ParameterDefault

end OrderBy
