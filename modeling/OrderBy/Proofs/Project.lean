/-
  OrderBy.Proofs.Project — the project directory is the nearest marked one.

  The search takes the names of the working directory away, one by one, and
  stops at the first place that is marked.  That is told without the search:
  a place is the nearest marked one when it holds the working directory, is
  marked, and no other place between the two is (`Project.IsNearest`).  Of the
  places that hold a working directory one always lies within the other, so
  there is at most one such place.

  Main results:
    * `nearest_eq_some_iff`, `nearest_eq_none_iff` — what the search finds, and
      when it finds nothing;
    * `directory_eq_iff` — which place the project directory is;
    * `found_directory` — the same from the working directory's side, and from
      that of every directory on the way.
-/
import Mathlib.Data.List.Infix
import OrderBy.Location

namespace OrderBy

/-! ## §1. Places within each other -/

namespace Location

variable {a b c : Location}

theorem isWithin_iff : a.isWithin b = true ↔ b.names <:+ a.names :=
  List.isSuffixOf_iff_suffix

theorem isWithin_refl (a : Location) : a.isWithin a = true :=
  isWithin_iff.mpr List.suffix_rfl

theorem isWithin_trans (hab : a.isWithin b = true) (hbc : b.isWithin c = true) :
    a.isWithin c = true :=
  isWithin_iff.mpr ((isWithin_iff.mp hbc).trans (isWithin_iff.mp hab))

/-- Places that lie within each other are one. -/
theorem eq_of_isWithin (hab : a.isWithin b = true) (hba : b.isWithin a = true) : a = b := by
  obtain ⟨names⟩ := a
  obtain ⟨others⟩ := b
  have hle := (isWithin_iff.mp hab).length_le
  exact congrArg Location.mk ((isWithin_iff.mp hba).eq_of_length_le hle)

/-- Of two places that hold a third, one lies within the other. -/
theorem isWithin_or_isWithin (hb : a.isWithin b = true) (hc : a.isWithin c = true) :
    b.isWithin c = true ∨ c.isWithin b = true := by
  rw [isWithin_iff, isWithin_iff]
  exact (List.suffix_or_suffix_of_suffix (isWithin_iff.mp hb) (isWithin_iff.mp hc)).symm

/-- A place within a directory that has a name is that directory, or lies within the one around
it. -/
theorem isWithin_cons_iff {name : String} {above : List String} :
    isWithin ⟨name :: above⟩ a = true ↔ a = ⟨name :: above⟩ ∨ isWithin ⟨above⟩ a = true := by
  obtain ⟨names⟩ := a
  rw [isWithin_iff, isWithin_iff, List.suffix_cons_iff, Location.mk.injEq]

theorem isWithin_nil_iff : isWithin ⟨[]⟩ a = true ↔ a = root := by
  obtain ⟨names⟩ := a
  rw [isWithin_iff, List.suffix_nil, root, Location.mk.injEq]

end Location

open Location

namespace Project

variable {marked : Location → Bool} {working place found : Location} {name : String}
  {above names : List String}

/-! ## §2. The nearest marked place -/

/-- **A place is the nearest marked one** from a working directory up. -/
structure IsNearest (marked : Location → Bool) (working place : Location) : Prop where
  /-- It holds the working directory. -/
  holds : working.isWithin place = true
  /-- It is marked. -/
  isMarked : marked place = true
  /-- No other place between the two is. -/
  between : ∀ other, working.isWithin other = true → other.isWithin place = true →
    other ≠ place → marked other = false

theorem IsNearest.unique {other : Location} (h : IsNearest marked working place)
    (hother : IsNearest marked working other) : place = other := by
  by_contra hne
  -- one of them lies between the working directory and the other one
  rcases isWithin_or_isWithin h.holds hother.holds with hwithin | hwithin
  · have hfalse := hother.between place h.holds hwithin hne
    exact absurd h.isMarked (Bool.eq_false_iff.mp hfalse)
  · have hfalse := h.between other hother.holds hwithin (Ne.symm hne)
    exact absurd hother.isMarked (Bool.eq_false_iff.mp hfalse)

/-- Seen from a place on the way, the nearest marked one is the same. -/
theorem IsNearest.of_isWithin {start : Location} (h : IsNearest marked working place)
    (hstart : working.isWithin start = true) (hplace : start.isWithin place = true) :
    IsNearest marked start place where
  holds := hplace
  isMarked := h.isMarked
  between other hother := h.between other (isWithin_trans hstart hother)

/-- A marked working directory is the nearest marked one. -/
theorem isNearest_self (h : marked working = true) : IsNearest marked working working where
  holds := isWithin_refl working
  isMarked := h
  between _ hworking hother hne := absurd (eq_of_isWithin hother hworking) hne

/-- From an unmarked directory the nearest one is that of the directory around it. -/
theorem isNearest_cons_iff (h : marked ⟨name :: above⟩ = false) :
    IsNearest marked ⟨name :: above⟩ place ↔ IsNearest marked ⟨above⟩ place := by
  constructor
  · intro hnear
    have habove : isWithin ⟨above⟩ place = true := by
      rcases isWithin_cons_iff.mp hnear.holds with rfl | habove
      · exact absurd hnear.isMarked (Bool.eq_false_iff.mp h)
      · exact habove
    exact hnear.of_isWithin (isWithin_cons_iff.mpr (.inr (isWithin_refl _))) habove
  · intro hnear
    refine ⟨isWithin_cons_iff.mpr (.inr hnear.holds), hnear.isMarked, ?_⟩
    intro other hother hplace hne
    -- one more directory lies on the way now, which is not marked
    rcases isWithin_cons_iff.mp hother with rfl | hother
    · exact h
    · exact hnear.between other hother hplace hne

/-! ## §3. The search -/

/-- **The search finds the nearest marked place.** -/
theorem nearest_eq_some_iff :
    nearest marked names = some place ↔ IsNearest marked ⟨names⟩ place := by
  -- a directory that is marked ends the search with itself
  have hself : ∀ working : Location, marked working = true →
      (some working = some place ↔ IsNearest marked working place) := by
    intro working hmarked
    constructor
    · intro h
      rw [← Option.some.inj h]
      exact isNearest_self hmarked
    · intro h
      rw [h.unique (isNearest_self hmarked)]
  induction names with
  | nil =>
    unfold nearest
    split
    next hmarked => exact hself .root hmarked
    next hunmarked =>
      constructor
      · intro h
        exact absurd h (by simp)
      · intro h
        rw [isWithin_nil_iff.mp h.holds] at h
        exact absurd h.isMarked hunmarked
  | cons name above ih =>
    cases hmarked : marked ⟨name :: above⟩ with
    | true =>
      unfold nearest
      rw [if_pos hmarked]
      exact hself ⟨name :: above⟩ hmarked
    | false =>
      rw [nearest_of_unmarked hmarked]
      exact ih.trans (isNearest_cons_iff hmarked).symm

/-- **It finds nothing when no place that holds the working directory is marked.** -/
theorem nearest_eq_none_iff :
    nearest marked names = none
      ↔ ∀ place, isWithin ⟨names⟩ place = true → marked place = false := by
  induction names with
  | nil =>
    -- only the root holds the root
    unfold nearest
    split
    next hmarked =>
      constructor
      · intro h
        exact absurd h (by simp)
      · intro h
        exact absurd hmarked (Bool.eq_false_iff.mp (h .root (isWithin_nil_iff.mpr rfl)))
    next hunmarked =>
      refine ⟨fun _ place hplace => ?_, fun _ => rfl⟩
      rw [isWithin_nil_iff.mp hplace]
      exact Bool.eq_false_iff.mpr hunmarked
  | cons name above ih =>
    cases hmarked : marked ⟨name :: above⟩ with
    | true =>
      have hfound := nearest_eq_some_iff.mpr (isNearest_self hmarked)
      rw [hfound]
      constructor
      · intro h
        exact absurd h (by simp)
      · intro h
        exact absurd hmarked (Bool.eq_false_iff.mp (h _ (isWithin_refl _)))
    | false =>
      -- the places that hold this one are itself and those that hold its parent
      rw [nearest_of_unmarked hmarked, ih]
      constructor
      · intro h place hplace
        rcases isWithin_cons_iff.mp hplace with rfl | hplace
        · exact hmarked
        · exact h place hplace
      · intro h place hplace
        exact h place (isWithin_cons_iff.mpr (.inr hplace))

/-! ## §4. The project directory -/

/-- **Which place the project directory is**: the nearest marked one, or the working directory when
there is none. -/
theorem directory_eq_iff :
    directory marked working = found
      ↔ IsNearest marked working found
        ∨ (∀ place, working.isWithin place = true → marked place = false) ∧ found = working := by
  have hsearch : directory marked working = (nearest marked working.names).getD working := rfl
  cases hnearest : nearest marked working.names with
  | some place =>
    have hplace := nearest_eq_some_iff.mp hnearest
    rw [hsearch, hnearest, Option.getD_some]
    constructor
    · rintro rfl
      exact .inl hplace
    · rintro (hfound | ⟨hnone, _⟩)
      · exact hplace.unique hfound
      · exact absurd hplace.isMarked (Bool.eq_false_iff.mp (hnone place hplace.holds))
  | none =>
    have hnone := nearest_eq_none_iff.mp hnearest
    rw [hsearch, hnearest, Option.getD_none]
    constructor
    · rintro rfl
      exact .inr ⟨hnone, rfl⟩
    · rintro (hfound | ⟨_, rfl⟩)
      · exact absurd hfound.isMarked (Bool.eq_false_iff.mp (hnone found hfound.holds))
      · rfl

/-- **What the search for the project directory finds**, from a working directory. -/
structure Found (marked : Location → Bool) (working found : Location) : Prop where
  /-- It is the working directory or one above it. -/
  holds : working.isWithin found = true
  /-- If any of these is marked, it is the nearest one that is. -/
  nearest : (∃ place, working.isWithin place = true ∧ marked place = true) →
    marked found = true
      ∧ ∀ other, working.isWithin other = true → other.isWithin found = true → other ≠ found →
        marked other = false
  /-- If none is, it is the working directory. -/
  fallback : (∀ place, working.isWithin place = true → marked place = false) → found = working
  /-- If it is marked, the search finds it from every directory on the way as well. -/
  same : marked found = true → ∀ start, working.isWithin start = true →
    start.isWithin found = true → directory marked start = found

/-- **The search finds the nearest marked directory**, wherever it starts and whatever is marked. -/
theorem found_directory (marked : Location → Bool) (working : Location) :
    Found marked working (directory marked working) := by
  rcases directory_eq_iff.mp (Eq.refl (directory marked working)) with hnear | ⟨hnone, hself⟩
  · constructor
    case holds => exact hnear.holds
    case nearest => exact fun _ => ⟨hnear.isMarked, hnear.between⟩
    case fallback =>
      intro hnone
      exact absurd hnear.isMarked (Bool.eq_false_iff.mp (hnone _ hnear.holds))
    case same =>
      intro _ start hstart hfound
      exact directory_eq_iff.mpr (.inl (hnear.of_isWithin hstart hfound))
  · -- nothing is marked, which leaves the working directory itself
    rw [hself]
    constructor
    case holds => exact isWithin_refl working
    case nearest =>
      rintro ⟨place, hplace, hmarked⟩
      exact absurd hmarked (Bool.eq_false_iff.mp (hnone place hplace))
    case fallback => exact fun _ => rfl
    case same =>
      intro hmarked
      exact absurd hmarked (Bool.eq_false_iff.mp (hnone working (isWithin_refl working)))

/-- The directories `/a` and `/a/b/c/d` are marked, and the search starts in `/a/b/c`. -/
example : directory (fun place => place.names == ["a"] || place.names == ["d", "c", "b", "a"])
    ⟨["c", "b", "a"]⟩ = ⟨["a"]⟩ := by decide

end Project

end OrderBy
