/-
  OrderBy.Proofs.Resolver.Totality — no request makes resolving fail.

  Resolving a parameter reads values, builds the default of the parameter, and
  then reads the values as expressions.  With the resolver of accepted settings
  the first and the last step never fail: the delimiter is not empty, and what
  the reader lets through is never refused by the check behind it.  So only the
  default can fail, and it does so whatever the request holds.

  Main results:
    * `wellFormed_resolve` — resolving values gives a well-formed sort;
    * `resolveParameter_error_iff` — with accepted settings, a parameter fails
      exactly when its default does, and otherwise has a well-formed sort.
-/
import OrderBy.Proofs.Default
import OrderBy.Proofs.Settings.Acceptance

namespace OrderBy

namespace Resolver

variable {r : Resolver} {delimiter : String}

/-- **Values resolve to a well-formed sort**, when the sorts to fall back on are well formed. -/
theorem wellFormed_resolve (hr : r.propertyDelimiter = .text delimiter) (hd : delimiter ≠ "")
    (hlast : r.fallback.WellFormed) {fallback : Option Sorting}
    (hfallback : ∀ s, fallback = some s → s.WellFormed) (values : List (Option String))
    (qualifier : Option String) :
    ∃ s, (r.resolve (values.map Json.ofText?) qualifier fallback).outcome = .ok s
      ∧ s.WellFormed := by
  rw [resolve_eq hr hd]
  refine ⟨_, rfl, ?_⟩
  split
  · -- the request has a sort, each clause of which was read
    intro c hc
    exact (Expression.of_mem_sortingOf hd hc).1
  · cases fallback with
    | none => exact hlast
    | some s => exact hfallback s rfl

end Resolver

/-- **With accepted settings, a parameter fails exactly when its default does**, with the same
error and whatever the request holds; otherwise it has a well-formed sort. -/
theorem resolveParameter_error_iff {s : Settings} (hs : s.Accepted) :
    ∃ r, (Resolver.ofSettings s).outcome = .ok r
      ∧ ∀ (request : RequestParameters) (parameter : Parameter) (texts : List (Option String)),
          request.HoldsTexts (r.parameterName parameter.qualifier) texts →
          parameter.default.WellFormed →
          (∀ e, (r.resolveParameter request parameter).outcome = .error e
              ↔ parameter.default.toSorting = .error e)
            ∧ ∀ t, parameter.default.toSorting = .ok t →
                ∃ sorting, (r.resolveParameter request parameter).outcome = .ok sorting
                  ∧ sorting.WellFormed := by
  have hfilled := Settings.filled_of_accepted hs
  refine ⟨s.resolver, ?_, ?_⟩
  · rw [Resolver.ofSettings_eq hfilled]
  · intro request parameter texts hholds hwf
    -- a default that builds leaves nothing that can fail: the delimiter is not empty
    have hbuilt : ∀ t, parameter.default.toSorting = .ok t →
        ∃ sorting, (s.resolver.resolveParameter request parameter).outcome = .ok sorting
          ∧ sorting.WellFormed := by
      intro t ht
      have hdefault := ParameterDefault.wellFormed_of_toSorting hwf ht
      rw [Resolver.resolveParameter_of_holdsTexts hholds ht]
      refine Resolver.wellFormed_resolve rfl hfilled.propertyDelimiter
        (Settings.wellFormed_fallback hfilled) ?_ texts parameter.qualifier
      intro fallback hfallback
      split at hfallback
      · rw [← Option.some.inj hfallback]
        exact hdefault
      · exact absurd hfallback (by simp)
    refine ⟨?_, hbuilt⟩
    intro e
    constructor
    · intro hfails
      cases hdefault : parameter.default.toSorting with
      | error found =>
        rw [Resolver.resolveParameter_of_default_error hholds hdefault] at hfails
        exact hfails
      | ok t =>
        -- this parameter has a sort, and so does not fail
        obtain ⟨sorting, hsorting, _⟩ := hbuilt t hdefault
        rw [hsorting] at hfails
        exact absurd hfails (by simp)
    · intro hdefault
      rw [Resolver.resolveParameter_of_default_error hholds hdefault]

/-- A mapping gives a usable sort beside blank pieces and a missing value: with no default the
request is followed, with a property of blanks in the second part of the default it fails. -/
theorem resolveParameter_error_iff_blank :
    let host : Host :=
      { environment := [("SORT_PROPERTY_DELIMITER", ";"), ("sort_fallback", "id;desc")] }
    let s : Settings := { propertyDelimiter := ";", sortFallback := "id;desc" }
    let request : RequestParameters := .mapping [("sort", .list [.text ".;a;desc", .null])]
    let blank : ParameterDefault :=
      .several [{ properties := [.text "id"] },
        { properties := [.text " . "], direction := .written (.text "up") }]
    Settings.load host [] none = .ok s
      ∧ (s.resolver.resolveParameter request { default := blank }).outcome
          = .error (.invalidProperty (.text " . "))
      ∧ ∃ sorting, (s.resolver.resolveParameter request {}).outcome = .ok sorting
          ∧ sorting.WellFormed := by
  intro host s request blank
  have hload : Settings.load host [] none = .ok s := rfl
  have hs : s.Accepted := ⟨host, [], none, hload⟩
  obtain ⟨r, hr, hall⟩ := resolveParameter_error_iff hs
  rw [Resolver.ofSettings_eq (Settings.filled_of_accepted hs)] at hr
  obtain rfl : s.resolver = r := Except.ok.inj hr
  have hholds : request.HoldsTexts "sort" [some ".;a;desc", none] := .list rfl
  refine ⟨hload, ?_, ?_⟩
  · exact ((hall request { default := blank } _ hholds trivial).1 _).mpr rfl
  · exact (hall request {} _ hholds trivial).2 .unsorted rfl

end OrderBy
