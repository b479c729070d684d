/-
  OrderBy.Proofs.Service.EntryPoints — the ways to resolve a parameter agree.

  A parameter that a route declares is resolved from the values it is handed,
  which stand under a name made when it was declared.  A resolver looks values
  up by itself, under a name it makes now, in pairs or in a mapping.  Both come
  down to the same texts once the two names are the same, which they are when
  the same settings were in force; whether no value is told by an absent list,
  an empty one or `null` makes no difference from there on.

  Main results:
    * `DeclaredParameter.resolve_eq_resolveParameter` — for equal names, both
      ways give the same sort and the same records;
    * `entryPoints_agree` — with the same settings in force at declaration and
      at request, all ways agree.
-/
import OrderBy.Proofs.Service.Loading

namespace OrderBy

open Settings (Store)

/-! ## §1. Declared parameters -/

namespace DeclaredParameter

variable {p : DeclaredParameter} {r : Resolver} {t : Sorting}

/-- The values that a parameter is handed are the texts under its name; none at all count as an
empty list of them. -/
theorem getD_handed (p : DeclaredParameter) (pairs : List (String × String)) :
    (p.handed pairs).getD [] = textsUnder p.queryName pairs := by
  show (if (textsUnder p.queryName pairs).isEmpty then none
    else some (textsUnder p.queryName pairs)).getD [] = _
  split
  next hempty =>
    rw [List.isEmpty_iff.mp hempty]
    rfl
  next => rfl

/-- **A declared parameter is resolved** by the texts under its name, once its default is built. -/
theorem resolve_handed (hdefault : p.parameter.default.toSorting = .ok t)
    (pairs : List (String × String)) :
    p.resolve r (p.handed pairs)
      = r.resolve (((textsUnder p.queryName pairs).map some).map Json.ofText?)
          p.parameter.qualifier (if t.isSorted then some t else none) := by
  unfold resolve Parameter.defaultSorting
  rw [hdefault, getD_handed, List.map_map]
  rfl

/-- **A resolver that looks values up finds what a parameter is handed**, when it has the name of
the parameter and its default. -/
theorem resolve_eq_resolveParameter {parameter : Parameter} {request : RequestParameters}
    {pairs : List (String × String)} (hname : p.queryName = r.parameterName parameter.qualifier)
    (hqualifier : p.parameter.qualifier = parameter.qualifier)
    (hdeclared : p.parameter.default.toSorting = .ok t)
    (hdefault : parameter.default.toSorting = .ok t)
    (hholds : request.HoldsTexts p.queryName ((textsUnder p.queryName pairs).map some)) :
    p.resolve r (p.handed pairs) = r.resolveParameter request parameter := by
  have hfound : request.HoldsTexts (r.parameterName parameter.qualifier)
      ((textsUnder p.queryName pairs).map some) := hname ▸ hholds
  rw [resolve_handed hdeclared, Resolver.resolveParameter_of_holdsTexts hfound hdefault, hqualifier]

end DeclaredParameter

/-! ## §2. Declarations -/

namespace Declaration

/-- A default that is given as a whole. -/
theorem parameter_of_default {parts : DefaultParts} {default : ParameterDefault}
    (h : parts.build = .ok default) (qualifier : Option String) :
    parameter { default := parts, qualifier } = .ok { qualifier, default } := by
  unfold parameter
  simp only [h]
  rfl

/-- A default that is given by properties has the sort of these; without properties there is no
default, and the sort of none has no clause. -/
theorem parameter_of_properties {properties : List Json} {direction : DirectionChoice}
    {t : Sorting} (h : DefaultSort.toSorting { properties, direction } = .ok t)
    (qualifier : Option String) :
    ∃ default, parameter { properties, direction, qualifier } = .ok { qualifier, default }
      ∧ default.toSorting = .ok t := by
  cases properties with
  | nil => exact ⟨.nothing, rfl, h⟩
  | cons property properties =>
    exact ⟨.single { properties := property :: properties, direction }, rfl, h⟩

end Declaration

/-! ## §3. Services -/

namespace Service

/-- **The ways to resolve a parameter agree**: one that a declaration made in `declaring`, resolved
in `requesting` from what it is handed, and the same one looked up there in pairs, or in a mapping
that holds what these hold under its name. -/
structure WaysAgree (declaring requesting : Service) (d : Declaration) (parameter : Parameter)
    (p : DeclaredParameter) (r : Resolver) : Prop where
  /-- The declaration makes the parameter. -/
  declared : (declaring.declareOne d).1 = .ok p
  /-- Requests are resolved with the resolver. -/
  resolver : requesting.requestResolver.1.outcome = .ok r
  /-- The name of the parameter is the one that the resolver makes. -/
  queryName : p.queryName = r.parameterName parameter.qualifier
  /-- All ways have the same sort and the same records, whatever the pairs. -/
  agree : ∀ pairs, ∃ sorting records, p.resolve r (p.handed pairs) = ⟨.ok sorting, records⟩
    ∧ r.resolveParameter (.pairs pairs) parameter = ⟨.ok sorting, records⟩
    ∧ ∀ entries,
        RequestParameters.HoldsTexts p.queryName (.mapping entries)
          ((textsUnder p.queryName pairs).map some) →
        r.resolveParameter (.mapping entries) parameter = ⟨.ok sorting, records⟩

variable {declaring requesting : Service} {s : Settings}

/-- What a declaration under settings makes, is found by the resolver of these. -/
theorem waysAgree_of_parameter {d : Declaration} {declared parameter : Parameter} {t : Sorting}
    (hdeclaring : declaring.Reachable) (hrequesting : requesting.Reachable)
    (hoverride : requesting.override = none) (hthen : declaring.InForce s)
    (hnow : requesting.InForce s) (hd : d.parameter = .ok declared)
    (hqualifier : declared.qualifier = parameter.qualifier)
    (hdeclared : declared.default.toSorting = .ok t)
    (hdefault : parameter.default.toSorting = .ok t) :
    ∃ p r, WaysAgree declaring requesting d parameter p r := by
  obtain ⟨loaded, _, hthen, hsame⟩ := hthen
  obtain ⟨current, _, hnow, rfl⟩ := hnow
  obtain ⟨mid, hget, _⟩ := get_of_perform_get hthen
  obtain ⟨last, hagain, _⟩ := get_of_perform_get hnow
  obtain ⟨store, hone, _⟩ := declareOne_of_get_ok (coherent_of_reachable hdeclaring) hd hget
  have hcoherent := coherent_of_reachable hrequesting
  obtain ⟨records, after, hresolver, _⟩ := requestResolver_of_get_ok hcoherent hoverride hagain
  have hdelimiter := (Store.filled_of_get_ok hcoherent hagain).propertyDelimiter
  rw [hsame] at hone
  let r := current.settings.resolver
  let p : DeclaredParameter := ⟨r.parameterName declared.qualifier, declared⟩
  have hname : p.queryName = r.parameterName parameter.qualifier :=
    congrArg r.parameterName hqualifier
  refine ⟨p, r, congrArg Prod.fst hone, congrArg (Traced.outcome ∘ Prod.fst) hresolver, hname, ?_⟩
  intro pairs
  have hhanded := DeclaredParameter.resolve_handed (p := p) (r := r) hdeclared pairs
  rw [Resolver.resolve_eq rfl hdelimiter] at hhanded
  -- all ways come down to what the parameter is handed
  have hlook : ∀ request : RequestParameters,
      request.HoldsTexts p.queryName ((textsUnder p.queryName pairs).map some) →
      r.resolveParameter request parameter = p.resolve r (p.handed pairs) := by
    intro request hholds
    exact (DeclaredParameter.resolve_eq_resolveParameter hname hqualifier hdeclared hdefault
      hholds).symm
  refine ⟨_, _, hhanded, (hlook _ (.pairs pairs)).trans hhanded, ?_⟩
  exact fun entries hholds => (hlook _ hholds).trans hhanded

/-- **All ways to resolve a parameter agree** when the same settings are in force at its
declaration and at the request, be its default given as a whole or by properties. -/
theorem entryPoints_agree (hdeclaring : declaring.Reachable) (hrequesting : requesting.Reachable)
    (hoverride : requesting.override = none) (hthen : declaring.InForce s)
    (hnow : requesting.InForce s) (qualifier : Option String) :
    (∀ (parts : DefaultParts) (default : ParameterDefault) (t : Sorting),
        parts.build = .ok default → default.toSorting = .ok t →
        ∃ p r, WaysAgree declaring requesting { default := parts, qualifier }
          { qualifier, default } p r)
      ∧ ∀ (properties : List Json) (direction : DirectionChoice) (t : Sorting),
          DefaultSort.toSorting { properties, direction } = .ok t →
          ∃ p r, WaysAgree declaring requesting { properties, direction, qualifier }
            { qualifier, default := .single { properties, direction } } p r := by
  constructor
  · intro parts default t hbuild ht
    exact waysAgree_of_parameter hdeclaring hrequesting hoverride hthen hnow
      (Declaration.parameter_of_default hbuild qualifier) rfl ht ht
  · intro properties direction t ht
    obtain ⟨default, hd, hdefault⟩ := Declaration.parameter_of_properties ht qualifier
    exact waysAgree_of_parameter hdeclaring hrequesting hoverride hthen hnow hd rfl hdefault ht

/-- Settings of the environment, forgotten after the declaration and loaded again before the
request, and a default given by properties. -/
theorem entryPoints_agree_reset :
    let changes : List Host.Change :=
      [.set "SORT_PARAMETER" "order", .set "SORT_PROPERTY_DELIMITER" ";"]
    let declaring : Service := run {} [.change changes, .init none]
    let requesting : Service := run {} [.change changes, .init none, .reset, .resolver]
    let properties : List Json := [.text "id", .text " name "]
    ∃ p r, WaysAgree declaring requesting
      { properties, direction := .known .desc, qualifier := some "book" }
      { qualifier := some "book",
        default := .single { properties, direction := .known .desc } } p r := by
  intro changes declaring requesting properties
  let s : Settings := { sortParameter := "order", propertyDelimiter := ";" }
  have hfirst : declaring.store.current = some { serial := 0, settings := s } := by decide +kernel
  have hagain : requesting.store.current = some { serial := 1, settings := s } := by decide +kernel
  have hthen : declaring.InForce s := inForce_of_get_ok (Store.get_of_current hfirst)
  have hnow : requesting.InForce s := inForce_of_get_ok (Store.get_of_current hagain)
  have ht : DefaultSort.toSorting { properties, direction := .known .desc }
      = .ok ⟨[⟨"id", .desc⟩, ⟨"name", .desc⟩]⟩ := rfl
  have hall := entryPoints_agree ⟨{}, _, rfl, rfl⟩ ⟨{}, _, rfl, rfl⟩ rfl hthen hnow (some "book")
  exact hall.2 properties (.known .desc) _ ht

end Service

end OrderBy
