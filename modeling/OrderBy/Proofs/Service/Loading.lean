/-
  OrderBy.Proofs.Service.Loading — when a service loads settings, and what it keeps.

  `init` always loads.  Every other action that needs settings, directly or for
  their resolver (`Service.asks`), loads them only where none are in force
  (`Service.source?`).  What an action does to the store is then one of three
  things: it forgets the settings, it puts loaded ones in force, or it extends
  the store it found.

  Main results:
    * `declaresUnder_of_get_ok`, `requestResolver_of_get_ok` — declarations and
      requests by the settings they get;
    * `perform_of_load_error` — an action whose load fails fails with that
      cause, and changes nothing;
    * `store_after_cases` — an action forgets the settings, loads others, or
      extends the store;
    * `coherent_run` — settings and resolver agree after every run.
-/
import OrderBy.Proofs.Settings.Store
import OrderBy.Service

namespace OrderBy

open Settings (Loaded LoadError Store BuiltResolver)

namespace Service

/-! ## §1. Loads -/

/-- **Does an action ask for settings**, directly or for their resolver?  A declaration does once
its first parameter is checked, and a request when a route with parameters answers it and no
resolver takes the place of the one of the settings. -/
def asks (service : Service) : Action → Bool
  | .get | .paths | .resolver => true
  | .declare _ (d :: _) => d.parameter.toBool
  | .request path _ =>
    (Page.of? path).isNone && service.override.isNone
      && match service.routeFor? path with
        | .ok (some route) => !route.parameters.isEmpty
        | _ => false
  | _ => false

/-- **The file that an action loads settings from**, if it loads any: `init` does each time, and
what asks for settings does where none are in force. -/
def source? (service : Service) : Action → Option String
  | .init envFile => some (Store.envFileOr envFile)
  | action =>
    if service.store.current.isNone && service.asks action then some Store.defaultEnvFile else none

/-- **An action loads settings** when its source has some that are accepted. -/
def Loads (service : Service) (action : Action) (settings : Settings) : Prop :=
  ∃ file, service.source? action = some file
    ∧ Settings.load service.host [] (some file) = .ok settings

theorem source?_of_current {service : Service} {loaded : Loaded} {action : Action}
    (hcurrent : service.store.current = some loaded) (hinit : ∀ envFile, action ≠ .init envFile) :
    service.source? action = none := by
  unfold source?
  split
  next envFile => exact absurd rfl (hinit envFile)
  next =>
    rw [hcurrent]
    rfl

/-! ## §2. Declarations -/

section Declarations

variable {service : Service} {loaded : Loaded} {mid : Store} {e : LoadError}

theorem declareOne_of_parameter_error {d : Declaration} {error : SortError}
    (hd : d.parameter = .error error) :
    service.declareOne d = (.error (.sort error), service) := by
  unfold declareOne
  rw [hd]

/-- A parameter is named by the settings that asking for them gives. -/
theorem declareOne_of_get_ok {d : Declaration} {parameter : Parameter}
    (hcoherent : service.store.Coherent) (hd : d.parameter = .ok parameter)
    (hget : service.store.get service.host = (.ok loaded, mid)) :
    ∃ store, service.declareOne d
        = (.ok ⟨loaded.settings.resolver.parameterName parameter.qualifier, parameter⟩,
            { service with store })
      ∧ mid.Extends store := by
  obtain ⟨built, records, store, hresolver, hextends, _, _, hbuilt, _⟩ :=
    Store.getResolver_of_get_ok hcoherent hget
  refine ⟨store, ?_, hextends⟩
  unfold declareOne
  rw [hd, hresolver, ← hbuilt]
  rfl

theorem declareOne_of_get_error {d : Declaration} {parameter : Parameter}
    (hcoherent : service.store.Coherent) (hd : d.parameter = .ok parameter)
    (hget : service.store.get service.host = (.error e, mid)) :
    service.declareOne d = (.error (.settings e), service) := by
  unfold declareOne
  rw [hd, Store.getResolver_of_get_error hcoherent hget]
  rfl

/-- **What a declaration at a position makes** under settings. -/
structure Makes (settings : Settings) (d : Declaration × Nat) (entry : Json × DeclaredParameter) :
    Prop where
  /-- The label is the one given, or the numbered one. -/
  label : entry.1 = d.1.label.getD (.text (Label.numbered d.2))
  /-- Qualifier and default are the declared ones. -/
  parameter : d.1.parameter = .ok entry.2.parameter
  /-- The name in queries is the one of the settings. -/
  queryName : entry.2.queryName = settings.resolver.parameterName entry.2.parameter.qualifier

/-- **Declarations are made under settings** that a store has in force: what they make is named by
these, and the store is extended. -/
def DeclaresUnder (settings : Settings) (mid : Store) (service : Service) (position : Nat)
    (declarations : List Declaration) : Prop :=
  ∃ result store, service.declareFrom position declarations = (result, { service with store })
    ∧ mid.Extends store
    ∧ ∀ made, result = .ok made →
        List.Forall₂ (Makes settings) (declarations.zipIdx position) made

/-- A first declaration gets its settings, and leaves them in force for the others. -/
theorem declaresUnder_cons {d : Declaration} {parameter : Parameter} {position : Nat}
    {declarations : List Declaration} (hcoherent : service.store.Coherent)
    (hd : d.parameter = .ok parameter) (hget : service.store.get service.host = (.ok loaded, mid))
    (hothers : ∀ (store : Store) (kept : Loaded), store.Coherent → store.current = some kept →
      DeclaresUnder kept.settings store { service with store } (position + 1) declarations) :
    DeclaresUnder loaded.settings mid service position (d :: declarations) := by
  obtain ⟨store, hone, hextends⟩ := declareOne_of_get_ok hcoherent hd hget
  -- the store has other paths or a resolver now, but the same settings
  obtain ⟨kept, hkept, hsame⟩ := hextends.current_eq_some (Store.current_of_get_ok hget)
  have hsettings : kept.settings = loaded.settings := congrArg Prod.snd hsame
  have hmid := Store.coherent_of_get_ok hcoherent hget
  obtain ⟨result, last, hrest, hlast, hmade⟩ := hothers store kept (hextends.coherent hmid) hkept
  -- the label is looked at after the parameter, so a bad one comes too late for the load
  cases hlabel : Label.checkKey (d.label.getD (.text (Label.numbered position))) with
  | error error =>
    refine ⟨.error (.route error), store, ?_, hextends, ?_⟩
    · unfold declareFrom
      simp only [hone, hlabel]
    · intro made h
      exact absurd h (by simp)
  | ok _ =>
    cases result with
    | error error =>
      refine ⟨.error error, last, ?_, hextends.trans hlast, ?_⟩
      · unfold declareFrom
        simp only [hone, hlabel, hrest]
      · intro made h
        exact absurd h (by simp)
    | ok others =>
      refine ⟨.ok ((d.label.getD (.text (Label.numbered position)),
        ⟨loaded.settings.resolver.parameterName parameter.qualifier, parameter⟩) :: others), last,
        ?_, hextends.trans hlast, ?_⟩
      · unfold declareFrom
        simp only [hone, hlabel, hrest]
      · intro made h
        rw [← Except.ok.inj h, List.zipIdx_cons]
        rw [hsettings] at hmade
        exact .cons ⟨rfl, hd, rfl⟩ (hmade others rfl)

/-- **With settings in force, all declarations are made under these.** -/
theorem declaresUnder_of_current (declarations : List Declaration) {service : Service}
    {loaded : Loaded} (hcoherent : service.store.Coherent)
    (hcurrent : service.store.current = some loaded) (position : Nat) :
    DeclaresUnder loaded.settings service.store service position declarations := by
  induction declarations generalizing service loaded position with
  | nil =>
    refine ⟨.ok [], service.store, rfl, Store.Extends.refl service.store, ?_⟩
    intro made hmade
    rw [← Except.ok.inj hmade]
    exact .nil
  | cons d declarations ih =>
    cases hd : d.parameter with
    | error error =>
      refine ⟨.error (.sort error), service.store, ?_, Store.Extends.refl service.store, ?_⟩
      · unfold declareFrom
        rw [declareOne_of_parameter_error hd]
      · intro made hmade
        exact absurd hmade (by simp)
    | ok parameter =>
      refine declaresUnder_cons hcoherent hd (Store.get_of_current hcurrent) ?_
      intro store kept hstore hkept
      have hnext : ({ service with store } : Service).store.Coherent := hstore
      exact ih hnext hkept (position + 1)

/-- **Declarations are made under the settings that asking for them gives**, be they in force or
loaded by the first of the declarations. -/
theorem declaresUnder_of_get_ok {d : Declaration} {parameter : Parameter}
    (hcoherent : service.store.Coherent) (hd : d.parameter = .ok parameter)
    (hget : service.store.get service.host = (.ok loaded, mid)) (position : Nat)
    (declarations : List Declaration) :
    DeclaresUnder loaded.settings mid service position (d :: declarations) := by
  refine declaresUnder_cons hcoherent hd hget ?_
  intro store kept hstore hkept
  have hnext : ({ service with store } : Service).store.Coherent := hstore
  exact declaresUnder_of_current declarations hnext hkept (position + 1)

/-- A declaration whose settings cannot be had fails at its first parameter. -/
theorem declare_of_get_error {path : String} {d : Declaration} {declarations : List Declaration}
    {parameter : Parameter} (hcoherent : service.store.Coherent) (hd : d.parameter = .ok parameter)
    (hget : service.store.get service.host = (.error e, mid)) :
    service.declare path (d :: declarations) = (.error (.settings e), service) := by
  unfold declare declareFrom
  simp only [declareOne_of_get_error hcoherent hd hget]

/-- A declaration whose first parameter is bad does not come to the settings. -/
theorem declare_of_parameter_error {path : String} {d : Declaration}
    {declarations : List Declaration} {error : SortError} (hd : d.parameter = .error error) :
    service.declare path (d :: declarations) = (.error (.sort error), service) := by
  unfold declare declareFrom
  simp only [declareOne_of_parameter_error hd]

/-- A declaration extends the store that asking for settings leaves. -/
theorem extends_declare {path : String} {d : Declaration} {declarations : List Declaration}
    {parameter : Parameter} (hcoherent : service.store.Coherent) (hd : d.parameter = .ok parameter)
    (hget : service.store.get service.host = (.ok loaded, mid)) :
    mid.Extends (service.declare path (d :: declarations)).2.store := by
  obtain ⟨result, store, hfrom, hextends, _⟩ :=
    declaresUnder_of_get_ok hcoherent hd hget 0 declarations
  unfold declare
  rw [hfrom]
  cases result with
  | error error => exact hextends
  | ok made =>
    dsimp only
    split
    · exact hextends
    · exact hextends

end Declarations

/-! ## §3. Requests -/

section Requests

variable {service : Service} {loaded : Loaded} {mid : Store} {e : LoadError} {path query : String}
  {route : Route}

theorem asks_request_iff :
    service.asks (.request path query) = true
      ↔ Page.of? path = none ∧ service.override = none
        ∧ ∃ route, service.routeFor? path = .ok (some route) ∧ route.parameters ≠ [] := by
  show ((Page.of? path).isNone && service.override.isNone
      && match service.routeFor? path with
        | .ok (some route) => !route.parameters.isEmpty
        | _ => false) = true ↔ _
  rw [Bool.and_eq_true, Bool.and_eq_true, Option.isNone_iff_eq_none, Option.isNone_iff_eq_none,
    and_assoc]
  -- what is left is the route
  refine and_congr_right fun _ => and_congr_right fun _ => ?_
  split
  next found hfound =>
    rw [Bool.not_eq_true', List.isEmpty_eq_false_iff]
    constructor
    · intro h
      exact ⟨found, hfound, h⟩
    · rintro ⟨other, hother, h⟩
      rw [hfound] at hother
      rwa [Option.some.inj (Except.ok.inj hother)]
  next hnone =>
    constructor
    · intro h
      exact absurd h (by simp)
    · rintro ⟨other, hother, _⟩
      exact absurd hother (hnone other)

/-- A request that a route answers is resolved with the resolver of requests. -/
theorem request_of_route (hpage : Page.of? path = none)
    (hroute : service.routeFor? path = .ok (some route)) (hparameters : route.parameters ≠ []) :
    service.request path query
      = (do
          let resolver ← service.requestResolver.1
          let entries ←
            (Route.resolveAll resolver (QueryString.received query) route.parameters).mapError
              Failure.sort
          pure (.sorts entries),
        service.requestResolver.2) := by
  unfold request requestRoute
  rw [hpage]
  simp only [hroute, List.isEmpty_eq_false_iff.mpr hparameters, Bool.false_eq_true, if_false]

/-- **Requests are resolved with the resolver of the settings** that asking for them gives. -/
theorem requestResolver_of_get_ok (hcoherent : service.store.Coherent)
    (hoverride : service.override = none)
    (hget : service.store.get service.host = (.ok loaded, mid)) :
    ∃ records store,
      service.requestResolver = (⟨.ok loaded.settings.resolver, records⟩, { service with store })
        ∧ mid.Extends store := by
  obtain ⟨built, records, store, hresolver, hextends, _, _, hbuilt, _⟩ :=
    Store.getResolver_of_get_ok hcoherent hget
  refine ⟨records, store, ?_, hextends⟩
  unfold requestResolver
  rw [hoverride, hresolver, ← hbuilt]
  rfl

theorem requestResolver_of_get_error (hcoherent : service.store.Coherent)
    (hoverride : service.override = none)
    (hget : service.store.get service.host = (.error e, mid)) :
    service.requestResolver = (Traced.fail (.settings e), service) := by
  unfold requestResolver
  split
  next resolver h => exact absurd (hoverride ▸ h) (by simp)
  next =>
    rw [Store.getResolver_of_get_error hcoherent hget]
    rfl

/-- A request that does not come to the settings changes nothing. -/
theorem request_of_not_asks (h : service.asks (.request path query) = false) :
    (service.request path query).2 = service := by
  have hnot := mt asks_request_iff.mpr (Bool.eq_false_iff.mp h)
  unfold request
  split
  · rfl
  next hpage =>
    unfold requestRoute
    split
    · rfl
    · rfl
    next route hroute =>
      split
      · rfl
      next hparameters =>
        cases hoverride : service.override with
        | some resolver =>
          unfold requestResolver
          simp only [hoverride]
        | none =>
          -- this is the one request that asks
          refine absurd ⟨hpage, hoverride, route, hroute, ?_⟩ hnot
          rintro hempty
          exact hparameters (by rw [hempty]; rfl)

end Requests

/-! ## §4. What an action does to the store -/

section Actions

variable {service : Service} {loaded : Loaded} {mid : Store} {e : LoadError} {action : Action}
  {settings : Settings}

theorem perform_get (service : Service) :
    service.perform .get
      = (Traced.of (((service.store.get service.host).1.mapError Failure.settings).map .settings),
        { service with store := (service.store.get service.host).2 }) := rfl

/-- What is answered with when settings are asked for. -/
theorem get_of_perform_get {next : Service}
    (h : service.perform .get = (pure (.settings loaded), next)) :
    ∃ mid, service.store.get service.host = (.ok loaded, mid)
      ∧ next = { service with store := mid } := by
  rw [perform_get, Prod.mk.injEq] at h
  have houtcome := congrArg Traced.outcome h.1
  obtain ⟨found, mid, hget⟩ | ⟨e, hget⟩ := Store.get_ok_or_error service.store service.host
  · rw [hget] at h houtcome
    have hfound : found = loaded := Answer.settings.inj (Except.ok.inj houtcome)
    exact ⟨mid, hfound ▸ hget, h.2.symm⟩
  · rw [hget] at houtcome
    exact absurd houtcome (by simp [Traced.of, Except.mapError, Except.map])

/-- Settings that are asked for in vain leave everything as it is. -/
theorem get_error_of_perform_get {next : Service}
    (h : service.perform .get = (Traced.fail (.settings e), next)) :
    service.store.get service.host = (.error e, service.store) := by
  rw [perform_get, Prod.mk.injEq] at h
  have houtcome := congrArg Traced.outcome h.1
  obtain ⟨found, mid, hget⟩ | ⟨error, hget⟩ := Store.get_ok_or_error service.store service.host
  · rw [hget] at houtcome
    exact absurd houtcome (by simp [Traced.of, Traced.fail, Except.mapError, Except.map])
  · rw [hget] at houtcome
    have herror : error = e := Failure.settings.inj (Except.error.inj houtcome)
    exact herror ▸ hget

theorem perform_declare (service : Service) (path : String) (declarations : List Declaration) :
    service.perform (.declare path declarations)
      = (Traced.of ((service.declare path declarations).1.map fun _ => .done),
        (service.declare path declarations).2) := rfl

theorem perform_request (service : Service) (path query : String) :
    service.perform (.request path query)
      = (⟨(service.request path query).1.outcome.map .response,
          (service.request path query).1.records⟩, (service.request path query).2) := rfl

/-- **An action whose settings cannot be had** fails with their cause, and changes nothing. -/
theorem perform_of_get_error (hcoherent : service.store.Coherent)
    (hasks : service.asks action = true)
    (hget : service.store.get service.host = (.error e, mid)) :
    service.perform action = (Traced.fail (.settings e), service) := by
  have hmid := (Store.of_get_error hget).2.2
  -- each action comes to the settings before it changes anything
  cases action with
  | get =>
    show service.answerLoaded (service.store.get service.host) = _
    rw [hget, hmid]
    rfl
  | paths =>
    unfold perform paths
    rw [Store.projectPath_of_get_error hget]
    rfl
  | resolver =>
    unfold perform
    rw [Store.getResolver_of_get_error hcoherent hget]
    rfl
  | declare path declarations =>
    cases declarations with
    | nil => exact absurd hasks (by simp [asks])
    | cons d declarations =>
      cases hd : d.parameter with
      | error error => exact absurd hasks (by simp [asks, hd, Except.toBool])
      | ok parameter =>
        rw [perform_declare, declare_of_get_error hcoherent hd hget]
        rfl
  | request path query =>
    obtain ⟨hpage, hoverride, route, hroute, hparameters⟩ := asks_request_iff.mp hasks
    rw [perform_request, request_of_route hpage hroute hparameters,
      requestResolver_of_get_error hcoherent hoverride hget]
    rfl
  | change _ | init _ | reset | override _ | document => exact absurd hasks (by simp [asks])

/-- An action that gets its settings extends the store that has them in force. -/
theorem extends_after_of_get_ok (hcoherent : service.store.Coherent)
    (hasks : service.asks action = true)
    (hget : service.store.get service.host = (.ok loaded, mid)) :
    mid.Extends (service.after action).store := by
  cases action with
  | get =>
    show mid.Extends (service.store.get service.host).2
    rw [hget]
    exact Store.Extends.refl mid
  | paths =>
    -- the second path is asked for in the store that the first one left
    obtain ⟨project, found, hproject, hfound⟩ := Store.projectPath_of_get_ok hget
    obtain ⟨kept, hkept, _⟩ := hfound.current_eq_some (Store.current_of_get_ok hget)
    have hagain : found.get service.host = (.ok kept, found) := Store.get_of_current hkept
    obtain ⟨log, last, hlog, hlast⟩ := Store.logPath_of_get_ok hagain
    unfold after perform paths
    simp only [hproject, hlog]
    exact hfound.trans hlast
  | resolver =>
    obtain ⟨built, records, store, hresolver, hextends, _⟩ :=
      Store.getResolver_of_get_ok hcoherent hget
    unfold after perform
    rw [hresolver]
    exact hextends
  | declare path declarations =>
    cases declarations with
    | nil => exact absurd hasks (by simp [asks])
    | cons d declarations =>
      cases hd : d.parameter with
      | error error => exact absurd hasks (by simp [asks, hd, Except.toBool])
      | ok parameter => exact extends_declare hcoherent hd hget
  | request path query =>
    obtain ⟨hpage, hoverride, route, hroute, hparameters⟩ := asks_request_iff.mp hasks
    obtain ⟨records, store, hresolver, hextends⟩ :=
      requestResolver_of_get_ok hcoherent hoverride hget
    rw [after, perform_request, request_of_route hpage hroute hparameters, hresolver]
    exact hextends
  | change _ | init _ | reset | override _ | document => exact absurd hasks (by simp [asks])

/-- An action that asks for nothing leaves the store alone, but for loading and forgetting. -/
theorem store_after_of_not_asks (hasks : service.asks action = false)
    (hinit : ∀ envFile, action ≠ .init envFile) (hreset : action ≠ .reset) :
    (service.after action).store = service.store := by
  cases action with
  | change _ | override _ | document => rfl
  | init envFile => exact absurd rfl (hinit envFile)
  | reset => exact absurd rfl hreset
  | get | paths | resolver => exact absurd hasks (by simp [asks])
  | declare path declarations =>
    cases declarations with
    | nil =>
      rw [after, perform_declare]
      unfold declare declareFrom
      dsimp only
      split <;> rfl
    | cons d declarations =>
      cases hd : d.parameter with
      | error error => rw [after, perform_declare, declare_of_parameter_error hd]
      | ok parameter => exact absurd hasks (by simp [asks, hd, Except.toBool])
  | request path query =>
    rw [after, perform_request, request_of_not_asks hasks]

/-- The source of an action that does more than ask is the file it names. -/
theorem eq_init_or_asks_of_source? {file : String} (h : service.source? action = some file) :
    (∃ envFile, action = .init envFile ∧ Store.envFileOr envFile = file)
      ∨ (service.asks action = true ∧ service.store.current = none
        ∧ Store.envFileOr none = file) := by
  unfold source? at h
  split at h
  next envFile => exact .inl ⟨envFile, rfl, Option.some.inj h⟩
  next =>
    split at h
    next hboth =>
      rw [Bool.and_eq_true, Option.isNone_iff_eq_none] at hboth
      exact .inr ⟨hboth.2, hboth.1, Option.some.inj h⟩
    next => exact absurd h (by simp)

/-- **An action whose load fails** fails with that cause, and changes nothing. -/
theorem perform_of_load_error (hcoherent : service.store.Coherent) {file : String}
    (hsource : service.source? action = some file)
    (hload : Settings.load service.host [] (some file) = .error e) :
    service.perform action = (Traced.fail (.settings e), service) := by
  rcases eq_init_or_asks_of_source? hsource with ⟨envFile, rfl, rfl⟩ | ⟨hasks, hcurrent, rfl⟩
  · show service.answerLoaded (service.store.init service.host envFile) = _
    rw [Store.init_of_load_error hload]
    rfl
  · have hget : service.store.get service.host = (.error e, service.store) := by
      rw [Store.get_of_none hcurrent, Store.init_of_load_error hload]
    exact perform_of_get_error hcoherent hasks hget

/-- **An action that loads settings puts them in force**, with a new number, and leaves no resolver
of the former ones. -/
theorem extends_after_of_loads (hcoherent : service.store.Coherent)
    (h : service.Loads action settings) :
    (service.store.put settings).Extends (service.after action).store := by
  obtain ⟨file, hsource, hload⟩ := h
  rcases eq_init_or_asks_of_source? hsource with ⟨envFile, rfl, rfl⟩ | ⟨hasks, hcurrent, rfl⟩
  · show (service.store.put settings).Extends (service.store.init service.host envFile).2
    rw [Store.init_of_load_ok hload]
    exact Store.Extends.refl _
  · have hget : service.store.get service.host
        = (.ok { serial := service.store.next, settings }, service.store.put settings) := by
      rw [Store.get_of_none hcurrent, Store.init_of_load_ok hload]
    exact extends_after_of_get_ok hcoherent hasks hget

/-- **Any other action that does not forget the settings extends the store.** -/
theorem extends_after_of_not_loads (hcoherent : service.store.Coherent) (hreset : action ≠ .reset)
    (h : ∀ settings, ¬ service.Loads action settings) :
    service.store.Extends (service.after action).store := by
  cases hsource : service.source? action with
  | some file =>
    cases hload : Settings.load service.host [] (some file) with
    | ok settings => exact absurd ⟨file, hsource, hload⟩ (h settings)
    | error e =>
      unfold after
      rw [perform_of_load_error hcoherent hsource hload]
      exact Store.Extends.refl service.store
  | none =>
    have hinit : ∀ envFile, action ≠ .init envFile := by
      rintro envFile rfl
      exact absurd hsource (by simp [source?])
    cases hasks : service.asks action with
    | false =>
      rw [store_after_of_not_asks hasks hinit hreset]
      exact Store.Extends.refl service.store
    | true =>
      -- it asks but loads nothing, so there are settings in force
      cases hcurrent : service.store.current with
      | some loaded =>
        exact extends_after_of_get_ok hcoherent hasks (Store.get_of_current hcurrent)
      | none =>
        unfold source? at hsource
        split at hsource
        next envFile => exact absurd rfl (hinit envFile)
        next => exact absurd hsource (by simp [hcurrent, hasks])

/-- **What an action does to the store**: it forgets the settings, loads others, or extends it. -/
theorem store_after_cases (hcoherent : service.store.Coherent) (action : Action) :
    (action = .reset ∧ (service.after action).store = service.store.reset)
      ∨ (∃ settings, service.Loads action settings
          ∧ (service.store.put settings).Extends (service.after action).store)
      ∨ (action ≠ .reset ∧ (∀ settings, ¬ service.Loads action settings)
          ∧ service.store.Extends (service.after action).store) := by
  by_cases hreset : action = .reset
  · exact .inl ⟨hreset, by rw [hreset]; rfl⟩
  · by_cases hloads : ∃ settings, service.Loads action settings
    · obtain ⟨settings, hloads⟩ := hloads
      exact .inr (.inl ⟨settings, hloads, extends_after_of_loads hcoherent hloads⟩)
    · have hnone := not_exists.mp hloads
      exact .inr (.inr ⟨hreset, hnone, extends_after_of_not_loads hcoherent hreset hnone⟩)

/-! ## §5. Runs -/

theorem accepted_of_loads (h : service.Loads action settings) : settings.Accepted := by
  obtain ⟨file, _, hload⟩ := h
  exact ⟨service.host, [], some file, hload⟩

theorem coherent_after (hcoherent : service.store.Coherent) (action : Action) :
    (service.after action).store.Coherent := by
  obtain ⟨_, hreset⟩ | ⟨settings, hloads, hextends⟩ | ⟨_, _, hextends⟩ :=
    store_after_cases hcoherent action
  · rw [hreset]
    exact Store.coherent_reset service.store
  · exact hextends.coherent (Store.coherent_put service.store (accepted_of_loads hloads))
  · exact hextends.coherent hcoherent

/-- **Settings and resolver agree after every run.** -/
theorem coherent_run (hcoherent : service.store.Coherent) (actions : List Action) :
    (service.run actions).store.Coherent := by
  induction actions generalizing service with
  | nil => exact hcoherent
  | cons action actions ih => exact ih (coherent_after hcoherent action)

/-- **A service is reachable** when a run leads to it from one whose store is empty. -/
def Reachable (service : Service) : Prop :=
  ∃ (start : Service) (actions : List Action), start.store = {} ∧ start.run actions = service

theorem coherent_of_reachable (h : service.Reachable) : service.store.Coherent := by
  obtain ⟨start, actions, hstart, rfl⟩ := h
  exact coherent_run (hstart ▸ Store.coherent_empty) actions

/-- **Settings are in force** in a service when asking for them gives these, be they loaded before
or now. -/
def InForce (service : Service) (settings : Settings) : Prop :=
  ∃ loaded next, service.perform .get = (pure (.settings loaded), next)
    ∧ loaded.settings = settings

theorem inForce_of_get_ok (hget : service.store.get service.host = (.ok loaded, mid)) :
    service.InForce loaded.settings := by
  refine ⟨loaded, { service with store := mid }, ?_, rfl⟩
  rw [perform_get, hget]
  rfl

theorem run_append (service : Service) (actions more : List Action) :
    service.run (actions ++ more) = (service.run actions).run more :=
  List.foldl_append

end Actions

end Service

end OrderBy
