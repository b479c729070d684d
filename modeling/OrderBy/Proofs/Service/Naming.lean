/-
  OrderBy.Proofs.Service.Naming — what a route keeps from its declaration.

  The name that a parameter has in queries is made when its route is declared,
  from the settings in force at that moment.  Everything else about it is read
  off the settings in force when a request comes: how its values are cut, and
  what takes the place of a sort without clauses.  Between the two, settings
  may be loaded, forgotten and loaded anew, and loads may fail.

  No action changes a route, and only a declaration adds one
  (`after_keeps`), so along a run each route can be followed back to its
  declaration (`declared_run`).

  Main results:
    * `declare_cases` — what a declaration makes, and under which settings;
    * `Route.resolveAll_eq` — what a request reads under settings;
    * `namesFrozen_run` — names stay as declared, and all else follows the
      settings of the request, after every run.
-/
import OrderBy.Proofs.Service.EntryPoints

namespace OrderBy

open Settings (Loaded LoadError Store)

/-! ## §1. What is read under settings -/

namespace Settings

/-- **The name of a parameter under settings**: the one of sort parameters, behind its qualifier if
it has one that is not empty. -/
def nameOf (s : Settings) (qualifier : Option String) : String :=
  if qualifier.getD "" = "" then s.sortParameter
  else qualifier.getD "" ++ s.qualifierDelimiter ++ s.sortParameter

/-- **A sort is what texts say under settings**: the one read with their delimiter if it has a
clause, else the default of the parameter if that has one, else the fallback of the settings. -/
def Says (s : Settings) (default : Sorting) (texts : List String) (sorting : Sorting) : Prop :=
  ∃ asked last, (Expression.readTexts (.text s.propertyDelimiter) texts).outcome = .ok asked
    ∧ (Expression.readTexts (.text s.propertyDelimiter) [s.sortFallback]).outcome = .ok last
    ∧ sorting = if asked.isSorted then asked else if default.isSorted then default else last

end Settings

/-- A declared parameter has the sort that the texts under its name say. -/
theorem DeclaredParameter.resolve_says {p : DeclaredParameter} {s : Settings} {t : Sorting}
    (hs : s.Filled) (hdefault : p.parameter.default.toSorting = .ok t)
    (pairs : List (String × String)) :
    ∃ sorting records, p.resolve s.resolver (p.handed pairs) = ⟨.ok sorting, records⟩
      ∧ s.Says t (textsUnder p.queryName pairs) sorting := by
  rw [resolve_handed hdefault, Resolver.resolve_eq rfl hs.propertyDelimiter]
  refine ⟨_, _, rfl, _, _, Expression.outcome_readTexts hs.propertyDelimiter _,
    Expression.outcome_readTexts hs.propertyDelimiter _, ?_⟩
  cases t.isSorted <;> rfl

/-- **What a parameter of a route reads** from pairs under settings. -/
structure Reads (s : Settings) (pairs : List (String × String))
    (entry : String × DeclaredParameter) (answer : String × SortingSchema) : Prop where
  /-- It is answered under its label. -/
  label : answer.1 = entry.1
  /-- Its sort is what the texts under its name say. -/
  sorting : ∃ t sorting, entry.2.parameter.default.toSorting = .ok t
    ∧ s.Says t (textsUnder entry.2.queryName pairs) sorting
    ∧ answer.2 = SortingSchema.ofSorting sorting

/-- **All parameters of a route are read**, when their defaults can be built. -/
theorem Route.resolveAll_eq {s : Settings} (hs : s.Filled) (pairs : List (String × String))
    {parameters : List (String × DeclaredParameter)}
    (hdefaults : ∀ entry ∈ parameters, ∃ t, entry.2.parameter.default.toSorting = .ok t) :
    ∃ entries records, resolveAll s.resolver pairs parameters = ⟨.ok entries, records⟩
      ∧ List.Forall₂ (Reads s pairs) parameters entries := by
  induction parameters with
  | nil => exact ⟨[], [], rfl, .nil⟩
  | cons entry parameters ih =>
    obtain ⟨t, ht⟩ := hdefaults entry List.mem_cons_self
    obtain ⟨sorting, first, hfirst, hsays⟩ := DeclaredParameter.resolve_says hs ht pairs
    obtain ⟨entries, others, hothers, hreads⟩ :=
      ih fun other hother => hdefaults other (List.mem_cons_of_mem entry hother)
    refine ⟨(entry.1, SortingSchema.ofSorting sorting) :: entries, first ++ (others ++ []), ?_,
      .cons ⟨rfl, t, sorting, ht, hsays, rfl⟩ hreads⟩
    obtain ⟨label, p⟩ := entry
    unfold resolveAll
    rw [hfirst, hothers]
    rfl

/-! ## §2. What is declared under settings -/

namespace Service

variable {service start : Service} {action : Action} {actions : List Action}

/-- **What a declaration at a position gives a route** in a service: a parameter under its label,
whose name is made from the settings in force. -/
structure Names (service : Service) (d : Declaration × Nat) (entry : String × DeclaredParameter) :
    Prop where
  /-- The label is the one given, or the numbered one. -/
  label : Label.check (d.1.label.getD (.text (Label.numbered d.2))) = .ok entry.1
  /-- Qualifier and default are the declared ones. -/
  parameter : d.1.parameter = .ok entry.2.parameter
  /-- The name in queries is made from the settings in force. -/
  queryName : ∃ s, service.InForce s ∧ entry.2.queryName = s.nameOf entry.2.parameter.qualifier

/-- **What a service makes of a path and declarations.** -/
structure Declares (service : Service) (pattern : String) (declarations : List Declaration)
    (route : Route) : Prop where
  /-- The route answers the path. -/
  path : RoutePath.read pattern = .ok route.path
  /-- Its parameters are the declared ones; of several of one label the last one counts. -/
  parameters : ∃ entries, List.Forall₂ service.Names declarations.zipIdx entries
    ∧ route.parameters = Assignments.ofList entries

/-- A route keeps the path and the parameters it is made from. -/
theorem of_route_eq_ok {pattern : String} {made : List (Json × DeclaredParameter)} {route : Route}
    (h : Service.route pattern made = .ok route) :
    RoutePath.read pattern = .ok route.path
      ∧ ∃ entries : List (String × DeclaredParameter),
          List.Forall₂ (fun m entry => Label.check m.1 = .ok entry.1 ∧ entry.2 = m.2) made entries
            ∧ route.parameters = Assignments.ofList entries := by
  unfold Service.route at h
  obtain ⟨entries, hentries, h⟩ := Outcome.of_bind_eq_ok h
  obtain ⟨path, hpath, h⟩ := Outcome.of_bind_eq_ok h
  split at h
  · exact absurd h (by simp)
  · have hroute := (Except.ok.inj h).symm
    subst hroute
    refine ⟨hpath, entries, ?_, rfl⟩
    refine (Outcome.mapM_eq_ok_iff.mp hentries).imp fun m entry hlabel => ?_
    obtain ⟨label, hcheck, hentry⟩ := Outcome.of_bind_eq_ok hlabel
    rw [← Except.ok.inj hentry]
    exact ⟨hcheck, rfl⟩

/-- A route is declared when what it is made from was made under the settings in force. -/
theorem declares_of_route {pattern : String} {declarations : List Declaration}
    {made : List (Json × DeclaredParameter)} {route : Route}
    {R : Declaration × Nat → Json × DeclaredParameter → Prop}
    (hroute : Service.route pattern made = .ok route)
    (hmade : List.Forall₂ R declarations.zipIdx made)
    (hnames : ∀ d m label, R d m → Label.check m.1 = .ok label → service.Names d (label, m.2)) :
    service.Declares pattern declarations route := by
  obtain ⟨hpath, entries, hentries, hparameters⟩ := of_route_eq_ok hroute
  refine ⟨hpath, entries, Outcome.forall₂_trans ?_ hmade hentries, hparameters⟩
  rintro d m ⟨label, p⟩ hr ⟨hlabel, rfl⟩
  exact hnames d m label hr hlabel

/-- **A declaration adds the route it makes, or none**, and changes nothing but that and the
store. -/
theorem declare_cases (hcoherent : service.store.Coherent) (pattern : String)
    (declarations : List Declaration) :
    ∃ store, (service.declare pattern declarations).2 = { service with store }
      ∨ ∃ route, service.Declares pattern declarations route
          ∧ (service.declare pattern declarations).2
            = { service with store, routes := service.routes ++ [route] } := by
  cases declarations with
  | nil =>
    refine ⟨service.store, ?_⟩
    unfold declare declareFrom
    dsimp only
    split
    next => exact .inl rfl
    next route hroute =>
      -- nothing is named, so nothing needs settings
      refine .inr ⟨route, declares_of_route (R := fun _ _ => False) hroute .nil ?_, rfl⟩
      exact fun _ _ _ h => False.elim h
  | cons d declarations =>
    cases hd : d.parameter with
    | error error =>
      rw [declare_of_parameter_error hd]
      exact ⟨service.store, .inl rfl⟩
    | ok parameter =>
      obtain ⟨loaded, mid, hget⟩ | ⟨e, hget⟩ := Store.get_ok_or_error service.store service.host
      · obtain ⟨result, store, hfrom, _, hmade⟩ :=
          declaresUnder_of_get_ok hcoherent hd hget 0 declarations
        refine ⟨store, ?_⟩
        unfold declare
        rw [hfrom]
        cases result with
        | error error => exact .inl rfl
        | ok made =>
          dsimp only
          split
          next => exact .inl rfl
          next route hroute =>
            refine .inr ⟨route, declares_of_route hroute (hmade made rfl) ?_, rfl⟩
            intro d m label hmakes hlabel
            refine ⟨hmakes.label ▸ hlabel, hmakes.parameter, loaded.settings,
              inForce_of_get_ok hget, ?_⟩
            rw [hmakes.queryName, Resolver.parameterName_eq]
            rfl
      · rw [declare_of_get_error hcoherent hd hget]
        exact ⟨service.store, .inl rfl⟩

/-! ## §3. What actions do to routes -/

/-- A request changes nothing but the store. -/
theorem request_keeps (service : Service) (path query : String) :
    ∃ store, (service.request path query).2 = { service with store } := by
  unfold request
  split
  · exact ⟨service.store, rfl⟩
  · unfold requestRoute
    split
    · exact ⟨service.store, rfl⟩
    · exact ⟨service.store, rfl⟩
    · split
      · exact ⟨service.store, rfl⟩
      · unfold requestResolver
        dsimp only
        split
        · exact ⟨service.store, rfl⟩
        · exact ⟨_, rfl⟩

/-- Asking for paths changes nothing but the store. -/
theorem paths_keeps (service : Service) : ∃ store, service.paths.2 = { service with store } := by
  unfold paths
  split
  · exact ⟨_, rfl⟩
  · split
    · exact ⟨_, rfl⟩
    · exact ⟨_, rfl⟩

/-- **No action changes a route**: a declaration adds one, all else leaves them.  Only an override
changes the resolver that takes the place of the one of the settings. -/
theorem after_keeps (hcoherent : service.store.Coherent) (action : Action) :
    ((service.after action).routes = service.routes
        ∨ ∃ pattern declarations route, action = .declare pattern declarations
            ∧ service.Declares pattern declarations route
            ∧ (service.after action).routes = service.routes ++ [route])
      ∧ ((∀ resolver, action ≠ .override resolver) →
          (service.after action).override = service.override) := by
  cases action with
  | declare pattern declarations =>
    rw [after, perform_declare]
    obtain ⟨store, hsame | ⟨route, hdeclares, hadded⟩⟩ :=
      declare_cases hcoherent pattern declarations
    · rw [hsame]
      exact ⟨.inl rfl, fun _ => rfl⟩
    · rw [hadded]
      exact ⟨.inr ⟨pattern, declarations, route, rfl, hdeclares, rfl⟩, fun _ => rfl⟩
  | request path query =>
    -- a request changes the store at most
    obtain ⟨store, hsame⟩ := request_keeps service path query
    rw [after, perform_request, hsame]
    exact ⟨.inl rfl, fun _ => rfl⟩
  | paths =>
    obtain ⟨store, hsame⟩ := paths_keeps service
    have hafter : service.after .paths = service.paths.2 := rfl
    rw [hafter, hsame]
    exact ⟨.inl rfl, fun _ => rfl⟩
  | override resolver => exact ⟨.inl rfl, fun h => absurd rfl (h resolver)⟩
  | change _ | init _ | get | reset | resolver | document => exact ⟨.inl rfl, fun _ => rfl⟩

/-! ## §4. Routes along runs -/

/-- **Routes stay as they were declared**, in their order. -/
theorem routes_prefix_run (hcoherent : service.store.Coherent) (actions : List Action) :
    service.routes <+: (service.run actions).routes := by
  induction actions generalizing service with
  | nil => exact List.prefix_refl service.routes
  | cons action actions ih =>
    refine List.IsPrefix.trans ?_ (ih (coherent_after hcoherent action))
    obtain hsame | ⟨_, _, route, _, _, hadded⟩ := (after_keeps hcoherent action).1
    · rw [hsame]
    · rw [hadded]
      exact List.prefix_append service.routes [route]

/-- **Where a route comes from**: a declaration of the run made it, in the service that the actions
before led to. -/
def Declared (start : Service) (actions : List Action) (route : Route) : Prop :=
  ∃ before pattern declarations later,
    actions = before ++ .declare pattern declarations :: later
      ∧ (start.run before).Declares pattern declarations route

/-- **Every route was declared.** -/
theorem declared_run (hcoherent : start.store.Coherent) (hroutes : start.routes = [])
    (actions : List Action) {route : Route} (hroute : route ∈ (start.run actions).routes) :
    Declared start actions route := by
  induction actions using List.reverseRecOn with
  | nil =>
    rw [show start.run [] = start from rfl, hroutes] at hroute
    exact absurd hroute List.not_mem_nil
  | append_singleton actions action ih =>
    have hlater : route ∈ (start.run actions).routes →
        Declared start (actions ++ [action]) route := by
      intro hmem
      obtain ⟨before, pattern, declarations, later, hsplit, hdeclares⟩ := ih hmem
      refine ⟨before, pattern, declarations, later ++ [action], ?_, hdeclares⟩
      rw [hsplit, List.append_assoc, List.cons_append]
    rw [run_append] at hroute
    obtain hsame | ⟨pattern, declarations, added, rfl, hdeclares, hadded⟩ :=
      (after_keeps (coherent_run hcoherent actions) action).1
    · exact hlater (hsame ▸ hroute)
    · -- the last action added a route: this one, or one behind it
      have hmem : route ∈ (start.run actions).routes ++ [added] := hadded ▸ hroute
      rcases List.mem_append.mp hmem with hmem | hmem
      · exact hlater hmem
      · rw [List.mem_singleton.mp hmem]
        exact ⟨actions, pattern, declarations, [], rfl, hdeclares⟩

/-- **An action is plain** when it puts no resolver in the place of the one of the settings, and
declares only parameters whose defaults can be built. -/
def Action.Plain : Action → Prop
  | .override other => other = none
  | .declare _ declarations => ∀ d ∈ declarations, ∀ parameter, d.parameter = .ok parameter →
      ∃ t, parameter.default.toSorting = .ok t
  | _ => True

/-- Without overrides, the resolver of requests is the one of the settings. -/
theorem override_run (hcoherent : service.store.Coherent) (hoverride : service.override = none)
    (hplain : ∀ action ∈ actions, action.Plain) : (service.run actions).override = none := by
  induction actions generalizing service with
  | nil => exact hoverride
  | cons action actions ih =>
    refine ih (coherent_after hcoherent action) ?_ fun other h =>
      hplain other (List.mem_cons_of_mem action h)
    by_cases his : ∃ resolver, action = .override resolver
    · obtain ⟨resolver, rfl⟩ := his
      exact hplain _ List.mem_cons_self
    · rw [(after_keeps hcoherent action).2 (not_exists.mp his), hoverride]

/-- The defaults of a route can be built when those of its declarations can. -/
theorem default_of_declared (hplain : ∀ action ∈ actions, action.Plain) {route : Route}
    (h : Declared start actions route) {entry : String × DeclaredParameter}
    (hentry : entry ∈ route.parameters) :
    ∃ t, entry.2.parameter.default.toSorting = .ok t := by
  obtain ⟨before, pattern, declarations, later, rfl, hdeclares⟩ := h
  obtain ⟨entries, hnames, hparameters⟩ := hdeclares.parameters
  rw [hparameters] at hentry
  obtain ⟨d, hd, hname⟩ :=
    Outcome.exists_mem_of_forall₂ hnames (Assignments.mem_of_mem_ofList hentry)
  have hdeclare := hplain (.declare pattern declarations)
    (List.mem_append_right before List.mem_cons_self)
  exact hdeclare d.1 (List.fst_mem_of_mem_zipIdx hd) _ hname.parameter

/-- The route that answers a path is one of the service. -/
theorem mem_of_firstFor? {path : String} {routes : List Route} {route : Route}
    (h : firstFor? path routes = .ok (some route)) : route ∈ routes := by
  induction routes with
  | nil => exact absurd h (by simp [firstFor?])
  | cons first routes ih =>
    unfold firstFor? at h
    split at h
    · exact absurd h (by simp)
    · rw [Option.some.inj (Except.ok.inj h)]
      exact List.mem_cons_self
    · exact List.mem_cons_of_mem first (ih h)

/-! ## §5. Names are frozen -/

/-- **Names are frozen, and all else follows the settings**, in the service `now` that a run from
`start` leads to. -/
structure NamesFrozen (start : Service) (actions : List Action) (now : Service) : Prop where
  /-- Routes are there for good, and stay as they are. -/
  kept : ∀ before, before <+: actions → (start.run before).routes <+: now.routes
  /-- Each was declared, with names from the settings in force at that moment. -/
  declared : ∀ route ∈ now.routes, Declared start actions route
  /-- Settings are in force, be they loaded now, or loading them fails and changes nothing. -/
  settings : (∃ s, now.InForce s) ∨ ∃ e, now.perform .get = (Traced.fail (.settings e), now)
  /-- A request reads the texts under the names of its route, under the settings in force now,
  which stay in force. -/
  request : ∀ path query route s, Page.of? path = none → now.routeFor? path = .ok (some route) →
    route.parameters ≠ [] → now.InForce s →
    route ∈ now.routes
      ∧ ∃ entries records,
          (now.perform (.request path query)).1 = ⟨.ok (.response (.sorts entries)), records⟩
            ∧ List.Forall₂ (Reads s (QueryString.received query)) route.parameters entries
            ∧ (now.after (.request path query)).InForce s
  /-- A request whose settings cannot be loaded fails, and changes nothing. -/
  request_failed : ∀ path query route e, Page.of? path = none →
    now.routeFor? path = .ok (some route) → route.parameters ≠ [] →
    now.perform .get = (Traced.fail (.settings e), now) →
    now.perform (.request path query) = (Traced.fail (.settings e), now)
  /-- So does a declaration. -/
  declare_failed : ∀ pattern d declarations parameter e, d.parameter = .ok parameter →
    now.perform .get = (Traced.fail (.settings e), now) →
    now.perform (.declare pattern (d :: declarations)) = (Traced.fail (.settings e), now)

/-- **Names are frozen, and all else follows the settings**, after every run of plain actions from
an empty store without routes. -/
theorem namesFrozen_run (hstore : start.store = {}) (hroutes : start.routes = [])
    (hoverride : start.override = none) (hplain : ∀ action ∈ actions, action.Plain) :
    NamesFrozen start actions (start.run actions) := by
  have hempty : start.store.Coherent := hstore ▸ Store.coherent_empty
  have hnow := coherent_run hempty actions
  have hnone := override_run hempty hoverride hplain
  constructor
  case kept =>
    rintro before ⟨later, rfl⟩
    rw [run_append]
    exact routes_prefix_run (coherent_run hempty before) later
  case declared => exact fun route hroute => declared_run hempty hroutes actions hroute
  case settings =>
    obtain ⟨loaded, mid, hget⟩ | ⟨e, hget⟩ :=
      Store.get_ok_or_error (start.run actions).store (start.run actions).host
    · exact .inl ⟨loaded.settings, inForce_of_get_ok hget⟩
    · exact .inr ⟨e, perform_of_get_error hnow rfl hget⟩
  case request =>
    rintro path query route _ hpage hroute hparameters ⟨loaded, next, hasked, rfl⟩
    have hmem := mem_of_firstFor? hroute
    -- the resolver is the one of the settings asked for, and it reads every parameter
    obtain ⟨mid, hget, _⟩ := get_of_perform_get hasked
    obtain ⟨first, store, hresolver, hextends⟩ := requestResolver_of_get_ok hnow hnone hget
    obtain ⟨entries, others, hentries, hreads⟩ :=
      Route.resolveAll_eq (Store.filled_of_get_ok hnow hget) (QueryString.received query)
        fun entry => default_of_declared hplain (declared_run hempty hroutes actions hmem)
    obtain ⟨kept, hkept, hsame⟩ := hextends.current_eq_some (Store.current_of_get_ok hget)
    have hsettings : kept.settings = loaded.settings := congrArg Prod.snd hsame
    refine ⟨hmem, entries, first ++ (others ++ []), ?_, hreads, ?_⟩
    · rw [perform_request, request_of_route hpage hroute hparameters, hresolver]
      simp only [Traced.bind_ok, hentries, Traced.mapError]
      rfl
    · rw [after, perform_request, request_of_route hpage hroute hparameters, hresolver, ← hsettings]
      exact inForce_of_get_ok (Store.get_of_current hkept)
  case request_failed =>
    intro path query route e hpage hroute hparameters hasked
    refine perform_of_get_error hnow ?_ (get_error_of_perform_get hasked)
    exact asks_request_iff.mpr ⟨hpage, hnone, route, hroute, hparameters⟩
  case declare_failed =>
    intro pattern d declarations parameter e hd hasked
    refine perform_of_get_error hnow ?_ (get_error_of_perform_get hasked)
    show d.parameter.toBool = true
    rw [hd]
    rfl

/-- A route is declared while parameters are named `order`, and settings that name them `rank` and
cut with semicolons are loaded after it: a request is still read under `book_order`, but cut with
semicolons. -/
theorem namesFrozen_run_renamed :
    let d : Declaration :=
      { label := some (.text "books"), properties := [.text "id"], qualifier := some "book" }
    let actions : List Action := [.change [.set "SORT_PARAMETER" "order"], .declare "/books" [d],
      .change [.set "SORT_PARAMETER" "rank", .set "SORT_PROPERTY_DELIMITER" ";"], .init none]
    let now : Service := run {} actions
    let s : Settings := { sortParameter := "rank", propertyDelimiter := ";" }
    let query : String := "book_order=name;desc&book_rank=age"
    (now.routes.map fun route => route.parameters.map fun entry => entry.2.queryName)
        = [["book_order"]]
      ∧ ∃ route ∈ now.routes, ∃ entries records,
          (now.perform (.request "/books" query)).1 = ⟨.ok (.response (.sorts entries)), records⟩
            ∧ List.Forall₂ (Reads s (QueryString.received query)) route.parameters entries := by
  intro d actions now s query
  have hplain : ∀ action ∈ actions, action.Plain := by
    refine List.forall_mem_cons.mpr ⟨trivial, List.forall_mem_cons.mpr ⟨?_, ?_⟩⟩
    · intro declared hdeclared parameter hparameter
      rw [List.mem_singleton.mp hdeclared] at hparameter
      rw [← Except.ok.inj hparameter]
      exact ⟨⟨[⟨"id", .asc⟩]⟩, rfl⟩
    · exact List.forall_mem_cons.mpr ⟨trivial, List.forall_mem_cons.mpr ⟨trivial, by simp⟩⟩
  have hcurrent : now.store.current = some { serial := 2, settings := s } := by decide +kernel
  have hasks : now.asks (.request "/books" query) = true := by decide +kernel
  obtain ⟨hpage, _, route, hroute, hparameters⟩ := asks_request_iff.mp hasks
  obtain ⟨hmem, entries, records, hanswer, hreads, _⟩ :=
    (namesFrozen_run rfl rfl rfl hplain).request "/books" query route s hpage hroute hparameters
      (inForce_of_get_ok (Store.get_of_current hcurrent))
  exact ⟨by decide +kernel, route, hmem, entries, records, hanswer, hreads⟩

end Service

end OrderBy
