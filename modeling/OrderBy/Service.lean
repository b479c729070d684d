/-
  OrderBy.Service — routes whose requests are sorted.

  A route declares sort parameters.  The name that a parameter has in queries
  is fixed when the route is declared, by the resolver of that moment; all
  else follows the resolver of the request.  The default of a parameter is
  built on every request, before its values are read, so a bad one fails every
  request.

  Every sort has a label in responses.  It has the form of a name and is no
  reserved word; labels are given as values, of which only texts can be labels.

  A service has pages about itself, whose paths come before those of routes.

  `Service.perform` is the service as a state machine: one action at a time,
  with its answer and the service after it.
-/
import OrderBy.QueryString
import OrderBy.RoutePath
import OrderBy.Schema
import OrderBy.Settings.Store
import OrderBy.Text.Identifier

namespace OrderBy

/-! ## §1. Labels -/

namespace Label

/-- The label of the parameter at a position that has no other one. -/
def numbered (position : Nat) : String := "sort" ++ toString position

/-- Can a value be told from other ones by looking it up?  Lists and objects cannot. -/
def checkKey (value : Json) : Except RouteError Unit :=
  match value with
  | .list _ | .object _ => .error (.compoundLabel value)
  | _ => .ok ()

/-- Check a label that is a text. -/
def checkText (label : String) : Except RouteError Unit :=
  match label.toList with
  | [] => .error .emptyLabel
  | c :: rest =>
    if c = '.' ∧ !rest.isEmpty ∧ rest.all Text.isDigit then .error .numberedLabel
    else if Text.reservedWords.contains label || !Text.isIdentifier (c :: rest) then
      .error (.badLabel label)
    else .ok ()

/-- **Check a label.** -/
def check : Json → Except RouteError String
  | .text label => (checkText label).map fun _ => label
  | value => .error (.labelNotText value)

end Label

/-! ## §2. Declared parameters -/

/-- **The declaration of a sort parameter.**  Its default is given by properties with a
direction, or as a whole, but not by both. -/
structure Declaration where
  /-- The value given for the name of its sort in the response, if any. -/
  label : Option Json := none
  /-- The properties of the default. -/
  properties : List Json := []
  /-- The direction of those properties. -/
  direction : DirectionChoice := .known .asc
  /-- The default as a whole. -/
  default : DefaultParts := .nothing
  /-- The qualifier. -/
  qualifier : Option String := none
  deriving Repr, Inhabited

/-- The parameter that is declared. -/
def Declaration.parameter (d : Declaration) : Except SortError Parameter :=
  match d.default.build with
  | .error e => .error e
  | .ok default =>
    if d.properties.isEmpty then .ok { qualifier := d.qualifier, default }
    else if default.isDeclared then .error .defaultGivenTwice
    else
      .ok {
        qualifier := d.qualifier
        default := .single { properties := d.properties, direction := d.direction } }

/-- **A declared sort parameter**, with the name it has in queries for good. -/
structure DeclaredParameter where
  /-- Its name in queries. -/
  queryName : String
  /-- Its qualifier and default. -/
  parameter : Parameter
  deriving Repr, Inhabited

/-- The values of a query that a parameter is handed: none at all if its name is absent. -/
def DeclaredParameter.handed (p : DeclaredParameter) (pairs : List (String × String)) :
    Option (List String) :=
  let values := (pairs.filter (·.1 == p.queryName)).map (·.2)
  if values.isEmpty then none else some values

/-- **Resolve a declared parameter** from the values it is handed. -/
def DeclaredParameter.resolve (p : DeclaredParameter) (r : Resolver)
    (values : Option (List String)) : Traced SortError Sorting := do
  let fallback ← Traced.of p.parameter.defaultSorting
  r.resolve ((values.getD []).map Json.text) p.parameter.qualifier fallback

/-! ## §3. Routes -/

/-- **A route.** -/
structure Route where
  /-- The path it answers. -/
  path : RoutePath
  /-- Its sort parameters, by their labels. -/
  parameters : List (String × DeclaredParameter) := []
  deriving Repr, Inhabited

/-- Resolve parameters in order; the first that fails ends it. -/
def Route.resolveAll (r : Resolver) (pairs : List (String × String)) :
    List (String × DeclaredParameter) → Traced SortError (List (String × SortingSchema))
  | [] => pure []
  | (label, p) :: rest => do
    let sorting ← p.resolve r (p.handed pairs)
    let others ← Route.resolveAll r pairs rest
    pure ((label, SortingSchema.ofSorting sorting) :: others)

/-! ## §4. Responses -/

/-- **A page about a service**, which it has by itself. -/
inductive Page where
  /-- The description of its routes for programs. -/
  | description
  /-- A document for people. -/
  | document
  deriving DecidableEq, Repr, Inhabited

/-- The pages by their paths. -/
def Page.all : List (String × Page) :=
  [("/openapi.json", .description), ("/docs", .document), ("/docs/oauth2-redirect", .document),
   ("/redoc", .document)]

/-- **The page of a path**, at whose end a line feed is passed over. -/
def Page.of? (path : String) : Option Page :=
  (Page.all.find? fun (own, _) => path == own || path == own ++ "\n").map (·.2)

/-- How a document starts. -/
def Page.opening : String := "\n    <!DOCTYPE html>\n    <html>\n"

/-- **What a request is answered with.** -/
inductive Response where
  /-- No route answers the path. -/
  | notFound
  /-- Another path has to be asked for, which some route answers. -/
  | redirected
  /-- The sort of each parameter, under its label. -/
  | sorts (entries : List (String × SortingSchema))
  /-- The description of the service. -/
  | description (value : Json)
  /-- A document. -/
  | document
  deriving Repr, Inhabited

/-- What a response holds. -/
inductive Response.Body where
  /-- A value. -/
  | value (value : Json)
  /-- A text, which may be empty. -/
  | text (text : String)
  deriving Repr, Inhabited

namespace Response

/-- The status of a response. -/
def status : Response → Nat
  | .notFound => 404
  | .redirected => 307
  | .sorts _ | .description _ | .document => 200

/-- The body of a response; a redirection has none. -/
def body : Response → Body
  | .notFound => .value (.object [("detail", .text "Not Found")])
  | .redirected => .text ""
  | .sorts entries => .value (.object (entries.map fun entry => (entry.1, entry.2.toJson)))
  | .description value => .value value
  | .document => .text Page.opening

end Response

/-! ## §5. Documentation -/

/-- **A documented query parameter.** -/
structure DocumentedParameter where
  /-- Its name in queries. -/
  name : String
  /-- Where it is given. -/
  place : String := "query"
  /-- Has it to be given? -/
  required : Bool := false
  /-- Its title. -/
  title : String := "Sort"
  /-- What it is for. -/
  description : String :=
    "Sort the list of items by properties followed by an optional direction, repeat the parameter to add sorts (ex. 'sort=lastname,firstname,asc&sort=age,desc')"
  deriving DecidableEq, Repr, Inhabited

/-- The documented parameters of a route: each name once, where it first stands. -/
def Route.documented (route : Route) : List DocumentedParameter :=
  (route.parameters.map (·.2.queryName)).eraseDups.map fun name => { name }

/-- A documented parameter as a value. -/
def DocumentedParameter.toJson (p : DocumentedParameter) : Json :=
  .object [("name", .text p.name), ("in", .text p.place), ("required", .bool p.required),
    ("description", .text p.description), ("title", .text p.title)]

/-! ## §6. The service -/

/-- **A service**: the host it runs on, its settings, its routes, and a resolver that takes the
place of the one of the settings, if any. -/
structure Service where
  /-- The host. -/
  host : Host := {}
  /-- The settings and what is built from them. -/
  store : Settings.Store := {}
  /-- The routes, in the order declared. -/
  routes : List Route := []
  /-- The resolver that takes the place of the one of the settings. -/
  override : Option Resolver := none
  /-- The title under which it is described. -/
  title : String := ""
  /-- The version of what it offers. -/
  version : String := "0.1.0"
  deriving Repr, Inhabited

namespace Service

/-- Declare one parameter: it is checked first, and then named by the resolver of the settings in
force. -/
def declareOne (service : Service) (d : Declaration) :
    Except Failure DeclaredParameter × Service :=
  match d.parameter with
  | .error e => (.error (.sort e), service)
  | .ok parameter =>
    let (run, store) := service.store.getResolver service.host
    let named (built : Settings.BuiltResolver) : DeclaredParameter := {
      queryName := built.resolver.parameterName parameter.qualifier
      parameter }
    (run.outcome.map named, { service with store })

/-- Declare parameters in order, each beside the value given for its label; the first that fails
ends it. -/
def declareFrom (service : Service) (position : Nat) :
    List Declaration → Except Failure (List (Json × DeclaredParameter)) × Service
  | [] => (.ok [], service)
  | d :: rest =>
    let label := d.label.getD (.text (Label.numbered position))
    match service.declareOne d, Label.checkKey label with
    | (.error e, service), _ => (.error e, service)
    | (.ok _, service), .error e => (.error (.route e), service)
    | (.ok declared, service), .ok () =>
      match service.declareFrom (position + 1) rest with
      | (.error e, service) => (.error e, service)
      | (.ok others, service) => (.ok ((label, declared) :: others), service)

/-- The name under which sort parameters are handed their values. -/
def valuesName : String := "values"

/-- The route of a path and of parameters.  Of several parameters of one label the last one
counts, in the place of the first; labels are checked before the path. -/
def route (path : String) (parameters : List (Json × DeclaredParameter)) :
    Except RouteError Route := do
  let labelled ← parameters.mapM fun (label, p) => do return (← Label.check label, p)
  let path ← RoutePath.read path
  if !labelled.isEmpty && path.mentions valuesName then .error (.takenName valuesName)
  else .ok { path, parameters := Assignments.ofList labelled }

/-- **Declare a route**; one with a bad parameter, label or path is not made. -/
def declare (service : Service) (path : String) (declarations : List Declaration) :
    Except Failure Route × Service :=
  match service.declareFrom 0 declarations with
  | (.error e, service) => (.error e, service)
  | (.ok parameters, service) =>
    match route path parameters with
    | .error e => (.error (.route e), service)
    | .ok route => (.ok route, { service with routes := service.routes ++ [route] })

/-- The resolver that requests are resolved with. -/
def requestResolver (service : Service) : Traced Failure Resolver × Service :=
  match service.override with
  | some resolver => (pure resolver, service)
  | none =>
    let (run, store) := service.store.getResolver service.host
    (⟨run.outcome.map (·.resolver), run.records⟩, { service with store })

/-- The first of some routes that answers a path. -/
def firstFor? (path : String) : List Route → Except Text.LongNumber (Option Route)
  | [] => .ok none
  | route :: rest =>
    match route.path.answers path with
    | .error e => .error e
    | .ok true => .ok (some route)
    | .ok false => firstFor? path rest

/-- **The first route that answers a path.** -/
def routeFor? (service : Service) (path : String) : Except Text.LongNumber (Option Route) :=
  firstFor? path service.routes

/-- **The documented parameters of each path**; of several routes of a path the last one
counts. -/
def documented (service : Service) : List (String × List DocumentedParameter) :=
  Assignments.ofList (service.routes.map fun route => (route.path.shown, route.documented))

/-- The description of a service. -/
def description (service : Service) : Json :=
  let path (entry : String × List DocumentedParameter) : String × Json :=
    (entry.1, .object [("get", .object [
      ("parameters", .list (entry.2.map DocumentedParameter.toJson))])])
  .object [("openapi", .text "3.1.0"),
    ("info", .object [("title", .text service.title), ("version", .text service.version)]),
    ("paths", .object (service.documented.map path))]

/-- The response that a page is. -/
def pageResponse (service : Service) : Page → Response
  | .description => .description service.description
  | .document => .document

/-- Does a page or a route answer a path? -/
def answers (service : Service) (path : String) : Except Text.LongNumber Bool :=
  if (Page.of? path).isSome then .ok true else (service.routeFor? path).map Option.isSome

/-- The response to a path that neither a page nor a route answers. -/
def unanswered (service : Service) (path : String) : Except Text.LongNumber Response :=
  if path = "/" then .ok .notFound
  else
    (service.answers (RoutePath.redirected path)).map fun found =>
      if found then .redirected else .notFound

/-- Answer a request by the routes: the route of its path resolves its parameters. -/
def requestRoute (service : Service) (path query : String) : Traced Failure Response × Service :=
  match service.routeFor? path with
  | .error e => (Traced.of (.error (.number (.long e))), service)
  | .ok none => (Traced.of ((service.unanswered path).mapError fun e => .number (.long e)), service)
  | .ok (some route) =>
    if route.parameters.isEmpty then (pure (.sorts []), service)
    else
      let (run, service) := service.requestResolver
      let answer : Traced Failure Response := do
        let resolver ← run
        let entries ←
          (Route.resolveAll resolver (QueryString.received query) route.parameters).mapError
            Failure.sort
        pure (.sorts entries)
      (answer, service)

/-- **Answer a request**, by a page if there is one, else by the routes.  Path and query are taken
as they are given. -/
def request (service : Service) (path query : String) : Traced Failure Response × Service :=
  match Page.of? path with
  | some page => (pure (service.pageResponse page), service)
  | none => service.requestRoute path query

/-! ## §7. The service as a state machine -/

/-- **What can be done to a service.** -/
inductive Action where
  /-- Change the host. -/
  | change (changes : List Host.Change)
  /-- Load settings anew. -/
  | init (envFile : Option String)
  /-- Ask for the settings in force. -/
  | get
  /-- Forget the settings in force. -/
  | reset
  /-- Ask for the paths of the settings in force. -/
  | paths
  /-- Ask for the resolver of the settings in force. -/
  | resolver
  /-- Declare a route. -/
  | declare (path : String) (declarations : List Declaration)
  /-- Put a resolver in the place of the one of the settings, or end that. -/
  | override (resolver : Option Resolver)
  /-- Answer a request. -/
  | request (path query : String)
  /-- Ask for the documentation. -/
  | document
  deriving Repr, Inhabited

/-- **What an action is answered with.** -/
inductive Answer where
  /-- Nothing but that it was done. -/
  | done
  /-- Settings in force. -/
  | settings (loaded : Settings.Loaded)
  /-- The paths of the project directory and the log file. -/
  | paths (project log : String)
  /-- A resolver. -/
  | resolver (built : Settings.BuiltResolver)
  /-- The answer to a request. -/
  | response (response : Response)
  /-- The documentation. -/
  | documented (entries : List (String × List DocumentedParameter))
  deriving Repr, Inhabited

/-- An answer that loading settings gives. -/
def answerLoaded (service : Service)
    (result : Except Settings.LoadError Settings.Loaded × Settings.Store) :
    Traced Failure Answer × Service :=
  (Traced.of ((result.1.mapError Failure.settings).map .settings),
    { service with store := result.2 })

/-- The paths of the settings in force, that of the project directory first. -/
def paths (service : Service) : Except Failure (String × String) × Service :=
  match service.store.projectPath service.host with
  | (.error found, store) => (.error (.settings found), { service with store })
  | (.ok project, store) =>
    match store.logPath service.host with
    | (.error found, store) => (.error (.settings found), { service with store })
    | (.ok log, store) => (.ok (project, log), { service with store })

/-- **Do one thing.** -/
def perform (service : Service) : Action → Traced Failure Answer × Service
  | .change changes =>
    (pure .done, { service with host := changes.foldl Host.change service.host })
  | .init envFile => service.answerLoaded (service.store.init service.host envFile)
  | .get => service.answerLoaded (service.store.get service.host)
  | .reset => (pure .done, { service with store := service.store.reset })
  | .paths =>
    let (found, service) := service.paths
    (Traced.of (found.map fun (project, log) => .paths project log), service)
  | .resolver =>
    let (run, store) := service.store.getResolver service.host
    (⟨run.outcome.map .resolver, run.records⟩, { service with store })
  | .declare path declarations =>
    let (declared, service) := service.declare path declarations
    (Traced.of (declared.map fun _ => .done), service)
  | .override resolver => (pure .done, { service with override := resolver })
  | .request path query =>
    let (run, service) := service.request path query
    (⟨run.outcome.map .response, run.records⟩, service)
  | .document => (pure (.documented service.documented), service)

/-- The service after an action. -/
def after (service : Service) (action : Action) : Service :=
  (service.perform action).2

/-- **The service after a run** of actions. -/
def run (service : Service) (actions : List Action) : Service :=
  actions.foldl after service

end Service

end OrderBy
