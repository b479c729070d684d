/-
  OrderBy.Proofs.Service.Caches — settings and their resolver over whole runs.

  Settings are loaded by `init`, or by whatever asks for them first, and the
  resolver is built from them later, by another action.  In between there may be
  loads that fail, loads that succeed, and changes of the host.  The statements
  are about the service that any run of actions leads to from an empty store.

  Each is a fact of one action carried along the run: an action loads settings,
  forgets them, or extends the store.  After a load only an `init` loads again
  before settings are forgotten (`not_loads_of_current`), so the latest load of
  a run is the one behind which none of both happens (`Keeps`, `LatestLoad`).

  Main results:
    * `extends_run_of_keeps` — a run that keeps the settings extends the store;
    * `latestLoad_iff` — the object in force is the one of the latest load;
    * `cachesAgree_run` — settings and resolver agree after every run.
-/
import OrderBy.Proofs.Service.Loading

namespace OrderBy

open Settings (Loaded LoadError Store BuiltResolver)

namespace Service

variable {service start : Service} {loaded : Loaded} {action : Action} {actions more : List Action}

/-! ## §1. Runs that keep the settings -/

/-- **A run keeps the settings in force** when it does not forget them and no `init` in it
succeeds. -/
def Keeps : Service → List Action → Prop
  | _, [] => True
  | service, action :: rest =>
    action ≠ .reset
      ∧ (∀ envFile settings, action = .init envFile → ¬ service.Loads action settings)
      ∧ Keeps (service.after action) rest

theorem keeps_append :
    service.Keeps (actions ++ more) ↔ service.Keeps actions ∧ (service.run actions).Keeps more := by
  induction actions generalizing service with
  | nil =>
    show _ ↔ True ∧ _
    rw [true_and]
    rfl
  | cons action actions ih =>
    show (_ ∧ _ ∧ Keeps (service.after action) (actions ++ more)) ↔ _
    rw [ih]
    show (_ ∧ _ ∧ _ ∧ _) ↔ (_ ∧ _ ∧ _) ∧ _
    rw [and_assoc, and_assoc]
    rfl

/-- Where settings are in force, only `init` loads. -/
theorem not_loads_of_current (hcurrent : service.store.current = some loaded)
    (hinit : ∀ envFile settings, action = .init envFile → ¬ service.Loads action settings)
    (settings : Settings) : ¬ service.Loads action settings := by
  intro hloads
  by_cases his : ∃ envFile, action = .init envFile
  · obtain ⟨envFile, rfl⟩ := his
    exact hinit envFile settings rfl hloads
  · obtain ⟨file, hsource, _⟩ := hloads
    rw [source?_of_current hcurrent (not_exists.mp his)] at hsource
    exact absurd hsource (by simp)

/-- **A run that keeps the settings in force extends the store**, be there loads that fail, changes
of the host, or requests. -/
theorem extends_run_of_keeps (hcoherent : service.store.Coherent)
    (hcurrent : service.store.current = some loaded) (hkeeps : service.Keeps actions) :
    service.store.Extends (service.run actions).store := by
  induction actions generalizing service loaded with
  | nil => exact Store.Extends.refl service.store
  | cons action actions ih =>
    -- there are settings before each action, so only an `init` could load
    obtain ⟨hreset, hinit, hrest⟩ := hkeeps
    have hstep :=
      extends_after_of_not_loads hcoherent hreset (not_loads_of_current hcurrent hinit)
    obtain ⟨kept, hkept, _⟩ := hstep.current_eq_some hcurrent
    exact hstep.trans (ih (coherent_after hcoherent action) hkept hrest)

/-! ## §2. The latest load -/

/-- **The latest load of a run** since settings were last forgotten, by the object it made: the
number that was next, and the settings that were accepted. -/
def LatestLoad (start : Service) (actions : List Action) (object : Nat × Settings) : Prop :=
  ∃ before action after, actions = before ++ action :: after
    ∧ (start.run before).Loads action object.2
    ∧ object.1 = (start.run before).store.next
    ∧ (start.run (before ++ [action])).Keeps after

/-- A load puts a new object in force. -/
theorem identity_after_of_loads {settings : Settings} (hcoherent : service.store.Coherent)
    (h : service.Loads action settings) :
    (service.after action).store.current.map Loaded.identity
      = some (service.store.next, settings) :=
  (extends_after_of_loads hcoherent h).current

theorem run_concat (service : Service) (actions : List Action) (action : Action) :
    service.run (actions ++ [action]) = (service.run actions).after action :=
  run_append service actions [action]

/-- What a latest load made is in force. -/
theorem identity_of_latestLoad {object : Nat × Settings} (hcoherent : start.store.Coherent)
    (h : LatestLoad start actions object) :
    (start.run actions).store.current.map Loaded.identity = some object := by
  obtain ⟨before, action, after, rfl, hloads, hnumber, hkeeps⟩ := h
  have hbefore := coherent_run hcoherent before
  -- the object is in force right after the load, and what follows keeps it
  have hmade := identity_after_of_loads hbefore hloads
  rw [← run_concat, ← hnumber] at hmade
  obtain ⟨loaded, hloaded, _⟩ := Option.map_eq_some_iff.mp hmade
  have hrun := (extends_run_of_keeps (coherent_run hcoherent _) hloaded hkeeps).current
  rw [← run_append, List.append_assoc, List.singleton_append] at hrun
  exact hrun.trans hmade

/-- What is in force was made by a latest load. -/
theorem latestLoad_of_current (hstart : start.store.current = none)
    (hcoherent : start.store.Coherent) (actions : List Action)
    (hcurrent : (start.run actions).store.current = some loaded) :
    LatestLoad start actions loaded.identity := by
  induction actions using List.reverseRecOn generalizing loaded with
  | nil => exact absurd (hstart.symm.trans hcurrent) (by simp)
  | append_singleton actions action ih =>
    rw [run_concat] at hcurrent
    have hbefore := coherent_run hcoherent actions
    obtain ⟨_, hreset⟩ | ⟨settings, hloads, hmade⟩ | ⟨hreset, hnone, hstep⟩ :=
      store_after_cases hbefore action
    · rw [hreset] at hcurrent
      exact absurd hcurrent (by simp [Store.reset])
    · -- this action loaded the object, and nothing came after it
      have hidentity := hmade.current
      rw [hcurrent, Option.map_some] at hidentity
      rw [Option.some.inj hidentity]
      exact ⟨actions, action, [], rfl, hloads, rfl, trivial⟩
    · -- nothing was loaded, so the object was in force before, and this action kept it
      have hidentity := hstep.current
      rw [hcurrent, Option.map_some] at hidentity
      obtain ⟨former, hformer, hsame⟩ := Option.map_eq_some_iff.mp hidentity.symm
      obtain ⟨before, load, between, hsplit, hload, hnumber, hkeeps⟩ := ih hformer
      rw [← hsame]
      refine ⟨before, load, between ++ [action], ?_, hload, hnumber, ?_⟩
      · rw [hsplit, List.append_assoc, List.cons_append]
      · refine keeps_append.mpr ⟨hkeeps, hreset, fun _ settings _ => ?_, trivial⟩
        rw [← run_append, List.append_assoc, List.singleton_append, ← hsplit]
        exact hnone settings

/-- **The object in force is the one of the latest load.** -/
theorem latestLoad_iff (hstart : start.store = {}) (object : Nat × Settings) :
    LatestLoad start actions object
      ↔ (start.run actions).store.current.map Loaded.identity = some object := by
  have hcoherent : start.store.Coherent := hstart ▸ Store.coherent_empty
  constructor
  · exact identity_of_latestLoad hcoherent
  · intro h
    obtain ⟨loaded, hloaded, rfl⟩ := Option.map_eq_some_iff.mp h
    exact latestLoad_of_current (by rw [hstart]) hcoherent actions hloaded

/-! ## §3. Numbers -/

/-- No action takes a number back. -/
theorem next_le_after (hcoherent : service.store.Coherent) (action : Action) :
    service.store.next ≤ (service.after action).store.next := by
  obtain ⟨_, hreset⟩ | ⟨settings, _, hextends⟩ | ⟨_, _, hextends⟩ :=
    store_after_cases hcoherent action
  · rw [hreset]
    exact Nat.le_refl service.store.next
  · exact Nat.le_trans (Nat.le_succ service.store.next) hextends.next
  · exact hextends.next

theorem next_le_run (hcoherent : service.store.Coherent) (actions : List Action) :
    service.store.next ≤ (service.run actions).store.next := by
  induction actions generalizing service with
  | nil => exact Nat.le_refl service.store.next
  | cons action actions ih =>
    exact Nat.le_trans (next_le_after hcoherent action) (ih (coherent_after hcoherent action))

/-! ## §4. Answers -/

theorem perform_get_of_current (hcurrent : service.store.current = some loaded) :
    service.perform .get = (pure (.settings loaded), service) := by
  rw [perform_get, Store.get_of_current hcurrent]
  rfl

theorem perform_resolver (service : Service) :
    service.perform .resolver
      = (⟨(service.store.getResolver service.host).1.outcome.map .resolver,
          (service.store.getResolver service.host).1.records⟩,
        { service with store := (service.store.getResolver service.host).2 }) := rfl

/-- A resolver that is kept is answered with as it is. -/
theorem perform_resolver_of_kept {built : BuiltResolver}
    (hkept : service.store.resolver = some built) :
    service.perform .resolver = (pure (.resolver built), service) := by
  rw [perform_resolver]
  unfold Store.getResolver
  rw [hkept]
  rfl

/-- Where settings can be had, a resolver of them is answered with: the one that is kept, or one with
a new number, which is kept from then on. -/
theorem perform_resolver_of_get_ok {mid : Store} (hcoherent : service.store.Coherent)
    (hget : service.store.get service.host = (.ok loaded, mid)) :
    ∃ built records next, service.perform .resolver = (⟨.ok (.resolver built), records⟩, next)
      ∧ built.source = loaded.serial ∧ next.store.resolver = some built
      ∧ (service.store.resolver = some built ∨ service.store.next ≤ built.serial) := by
  obtain ⟨built, records, store, hresolver, _, hkept, hsource, _, hnew⟩ :=
    Store.getResolver_of_get_ok hcoherent hget
  refine ⟨built, records, { service with store }, ?_, hsource, hkept,
    hnew.imp_right (Nat.le_trans (Store.next_le_of_get_ok hget))⟩
  rw [perform_resolver, hresolver]
  rfl

/-- A resolver that is answered with is kept. -/
theorem kept_of_perform_resolver {built : BuiltResolver} {records : List Record} {next : Service}
    (hcoherent : service.store.Coherent)
    (h : service.perform .resolver = (⟨.ok (.resolver built), records⟩, next)) :
    next.store.resolver = some built := by
  obtain ⟨loaded, mid, hget⟩ | ⟨e, hget⟩ := Store.get_ok_or_error service.store service.host
  · obtain ⟨found, _, _, hanswer, _, hkept, _⟩ := perform_resolver_of_get_ok hcoherent hget
    rw [h, Prod.mk.injEq] at hanswer
    have hbuilt : built = found :=
      Answer.resolver.inj (Except.ok.inj (congrArg Traced.outcome hanswer.1))
    rw [hanswer.2, hbuilt, hkept]
  · rw [perform_of_get_error hcoherent rfl hget, Prod.mk.injEq] at h
    exact absurd (congrArg Traced.outcome h.1) (by simp [Traced.fail, Traced.of])

/-- Changes of the host change nothing else. -/
theorem run_changes (service : Service) (changes : List (List Host.Change)) :
    ∃ host, service.run (changes.map .change) = { service with host } := by
  induction changes generalizing service with
  | nil => exact ⟨service.host, rfl⟩
  | cons first changes ih =>
    obtain ⟨host, hrun⟩ := ih (service.after (.change first))
    exact ⟨host, hrun⟩

/-! ## §5. Settings and resolver agree -/

/-- **Settings and resolver agree** in the service `now` that a run from `start` leads to.  An
object is told from others by its number. -/
structure CachesAgree (start : Service) (actions : List Action) (now : Service) : Prop where
  /-- A resolver is kept only beside settings, and is the one built from that very object. -/
  resolver : ∀ built, now.store.resolver = some built →
    ∃ loaded, now.store.current = some loaded ∧ built.source = loaded.serial
      ∧ (Resolver.ofSettings loaded.settings).outcome = .ok built.resolver
  /-- Objects that were ever there have numbers below the next one. -/
  numbered : ∀ before, before <+: actions →
    (∀ loaded, (start.run before).store.current = some loaded → loaded.serial < now.store.next)
      ∧ ∀ built, (start.run before).store.resolver = some built → built.serial < now.store.next
  /-- A load puts a new object in force. -/
  load : ∀ action settings, now.Loads action settings →
    (now.after action).store.current.map Loaded.identity = some (now.store.next, settings)
  /-- Unless it loads or forgets, an action leaves the object and a resolver that is kept. -/
  other : ∀ action, action ≠ .reset → (∀ settings, ¬ now.Loads action settings) →
    now.store.Extends (now.after action).store
  /-- A load that fails is answered with its cause, and leaves everything as it was. -/
  failed : ∀ action file e, now.source? action = some file →
    Settings.load now.host [] (some file) = .error e →
    now.perform action = (Traced.fail (.settings e), now)
  /-- Asking for settings gives the object of the latest load. -/
  get_latest : ∀ object, LatestLoad start actions object →
    ∃ loaded, now.perform .get = (pure (.settings loaded), now) ∧ loaded.identity = object
  /-- If there is none, asking for settings loads them. -/
  get_first : (∀ object, ¬ LatestLoad start actions object) →
    now.perform .get = now.perform (.init none)
  /-- Asking again gives the same object, and loads nothing. -/
  get_again : ∀ loaded next, now.perform .get = (pure (.settings loaded), next) →
    next.perform .get = (pure (.settings loaded), next)
  /-- Where settings can be had, so can their resolver: the one that is kept, or a new one, which is
  kept from then on. -/
  resolver_first : ∀ loaded mid, now.perform .get = (pure (.settings loaded), mid) →
    ∃ built records next, now.perform .resolver = (⟨.ok (.resolver built), records⟩, next)
      ∧ built.source = loaded.serial ∧ next.store.resolver = some built
      ∧ (now.store.resolver = some built ∨ now.store.next ≤ built.serial)
  /-- It is the same one as long as the settings are kept. -/
  resolver_again : ∀ built records next more,
    now.perform .resolver = (⟨.ok (.resolver built), records⟩, next) → next.Keeps more →
    (next.run more).perform .resolver = (pure (.resolver built), next.run more)
  /-- Once settings are in force, changes of the host alone change neither answer. -/
  change : ∀ changes : List (List Host.Change), now.store.current.isSome →
    ((now.run (changes.map .change)).perform .get).1 = (now.perform .get).1
      ∧ ((now.run (changes.map .change)).perform .resolver).1 = (now.perform .resolver).1

/-- **Settings and resolver agree after every run** from an empty store. -/
theorem cachesAgree_run (hstart : start.store = {}) (actions : List Action) :
    CachesAgree start actions (start.run actions) := by
  have hempty : start.store.Coherent := hstart ▸ Store.coherent_empty
  have hnow := coherent_run hempty actions
  -- nearly every clause is a fact about a coherent store, seen from where the run has come to
  constructor
  case resolver =>
    intro built hbuilt
    obtain ⟨loaded, hloaded, hsource, hresolver⟩ := hnow.resolver built hbuilt
    have hfilled := Settings.filled_of_accepted (hnow.current loaded hloaded).1
    refine ⟨loaded, hloaded, hsource, ?_⟩
    rw [Resolver.ofSettings_eq hfilled, hresolver]
  case numbered =>
    rintro before ⟨after, rfl⟩
    have hbefore := coherent_run hempty before
    have hle := next_le_run hbefore after
    rw [← run_append] at hle
    constructor
    · intro loaded hloaded
      exact Nat.lt_of_lt_of_le (hbefore.current loaded hloaded).2 hle
    · intro built hbuilt
      exact Nat.lt_of_lt_of_le (hbefore.numbered built hbuilt) hle
  case load => exact fun action settings h => identity_after_of_loads hnow h
  case other => exact fun action hreset h => extends_after_of_not_loads hnow hreset h
  case failed => exact fun action file e hsource hload => perform_of_load_error hnow hsource hload
  case get_latest =>
    intro object hlatest
    obtain ⟨loaded, hloaded, hsame⟩ :=
      Option.map_eq_some_iff.mp ((latestLoad_iff hstart object).mp hlatest)
    exact ⟨loaded, perform_get_of_current hloaded, hsame⟩
  case get_first =>
    intro hnone
    -- an object in force would be of a latest load, and there is none
    have hcurrent : (start.run actions).store.current = none := by
      cases h : (start.run actions).store.current with
      | none => rfl
      | some loaded =>
        refine absurd ((latestLoad_iff hstart loaded.identity).mpr ?_) (hnone loaded.identity)
        rw [h]
        rfl
    show (start.run actions).answerLoaded _ = (start.run actions).answerLoaded _
    rw [Store.get_of_none hcurrent]
  case get_again =>
    intro loaded next h
    obtain ⟨mid, hget, rfl⟩ := get_of_perform_get h
    exact perform_get_of_current (Store.current_of_get_ok hget)
  case resolver_first =>
    intro loaded next h
    obtain ⟨mid, hget, _⟩ := get_of_perform_get h
    exact perform_resolver_of_get_ok hnow hget
  case resolver_again =>
    intro built records next more h hkeeps
    have hkept := kept_of_perform_resolver hnow h
    have hnext : next.store.Coherent := by
      have hafter := coherent_after hnow .resolver
      rwa [after, h] at hafter
    -- a kept resolver has its settings in force, and what keeps these keeps it too
    obtain ⟨loaded, hloaded, _⟩ := hnext.resolver built hkept
    exact perform_resolver_of_kept
      ((extends_run_of_keeps hnext hloaded hkeeps).resolver built hkept)
  case change =>
    intro changes hcurrent
    obtain ⟨loaded, hloaded⟩ := Option.isSome_iff_exists.mp hcurrent
    obtain ⟨host, hrun⟩ := run_changes (start.run actions) changes
    -- neither the settings in force nor their resolver are looked for on the host again
    have hsame : ({ start.run actions with host } : Service).store.current = some loaded := hloaded
    rw [hrun]
    constructor
    · rw [perform_get_of_current hsame, perform_get_of_current hloaded]
    · rw [perform_resolver, perform_resolver,
        Store.getResolver_host hloaded host (start.run actions).host]

/-- A resolver is asked for, then the environment names another parameter and an output of the log
that is not there, and settings are loaded in vain: those the resolver was built from stay in
force. -/
theorem cachesAgree_run_failed :
    let start : Service := {}
    let changes : List Host.Change := [.set "SORT_PARAMETER" "order", .set "LOG_OUTPUT" "paper"]
    let actions : List Action := [.resolver, .change changes, .init none]
    start.store = {}
      ∧ ∃ loaded, (start.run actions).perform .get = (pure (.settings loaded), start.run actions)
          ∧ loaded.identity = (0, {}) := by
  intro start changes actions
  have hload : start.Loads .resolver {} := ⟨".env", rfl, rfl⟩
  have hvain : ∀ settings,
      ¬ (start.run [.resolver, .change changes]).Loads (.init none) settings := by
    rintro settings ⟨file, hsource, hload⟩
    obtain rfl : ".env" = file := Option.some.inj hsource
    have herror : Settings.load (changes.foldl Host.change {}) [] (some ".env")
        = .error (.values [⟨.notOneOf ["console", "file", "both"], [.member "log_output"]⟩]) := rfl
    exact absurd (herror.symm.trans hload) (by simp)
  refine ⟨rfl, (cachesAgree_run rfl actions).get_latest (0, {}) ?_⟩
  exact ⟨[], .resolver, _, rfl, hload, rfl, by simp, fun _ _ h => absurd h (by simp), by simp,
    fun _ settings _ => hvain settings, trivial⟩

end Service

end OrderBy
