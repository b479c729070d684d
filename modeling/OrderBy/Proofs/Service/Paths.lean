/-
  OrderBy.Proofs.Service.Paths — the paths of settings over whole runs.

  Directories are changed, marker entries come and go, settings are loaded,
  forgotten and loaded again, and in between the paths of the settings in force
  are read in any order.  Every reading is explained by the service that the run
  starts from and by the run (`Explains`): a step explains what it reads, and
  leaves the explanations of what is read later as they are.

  Main results:
    * `explains_run` — every reading of a run is explained;
    * `pathsAgree_run` — the paths of an object never contradict each other.
-/
import OrderBy.Proofs.Service.Reading

namespace OrderBy

open Settings (Loaded LoadError Store PathKind)

namespace Service

variable {service : Service} {action : Action}

/-! ## §1. Runs -/

section Runs

variable {steps rest : List Step} {reading : Reading} {kind : PathKind}

/-- No step takes a number back. -/
theorem next_le_step (service : Service) (step : Step) :
    service.store.next ≤ (service.step step).store.next := by
  cases step with
  | read kind => exact next_le_read service kind
  | act action =>
    by_cases haction : action = .paths
    · rw [haction, step_paths]
      exact Nat.le_trans (next_le_read service .project) (next_le_read _ .log)
    · exact (renews_after service haction).next_le

theorem next_le_runSteps (service : Service) (steps : List Step) :
    service.store.next ≤ (service.runSteps steps).store.next := by
  induction steps generalizing service with
  | nil => exact Nat.le_refl service.store.next
  | cons step steps ih => exact Nat.le_trans (next_le_step service step) (ih (service.step step))

/-- **A reading is explained** by the service that a run starts from: its path is the one below the
project directory that the run gives its object. -/
structure Explains (service : Service) (steps : List Step) (reading : Reading) : Prop where
  /-- Its object is in force, or still to come. -/
  object : service.Readable reading.object
  /-- The number of its object was given away in the run. -/
  numbered : reading.object.1 < (service.runSteps steps).store.next
  /-- The path is as expected. -/
  path : reading.kind.pathOf? reading.object.2 (service.expected? steps reading.object)
    = some reading.path

/-- A read explains what it reads. -/
theorem explains_readings (hsettled : service.store.Settled)
    (h : reading ∈ service.readings (.read kind)) (rest : List Step) :
    service.Explains (.read kind :: rest) reading := by
  obtain ⟨loaded, mid, hget⟩ | ⟨e, hget⟩ := Store.get_ok_or_error service.store service.host
  · obtain ⟨hproject, hpath, _⟩ := reads_of_get_ok hsettled hget kind
    rw [readings_read_of_get_ok kind hget, List.mem_singleton] at h
    subst h
    constructor
    · exact readable_of_get_ok hget
    · -- numbers only grow, by this step and by the rest
      have hmid : (service.step (.read kind)).store.next = mid.next := by
        rw [step_read_of_get_ok kind hget]
        rfl
      have hserial := serial_lt_of_get_ok hsettled hget
      have hrest := next_le_runSteps (service.step (.read kind)) rest
      show loaded.serial < ((service.step (.read kind)).runSteps rest).store.next
      omega
    · -- the project directory that is known now stays the expected one, if the path needs it
      rw [expected?_read hsettled]
      unfold expected?
      have hknown : (service.step (.read kind)).known? loaded.identity
          = (loaded.read kind service.host).2.projectPath? := by
        rw [step_read_of_get_ok kind hget]
        exact if_pos (Loaded.identity_read kind service.host loaded)
      rw [hknown, ← hpath]
      cases hneeds : kind.needsProject loaded.settings with
      | true =>
        rw [hproject, hneeds, if_pos rfl, Option.or_assoc]
        rfl
      | false => exact PathKind.pathOf?_congr hneeds _ _
  · rw [readings_read_of_get_error kind hget] at h
    exact absurd h List.not_mem_nil

/-- **A read explains all readings**, if those that follow are explained after it. -/
theorem explains_read (hsettled : service.store.Settled)
    (hrest : ∀ reading ∈ (service.step (.read kind)).readingsFrom rest,
      (service.step (.read kind)).Explains rest reading) :
    ∀ reading ∈ service.readingsFrom (.read kind :: rest),
      service.Explains (.read kind :: rest) reading := by
  intro reading hreading
  rcases List.mem_append.mp hreading with hnow | hlater
  · exact explains_readings hsettled hnow rest
  · obtain ⟨hobject, hnumbered, hpath⟩ := hrest reading hlater
    refine ⟨readable_of_read hobject, hnumbered, ?_⟩
    rw [expected?_read hsettled]
    exact hpath

/-- So does an action that reads no path. -/
theorem explains_act (hsettled : service.store.Settled) (h : action ≠ .paths)
    (hrest : ∀ reading ∈ (service.after action).readingsFrom rest,
      (service.after action).Explains rest reading) :
    ∀ reading ∈ service.readingsFrom (.act action :: rest),
      service.Explains (.act action :: rest) reading := by
  intro reading hreading
  rw [readingsFrom, readings_act h, List.nil_append] at hreading
  obtain ⟨hobject, hnumbered, hpath⟩ := hrest reading hreading
  refine ⟨readable_of_act h hobject, hnumbered, ?_⟩
  rw [expected?_act hsettled h hobject]
  exact hpath

/-- **Every reading of a run is explained**, whatever else is done in it. -/
theorem explains_run (hsettled : service.store.Settled) (steps : List Step) :
    ∀ reading ∈ service.readingsFrom steps, service.Explains steps reading := by
  induction steps generalizing service with
  | nil =>
    intro reading h
    exact absurd h List.not_mem_nil
  | cons step rest ih =>
    cases step with
    | read kind => exact explains_read hsettled (ih (settled_read hsettled kind))
    | act action =>
      by_cases haction : action = .paths
      · -- both paths are read, one after the other
        subst haction
        have hproject := settled_read hsettled .project
        have hlog := settled_read hproject .log
        have hboth := explains_read hsettled (explains_read hproject (ih hlog))
        intro reading hreading
        rw [readingsFrom, readings_paths, step_paths, List.append_assoc] at hreading
        obtain ⟨hobject, hnumbered, hpath⟩ := hboth reading hreading
        refine ⟨hobject, ?_, ?_⟩
        · show _ < ((service.step (.act .paths)).runSteps rest).store.next
          rw [step_paths]
          exact hnumbered
        · rw [expected?_paths]
          exact hpath
      · exact explains_act hsettled haction
          (ih (Store.settled_of_renews (renews_after service haction) hsettled))

end Runs

/-! ## §2. The paths of an object agree -/

/-- No path was read yet of the settings that a service starts with, if it starts with any. -/
def Unread (service : Service) : Prop :=
  ∀ loaded, service.store.current = some loaded →
    loaded.projectPath? = none ∧ loaded.logPath? = none ∧ loaded.serial < service.store.next

theorem settled_of_unread (h : service.Unread) : service.store.Settled := by
  intro loaded hloaded
  obtain ⟨_, hlog, hserial⟩ := h loaded hloaded
  exact ⟨Loaded.settled_of_none hlog, hserial⟩

/-- Of settings that no path was read of nothing is known, so the run alone decides. -/
theorem expected?_of_unread (h : service.Unread) (steps : List Step) (object : Nat × Settings) :
    service.expected? steps object
      = (firstNeed? object service steps).map Host.projectPath := by
  have hnone : service.known? object = none := by
    unfold known?
    cases hcurrent : service.store.current with
    | none => rfl
    | some loaded =>
      show (if loaded.identity = object then loaded.projectPath? else none) = none
      rw [(h loaded hcurrent).1]
      exact ite_self none
  unfold expected?
  rw [hnone]
  exact Option.none_or

/-- **The paths of an object never contradict each other** in a run. -/
structure PathsAgree (start : Service) (steps : List Step) : Prop where
  /-- The project directory of an object is always that of the host on which it was first needed. -/
  project : ∀ object path, ⟨object, .project, path⟩ ∈ start.readingsFrom steps →
    ∃ host, firstNeed? object start steps = some host ∧ path = host.projectPath
  /-- A log file that is absolute is always its own path. -/
  absolute : ∀ object path, ⟨object, .log, path⟩ ∈ start.readingsFrom steps →
    Path.isAbsolute object.2.logFile = true → path = object.2.logFile
  /-- Any other one, or the default one if it is empty, always stands below that same project
  directory. -/
  relative : ∀ object path, ⟨object, .log, path⟩ ∈ start.readingsFrom steps →
    Path.isAbsolute object.2.logFile = false →
    ∃ host, firstNeed? object start steps = some host
      ∧ path = Path.join host.projectPath
          (if object.2.logFile = "" then Settings.defaultLogFile else object.2.logFile)
  /-- So all that is read of one path of an object is the same. -/
  once : ∀ object kind path other, ⟨object, kind, path⟩ ∈ start.readingsFrom steps →
    ⟨object, kind, other⟩ ∈ start.readingsFrom steps → path = other
  /-- In the end both paths of the settings in force, if there are any, can be read. -/
  answered : ∀ loaded kind, (start.runSteps steps).store.current = some loaded →
    ∃ path, (start.runSteps steps).readings (.read kind) = [⟨loaded.identity, kind, path⟩]
  /-- Loading puts an object in force that has neither path, and that nothing was read of. -/
  loaded : ∀ envFile settings,
    Settings.load (start.runSteps steps).host [] (some (Store.envFileOr envFile)) = .ok settings →
    ∃ number, ((start.runSteps steps).after (.init envFile)).store.current
        = some { serial := number, settings, projectPath? := none, logPath? := none }
      ∧ ∀ reading ∈ start.readingsFrom steps, reading.object.1 < number
  /-- Once settings are forgotten, so has the object that asking for settings loads, wherever that
  is. -/
  forgotten : ∀ host loaded,
    ({ (start.runSteps steps).after .reset with host } : Service).asked? = some loaded →
    loaded.projectPath? = none ∧ loaded.logPath? = none
      ∧ ∀ reading ∈ start.readingsFrom steps, reading.object.1 < loaded.serial

/-- **The paths of an object never contradict each other**, in whatever order they are read amid
everything else that is done. -/
theorem pathsAgree_run {start : Service} (hstart : start.Unread) (steps : List Step) :
    PathsAgree start steps := by
  -- no object has a path at the start, so what a reading gives hangs on the run alone
  have hexplained : ∀ {object kind path}, ⟨object, kind, path⟩ ∈ start.readingsFrom steps →
      kind.pathOf? object.2 ((firstNeed? object start steps).map Host.projectPath)
        = some path := by
    intro object kind path hreading
    rw [← expected?_of_unread hstart]
    exact (explains_run (settled_of_unread hstart) steps _ hreading).path
  have hnumbered : ∀ reading ∈ start.readingsFrom steps,
      reading.object.1 < (start.runSteps steps).store.next := by
    intro reading hreading
    exact (explains_run (settled_of_unread hstart) steps reading hreading).numbered
  constructor
  case project =>
    intro object path hreading
    obtain ⟨host, hhost, hpath⟩ := Option.map_eq_some_iff.mp (hexplained hreading)
    exact ⟨host, hhost, hpath.symm⟩
  case absolute =>
    intro object path hreading habsolute
    have hpath := hexplained hreading
    rw [PathKind.pathOf?_of_isAbsolute habsolute] at hpath
    exact (Option.some.inj hpath).symm
  case relative =>
    intro object path hreading hrelative
    have hpath := hexplained hreading
    rw [PathKind.pathOf?_of_not_isAbsolute hrelative, Option.map_map] at hpath
    obtain ⟨host, hhost, hpath⟩ := Option.map_eq_some_iff.mp hpath
    exact ⟨host, hhost, hpath.symm.trans
      (Settings.logPathFrom_of_not_isAbsolute hrelative host.projectPath)⟩
  case once =>
    -- both readings are explained by the same host
    intro object kind path other hpath hother
    exact Option.some.inj ((hexplained hpath).symm.trans (hexplained hother))
  case answered =>
    intro loaded kind hloaded
    exact ⟨_, readings_read_of_get_ok kind (Store.get_of_current hloaded)⟩
  case loaded =>
    intro envFile settings hload
    refine ⟨(start.runSteps steps).store.next, ?_, hnumbered⟩
    show ((start.runSteps steps).store.init (start.runSteps steps).host envFile).2.current = _
    rw [Store.init_of_load_ok hload]
    rfl
  case forgotten =>
    intro host loaded hasked
    obtain ⟨found, mid, hget⟩ | ⟨e, hget⟩ :=
      Store.get_ok_or_error (start.runSteps steps).store.reset host
    · -- after forgetting, settings are loaded anew, under a number that no reading has
      rcases Store.of_get_ok hget with ⟨hcurrent, _⟩ | ⟨settings, _, rfl, _⟩
      · exact absurd hcurrent (by simp [Store.reset])
      · obtain rfl := Option.some.inj ((asked?_of_get_ok hget).symm.trans hasked)
        exact ⟨rfl, rfl, hnumbered⟩
    · exact absurd ((asked?_of_get_error hget).symm.trans hasked) (by simp)

/-- The path of the log file is first read outside of the project, and all paths stay there, until
settings are loaded anew. -/
theorem pathsAgree_run_moved :
    let start : Service := { host :=
      { tree := { files := [(⟨["pyproject.toml", "srv"]⟩, "")] }, directory := ⟨["tmp"]⟩ } }
    let steps : List Step := [.act .get, .read .log, .act (.change [.enter ⟨["api", "srv"]⟩]),
      .read .project, .act (.init none), .act .paths]
    start.Unread
      ∧ start.readingsFrom steps
        = [⟨(0, {}), .log, "/tmp/logs/fastsort.log"⟩, ⟨(0, {}), .project, "/tmp"⟩,
          ⟨(1, {}), .project, "/srv"⟩, ⟨(1, {}), .log, "/srv/logs/fastsort.log"⟩]
      ∧ ∃ host, firstNeed? (0, {}) start steps = some host ∧ "/tmp" = host.projectPath := by
  intro start steps
  have hstart : start.Unread := fun _ h => absurd h (by simp [start])
  have hreadings : start.readingsFrom steps
      = [⟨(0, {}), .log, "/tmp/logs/fastsort.log"⟩, ⟨(0, {}), .project, "/tmp"⟩,
        ⟨(1, {}), .project, "/srv"⟩, ⟨(1, {}), .log, "/srv/logs/fastsort.log"⟩] := by
    decide +kernel
  refine ⟨hstart, hreadings, (pathsAgree_run hstart steps).project (0, {}) "/tmp" ?_⟩
  rw [hreadings]
  exact .tail _ (.head _)

end Service

end OrderBy
