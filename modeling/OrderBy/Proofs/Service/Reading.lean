/-
  OrderBy.Proofs.Service.Reading — steps that read the paths of settings.

  The two paths of the settings in force are read one by one, amid all actions.
  What is read of an object is to be told by the run alone: the first step that
  needs the project directory of that object, by reading it or a path of the
  log file below it, decides for all readings (`firstNeed?`).

  A run that has begun already knows the project directory of the object in
  force, or it does not.  Together with what the rest of the run needs first,
  that gives each object the project directory that is expected of it, and no
  step changes what is expected of an object that may still be read of
  (`expected?_read`, `expected?_act`).

  Main results:
    * `expected?_read`, `expected?_act`, `expected?_paths` — what is expected
      before a step and after it;
    * `step_paths`, `readings_paths` — asking for both paths reads one after the
      other.
-/
import OrderBy.Proofs.Service.Renewal
import OrderBy.Proofs.Settings.Paths

namespace OrderBy

open Settings (Loaded LoadError Store PathKind)

/-! ## §1. Settled stores -/

namespace Settings.Store

variable {a b store : Store}

/-- **The settings in force are settled**: the paths found so far belong together, and their number
was given away. -/
def Settled (store : Store) : Prop :=
  ∀ loaded, store.current = some loaded → loaded.Settled ∧ loaded.serial < store.next

theorem settled_of_renews (h : a.Renews b) (hsettled : a.Settled) : b.Settled := by
  intro loaded hloaded
  cases h with
  | same hsame hle =>
    obtain ⟨hpaths, hserial⟩ := hsettled loaded (hsame.symm.trans hloaded)
    exact ⟨hpaths, by omega⟩
  | forgotten hnone _ => exact absurd (hnone.symm.trans hloaded) (by simp)
  | loaded hnew _ hlt =>
    obtain rfl := Option.some.inj (hnew.symm.trans hloaded)
    exact ⟨Loaded.settled_of_none rfl, hlt⟩

/-- Settings that were asked for are settled. -/
theorem settled_of_get_ok {mid : Store} {host : Host} {loaded : Loaded} (hsettled : store.Settled)
    (hget : store.get host = (.ok loaded, mid)) : mid.Settled := by
  have hrenews := renews_get store host
  rw [hget] at hrenews
  exact settled_of_renews hrenews hsettled

/-- The number of an object in force is not one of those to come. -/
theorem ne_of_next_le (hsettled : store.Settled) {loaded : Loaded}
    (hloaded : store.current = some loaded) {object : Nat × Settings}
    (h : store.next ≤ object.1) : loaded.identity ≠ object := by
  rintro rfl
  exact absurd (hsettled loaded hloaded).2 (Nat.not_lt.mpr h)

end Settings.Store

namespace Service

variable {service : Service} {action : Action}

/-! ## §2. Runs that read paths -/

/-- **What is done to a service** when its paths are read one by one as well. -/
inductive Step where
  /-- An action. -/
  | act (action : Action)
  /-- Read one of the paths of the settings in force. -/
  | read (kind : PathKind)
  deriving Repr

/-- **A path that was read**, with the object that it was read of. -/
structure Reading where
  /-- The object. -/
  object : Nat × Settings
  /-- Which of its paths it is. -/
  kind : PathKind
  /-- The path. -/
  path : String
  deriving DecidableEq, Repr

/-- The settings that something is asked of: those in force, or those that are loaded for it. -/
def asked? (service : Service) : Option Loaded :=
  match (service.store.get service.host).1 with
  | .ok loaded => some loaded
  | .error _ => none

/-- The service after a step. -/
def step (service : Service) : Step → Service
  | .act action => service.after action
  | .read kind => { service with store := (service.store.read kind service.host).2 }

/-- What a step reads. -/
def readings (service : Service) : Step → List Reading
  | .read kind =>
    match service.asked?, (service.store.read kind service.host).1 with
    | some loaded, .ok path => [⟨loaded.identity, kind, path⟩]
    | _, _ => []
  | .act .paths =>
    match service.asked?, service.paths.1 with
    | some loaded, .ok (project, log) =>
      [⟨loaded.identity, .project, project⟩, ⟨loaded.identity, .log, log⟩]
    | _, _ => []
  | .act _ => []

/-- The service after steps. -/
def runSteps (service : Service) (steps : List Step) : Service :=
  steps.foldl step service

/-- **What is read in a run**, in order. -/
def readingsFrom (service : Service) : List Step → List Reading
  | [] => []
  | step :: rest => service.readings step ++ (service.step step).readingsFrom rest

/-- Does a step need the project directory of an object? -/
def needs (service : Service) (object : Nat × Settings) : Step → Bool
  | .read kind =>
    service.asked?.map Loaded.identity == some object && kind.needsProject object.2
  | .act .paths => service.asked?.map Loaded.identity == some object
  | .act _ => false

/-- **The host on which the project directory of an object is first needed** in a run. -/
def firstNeed? (object : Nat × Settings) : Service → List Step → Option Host
  | _, [] => none
  | service, step :: rest =>
    if service.needs object step then some service.host
    else firstNeed? object (service.step step) rest

/-- The path of the project directory that is known of an object, if it is the one in force. -/
def known? (service : Service) (object : Nat × Settings) : Option String :=
  service.store.current.bind fun loaded =>
    if loaded.identity = object then loaded.projectPath? else none

/-- **The path of the project directory that a run gives an object**: the one that is known, else
that of the host on which it is first needed. -/
def expected? (service : Service) (steps : List Step) (object : Nat × Settings) : Option String :=
  (service.known? object).or ((firstNeed? object service steps).map Host.projectPath)

/-! ## §3. Reading one path -/

section Read

variable {loaded : Loaded} {mid : Store} {e : LoadError} {kind : PathKind} {rest : List Step}
  {object : Nat × Settings}

theorem asked?_of_get_ok (hget : service.store.get service.host = (.ok loaded, mid)) :
    service.asked? = some loaded := by
  unfold asked?
  rw [hget]

theorem asked?_of_get_error (hget : service.store.get service.host = (.error e, mid)) :
    service.asked? = none := by
  unfold asked?
  rw [hget]

theorem step_read (service : Service) (kind : PathKind) :
    service.step (.read kind)
      = { service with store := (service.store.read kind service.host).2 } := rfl

theorem step_read_of_get_ok (kind : PathKind)
    (hget : service.store.get service.host = (.ok loaded, mid)) :
    service.step (.read kind)
      = { service with store := mid.keep (loaded.read kind service.host).2 } := by
  rw [step_read, Store.read_of_get_ok kind hget]

theorem readings_read_of_get_ok (kind : PathKind)
    (hget : service.store.get service.host = (.ok loaded, mid)) :
    service.readings (.read kind)
      = [⟨loaded.identity, kind, (loaded.read kind service.host).1⟩] := by
  show (match service.asked?, (service.store.read kind service.host).1 with
    | some loaded, .ok path => [Reading.mk loaded.identity kind path]
    | _, _ => []) = _
  rw [asked?_of_get_ok hget, Store.read_of_get_ok kind hget]

theorem readings_read_of_get_error (kind : PathKind)
    (hget : service.store.get service.host = (.error e, mid)) :
    service.readings (.read kind) = [] := by
  unfold readings
  rw [asked?_of_get_error hget]

/-- Where settings cannot be had, reading a path changes nothing. -/
theorem step_read_of_get_error (kind : PathKind)
    (hget : service.store.get service.host = (.error e, mid)) :
    service.step (.read kind) = service := by
  rw [step_read, Store.read_of_get_error kind hget, (Store.of_get_error hget).2.2]

/-- What is known of an object is what the settings that are asked know. -/
theorem known?_of_get_ok (hget : service.store.get service.host = (.ok loaded, mid))
    (object : Nat × Settings) : service.known? object
      = if loaded.identity = object then loaded.projectPath? else none := by
  unfold known?
  cases hcurrent : service.store.current with
  | some former =>
    rw [Store.get_of_current hcurrent, Prod.mk.injEq, Except.ok.injEq] at hget
    rw [hget.1]
    rfl
  | none =>
    rcases Store.of_get_ok hget with ⟨hloaded, _⟩ | ⟨settings, _, rfl, _⟩
    · exact absurd (hcurrent.symm.trans hloaded) (by simp)
    · -- they have just been loaded, and know nothing yet
      exact (ite_self none).symm

theorem expected?_cons (service : Service) (step : Step) (rest : List Step)
    (object : Nat × Settings) : service.expected? (step :: rest) object
      = (service.known? object).or ((if service.needs object step then some service.host
          else firstNeed? object (service.step step) rest).map Host.projectPath) := rfl

/-- **What a read gives, and what is known after it**, when settings can be had. -/
theorem reads_of_get_ok (hsettled : service.store.Settled)
    (hget : service.store.get service.host = (.ok loaded, mid)) (kind : PathKind) :
    loaded.Reads kind service.host (loaded.read kind service.host).1
      (loaded.read kind service.host).2 := by
  have hcurrent := Store.current_of_get_ok hget
  exact Loaded.reads_read (Store.settled_of_get_ok hsettled hget loaded hcurrent).1 kind _

/-- The object read of has a number that was given away. -/
theorem serial_lt_of_get_ok (hsettled : service.store.Settled)
    (hget : service.store.get service.host = (.ok loaded, mid)) : loaded.serial < mid.next :=
  (Store.settled_of_get_ok hsettled hget loaded (Store.current_of_get_ok hget)).2

theorem needs_read_of_get_ok (hget : service.store.get service.host = (.ok loaded, mid))
    (kind : PathKind) (object : Nat × Settings) : service.needs object (.read kind)
      = (some loaded.identity == some object && kind.needsProject object.2) := by
  unfold needs
  rw [asked?_of_get_ok hget]
  rfl

theorem needs_read_of_get_error (hget : service.store.get service.host = (.error e, mid))
    (kind : PathKind) (object : Nat × Settings) : service.needs object (.read kind) = false := by
  unfold needs
  rw [asked?_of_get_error hget]
  rfl

/-- **A read leaves the project directory that a run gives an object.** -/
theorem expected?_read (hsettled : service.store.Settled) (kind : PathKind) (rest : List Step)
    (object : Nat × Settings) : service.expected? (.read kind :: rest) object
      = (service.step (.read kind)).expected? rest object := by
  rw [expected?_cons]
  obtain ⟨loaded, mid, hget⟩ | ⟨e, hget⟩ := Store.get_ok_or_error service.store service.host
  · have hproject := (reads_of_get_ok hsettled hget kind).project
    have hafter : (service.step (.read kind)).known? object
        = if loaded.identity = object then (loaded.read kind service.host).2.projectPath?
          else none := by
      rw [step_read_of_get_ok kind hget, ← Loaded.identity_read kind service.host loaded]
      rfl
    rw [needs_read_of_get_ok hget, known?_of_get_ok hget]
    unfold expected?
    rw [hafter]
    by_cases hobject : loaded.identity = object
    · subst hobject
      rw [if_pos rfl, if_pos rfl, beq_self_eq_true, Bool.true_and, hproject]
      show loaded.projectPath?.or (Option.map Host.projectPath
        (if kind.needsProject loaded.settings then _ else _)) = _
      cases kind.needsProject loaded.settings with
      | true =>
        -- this host was the first, and gave the directory that is known now, unless one was
        rw [if_pos rfl, if_pos rfl, Option.or_assoc]
        rfl
      | false => rw [if_neg (by decide), if_neg (by decide), Option.or_none]
    · -- the path was read of another object, and nothing is known of this one
      have hother : (some loaded.identity == some object) = false := by simpa using hobject
      rw [if_neg hobject, if_neg hobject, hother, Bool.false_and, if_neg (by decide)]
  · rw [needs_read_of_get_error hget, if_neg (by decide), step_read_of_get_error kind hget]
    rfl

/-- **The paths of an object may be read from now on** if it is in force, or new. -/
def Readable (service : Service) (object : Nat × Settings) : Prop :=
  service.store.current.map Loaded.identity = some object ∨ service.store.next ≤ object.1

theorem readable_of_get_ok (hget : service.store.get service.host = (.ok loaded, mid)) :
    service.Readable loaded.identity := by
  obtain ⟨hcurrent, _⟩ | ⟨settings, _, rfl, _⟩ := Store.of_get_ok hget
  · exact .inl (congrArg (Option.map Loaded.identity) hcurrent)
  · exact .inr (Nat.le_refl service.store.next)

/-- A read makes no other object readable. -/
theorem readable_of_read (h : (service.step (.read kind)).Readable object) :
    service.Readable object := by
  obtain ⟨loaded, mid, hget⟩ | ⟨e, hget⟩ := Store.get_ok_or_error service.store service.host
  · rw [step_read_of_get_ok kind hget] at h
    rcases h with hcurrent | hnext
    · -- what is in force now was asked, so it was in force before or has just been loaded
      have hobject : loaded.identity = object :=
        (Loaded.identity_read kind service.host loaded).symm.trans (Option.some.inj hcurrent)
      rw [← hobject]
      exact readable_of_get_ok hget
    · exact .inr (Nat.le_trans (Store.next_le_of_get_ok hget) hnext)
  · rwa [step_read_of_get_error kind hget] at h

theorem settled_read (hsettled : service.store.Settled) (kind : PathKind) :
    (service.step (.read kind)).store.Settled := by
  obtain ⟨loaded, mid, hget⟩ | ⟨e, hget⟩ := Store.get_ok_or_error service.store service.host
  · have hreads := reads_of_get_ok hsettled hget kind
    have hserial : (loaded.read kind service.host).2.serial = loaded.serial :=
      congrArg Prod.fst (Loaded.identity_read kind service.host loaded)
    rw [step_read_of_get_ok kind hget]
    intro found hfound
    rw [← Option.some.inj hfound]
    constructor
    · exact hreads.settled
    · rw [hserial]
      show loaded.serial < mid.next
      exact serial_lt_of_get_ok hsettled hget
  · rw [step_read_of_get_error kind hget]
    exact hsettled

theorem next_le_read (service : Service) (kind : PathKind) :
    service.store.next ≤ (service.step (.read kind)).store.next := by
  obtain ⟨loaded, mid, hget⟩ | ⟨e, hget⟩ := Store.get_ok_or_error service.store service.host
  · rw [step_read_of_get_ok kind hget]
    show service.store.next ≤ mid.next
    exact Store.next_le_of_get_ok hget
  · rw [step_read_of_get_error kind hget]

end Read

/-! ## §4. Other actions -/

section Act

variable {object : Nat × Settings} {rest : List Step}

theorem readings_act (h : action ≠ .paths) : service.readings (.act action) = [] := by
  cases action with
  | paths => exact absurd rfl h
  | _ => rfl

theorem needs_act (h : action ≠ .paths) (object : Nat × Settings) :
    service.needs object (.act action) = false := by
  cases action with
  | paths => exact absurd rfl h
  | _ => rfl

theorem readable_of_act (h : action ≠ .paths) (hreadable : (service.after action).Readable object) :
    service.Readable object := by
  have hrenews := renews_after service h
  rcases hreadable with hcurrent | hnext
  · cases hrenews with
    | same hsame _ => exact .inl (by rwa [hsame] at hcurrent)
    | forgotten hnone _ =>
      rw [hnone] at hcurrent
      exact absurd hcurrent (by simp)
    | loaded hnew hserial _ =>
      rw [hnew] at hcurrent
      rw [← Option.some.inj hcurrent]
      exact .inr hserial
  · exact .inr (Nat.le_trans hrenews.next_le hnext)

/-- Of an object that is still to come nothing is known. -/
theorem known?_of_next_le (hsettled : service.store.Settled) (h : service.store.next ≤ object.1) :
    service.known? object = none := by
  unfold known?
  cases hcurrent : service.store.current with
  | none => rfl
  | some loaded => exact if_neg (Store.ne_of_next_le hsettled hcurrent h)

/-- An action that reads no path leaves what is known of objects that may still be read of. -/
theorem known?_after (hsettled : service.store.Settled) (h : action ≠ .paths)
    (hreadable : (service.after action).Readable object) :
    (service.after action).known? object = service.known? object := by
  have hle := (renews_after service h).next_le
  -- settings that are gone were those of another object
  cases renews_after service h with
  | same hsame _ =>
    unfold known?
    rw [hsame]
  | forgotten hnone _ =>
    rcases hreadable with hcurrent | hnext
    · rw [hnone] at hcurrent
      exact absurd hcurrent (by simp)
    · rw [known?_of_next_le hsettled (by omega)]
      unfold known?
      rw [hnone]
      rfl
  | @loaded serial settings hnew hserial _ =>
    have hnumber : service.store.next ≤ object.1 := by
      rcases hreadable with hcurrent | hnext
      · rw [hnew] at hcurrent
        rw [← Option.some.inj hcurrent]
        exact hserial
      · omega
    rw [known?_of_next_le hsettled hnumber]
    unfold known?
    rw [hnew]
    exact ite_self none

/-- **So does any action that reads no path**, of objects whose paths may still be read. -/
theorem expected?_act (hsettled : service.store.Settled) (h : action ≠ .paths)
    (hreadable : (service.after action).Readable object) (rest : List Step) :
    service.expected? (.act action :: rest) object
      = (service.after action).expected? rest object := by
  rw [expected?_cons, needs_act h, if_neg (by decide), ← known?_after hsettled h hreadable]
  rfl

end Act

/-! ## §5. Both paths at once -/

section Both

variable {loaded : Loaded} {mid : Store} {e : LoadError}

/-- Asking for both paths reads one after the other. -/
theorem paths_of_get_ok {project log : String × Loaded}
    (hget : service.store.get service.host = (.ok loaded, mid))
    (hproject : loaded.read .project service.host = project)
    (hlog : project.2.read .log service.host = log) :
    service.paths = (.ok (project.1, log.1),
      { service with store := (mid.keep project.2).keep log.2 }) := by
  have hfirst : service.store.projectPath service.host = (.ok project.1, mid.keep project.2) := by
    rw [← hproject]
    exact Store.read_of_get_ok .project hget
  have hagain : (mid.keep project.2).get service.host = (.ok project.2, mid.keep project.2) :=
    Store.get_of_current rfl
  have hsecond : (mid.keep project.2).logPath service.host
      = (.ok log.1, (mid.keep project.2).keep log.2) := by
    rw [← hlog]
    exact Store.read_of_get_ok .log hagain
  unfold paths
  simp only [hfirst, hsecond]

theorem paths_of_get_error (hget : service.store.get service.host = (.error e, mid)) :
    service.paths = (.error (.settings e), service) := by
  unfold paths
  simp only [Store.projectPath_of_get_error hget]

/-- The store that is left when the path of the project directory was read. -/
theorem get_step_project (hget : service.store.get service.host = (.ok loaded, mid)) :
    (service.step (.read .project)).store.get (service.step (.read .project)).host
      = (.ok (loaded.read .project service.host).2,
        mid.keep (loaded.read .project service.host).2) := by
  rw [step_read_of_get_ok .project hget]
  exact Store.get_of_current rfl

theorem step_paths (service : Service) :
    service.step (.act .paths) = (service.step (.read .project)).step (.read .log) := by
  show service.paths.2 = _
  obtain ⟨loaded, mid, hget⟩ | ⟨e, hget⟩ := Store.get_ok_or_error service.store service.host
  · rw [paths_of_get_ok hget rfl rfl, step_read_of_get_ok .log (get_step_project hget),
      step_read_of_get_ok .project hget]
  · rw [paths_of_get_error hget, step_read_of_get_error .project hget,
      step_read_of_get_error .log hget]

theorem readings_paths (service : Service) :
    service.readings (.act .paths) = service.readings (.read .project)
      ++ (service.step (.read .project)).readings (.read .log) := by
  show (match service.asked?, service.paths.1 with
    | some loaded, .ok (project, log) =>
      [Reading.mk loaded.identity .project project, ⟨loaded.identity, .log, log⟩]
    | _, _ => []) = _
  obtain ⟨loaded, mid, hget⟩ | ⟨e, hget⟩ := Store.get_ok_or_error service.store service.host
  · rw [asked?_of_get_ok hget, paths_of_get_ok hget rfl rfl, readings_read_of_get_ok .project hget,
      readings_read_of_get_ok .log (get_step_project hget)]
    rw [Loaded.identity_read, step_read_of_get_ok .project hget]
    rfl
  · rw [asked?_of_get_error hget, readings_read_of_get_error .project hget,
      step_read_of_get_error .project hget, readings_read_of_get_error .log hget]
    rfl

theorem expected?_paths (service : Service) (rest : List Step) (object : Nat × Settings) :
    service.expected? (.act .paths :: rest) object
      = service.expected? (.read .project :: .read .log :: rest) object := by
  have hneeds : service.needs object (.act .paths) = service.needs object (.read .project) :=
    (Bool.and_true _).symm
  rw [expected?_cons, expected?_cons, hneeds]
  cases hproject : service.needs object (.read .project) with
  | true => rfl
  | false =>
    -- the log file is the same object's, so it does not need the project directory either
    have hlog : (service.step (.read .project)).needs object (.read .log) = false := by
      obtain ⟨loaded, mid, hget⟩ | ⟨e, hget⟩ := Store.get_ok_or_error service.store service.host
      · rw [needs_read_of_get_ok hget, Bool.and_eq_false_iff] at hproject
        rw [needs_read_of_get_ok (get_step_project hget), Loaded.identity_read]
        rcases hproject with hother | hnot
        · rw [hother, Bool.false_and]
        · exact absurd hnot (by simp [PathKind.needsProject])
      · rw [step_read_of_get_error .project hget, needs_read_of_get_error hget]
    have hskip : firstNeed? object (service.step (.read .project)) (.read .log :: rest)
        = firstNeed? object ((service.step (.read .project)).step (.read .log)) rest := by
      rw [firstNeed?, hlog, if_neg (by decide)]
    rw [if_neg (by decide), if_neg (by decide), hskip, step_paths]

end Both

end Service

end OrderBy
