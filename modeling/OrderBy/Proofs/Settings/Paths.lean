/-
  OrderBy.Proofs.Settings.Paths — the two paths of loaded settings.

  The path of the log file depends on the project directory unless the log file
  is absolute, and on nothing else (`PathKind.pathOf?`).  Both are found when they
  are first read and kept from then on, the one of the log file by way of the
  other.  What keeps them together is that a path of the log file that was found
  is the one below the project directory that was found (`Loaded.Settled`): a
  read gives the path of its kind below the project directory that is known
  after it, and makes one known only if it needs it (`Loaded.Reads`).

  Main results:
    * `isAbsolute_logPathFrom` — the path of the log file is absolute;
    * `reads_read` — what a read gives, and what is known after it.
-/
import OrderBy.Proofs.Settings.Store

namespace OrderBy

/-! ## §1. Absolute paths -/

namespace Path

variable {directory path : String}

theorem isAbsolute_iff : isAbsolute path = true ↔ ∃ cs, path.toList = '/' :: cs := by
  unfold isAbsolute
  cases path.toList with
  | nil => simp
  | cons c cs => simp

/-- What is put behind an absolute path leaves it absolute. -/
theorem isAbsolute_append (h : isAbsolute directory = true) (rest : String) :
    isAbsolute (directory ++ rest) = true := by
  obtain ⟨cs, hcs⟩ := isAbsolute_iff.mp h
  refine isAbsolute_iff.mpr ⟨cs ++ rest.toList, ?_⟩
  rw [String.toList_append, hcs, List.cons_append]

theorem isAbsolute_join (h : isAbsolute directory = true) (path : String) :
    isAbsolute (join directory path) = true := by
  unfold join
  split
  · exact isAbsolute_append h path
  · exact isAbsolute_append (isAbsolute_append h "/") path

theorem ne_empty_of_isAbsolute (h : isAbsolute path = true) : path ≠ "" := by
  rintro rfl
  exact absurd h (by decide)

end Path

theorem Location.isAbsolute_path (place : Location) : Path.isAbsolute place.path = true :=
  Path.isAbsolute_append (by decide) _

namespace Settings

variable {s : Settings} {project : String}

/-! ## §2. What the paths depend on -/

/-- Below an absolute project directory, the path of the log file is absolute. -/
theorem isAbsolute_logPathFrom (s : Settings) (h : Path.isAbsolute project = true) :
    Path.isAbsolute (s.logPathFrom project) = true := by
  unfold logPathFrom
  split
  · exact Path.isAbsolute_join h _
  · split
    next habsolute => exact habsolute
    next => exact Path.isAbsolute_join h _

/-- An absolute log file is its own path. -/
theorem logPathFrom_of_isAbsolute (h : Path.isAbsolute s.logFile = true) (project : String) :
    s.logPathFrom project = s.logFile := by
  have hfilled : ¬ s.logFile.isEmpty = true := by simpa using Path.ne_empty_of_isAbsolute h
  rw [logPathFrom, if_neg hfilled, if_pos h]

/-- Any other one stands below the project directory, and for an empty one the default one does. -/
theorem logPathFrom_of_not_isAbsolute (h : Path.isAbsolute s.logFile = false) (project : String) :
    s.logPathFrom project
      = Path.join project (if s.logFile = "" then defaultLogFile else s.logFile) := by
  unfold logPathFrom
  by_cases hempty : s.logFile = ""
  · rw [if_pos (by simpa using hempty), if_pos hempty]
  · rw [if_neg (by simpa using hempty), if_neg (by simp [h]), if_neg hempty]

theorem logPathNeedsProject_eq (s : Settings) :
    s.logPathNeedsProject = !Path.isAbsolute s.logFile := by
  unfold logPathNeedsProject
  cases hempty : s.logFile.isEmpty with
  | false => rfl
  | true =>
    rw [String.isEmpty_iff.mp hempty]
    decide

/-- **The two paths** that settings have. -/
inductive PathKind where
  /-- The path of the project directory. -/
  | project
  /-- The path of the log file. -/
  | log
  deriving DecidableEq, Repr

/-- Does a path depend on the project directory? -/
def PathKind.needsProject : PathKind → Settings → Bool
  | .project, _ => true
  | .log, s => !Path.isAbsolute s.logFile

/-- **The path of a kind**, given that of the project directory; a path that does not depend on it
is there without. -/
def PathKind.pathOf? : PathKind → Settings → Option String → Option String
  | .project, _, project? => project?
  | .log, s, project? =>
    if Path.isAbsolute s.logFile then some s.logFile else project?.map s.logPathFrom

theorem PathKind.pathOf?_of_isAbsolute (h : Path.isAbsolute s.logFile = true)
    (project? : Option String) : PathKind.log.pathOf? s project? = some s.logFile :=
  if_pos h

theorem PathKind.pathOf?_of_not_isAbsolute (h : Path.isAbsolute s.logFile = false)
    (project? : Option String) :
    PathKind.log.pathOf? s project? = project?.map s.logPathFrom :=
  if_neg (by simp [h])

/-- Whatever the project directory is, a path that does not depend on it is the same. -/
theorem PathKind.pathOf?_congr {kind : PathKind} (h : kind.needsProject s = false)
    (project? other? : Option String) : kind.pathOf? s project? = kind.pathOf? s other? := by
  cases kind with
  | project => exact absurd h (by simp [needsProject])
  | log =>
    have habsolute : Path.isAbsolute s.logFile = true := by simpa [needsProject] using h
    rw [pathOf?_of_isAbsolute habsolute, pathOf?_of_isAbsolute habsolute]

/-! ## §3. Reading a path -/

namespace Loaded

variable {loaded : Loaded}

/-- Read one of the paths. -/
def read (kind : PathKind) (host : Host) (loaded : Loaded) : String × Loaded :=
  match kind with
  | .project => loaded.projectPath host
  | .log => loaded.logPath host

/-- A read leaves the object the same. -/
@[simp] theorem identity_read (kind : PathKind) (host : Host) (loaded : Loaded) :
    (loaded.read kind host).2.identity = loaded.identity := by
  cases kind with
  | project => exact identity_projectPath loaded host
  | log => exact identity_logPath loaded host

/-- **The paths found so far belong together.** -/
def Settled (loaded : Loaded) : Prop :=
  ∀ path, loaded.logPath? = some path →
    PathKind.log.pathOf? loaded.settings loaded.projectPath? = some path

/-- Where no path of the log file was found, there is nothing to belong together. -/
theorem settled_of_none (h : loaded.logPath? = none) : loaded.Settled := by
  intro path hpath
  exact absurd (h.symm.trans hpath) (by simp)

/-- **What a read gives, and what is known after it.** -/
structure Reads (kind : PathKind) (host : Host) (loaded : Loaded) (path : String)
    (found : Loaded) : Prop where
  /-- The project directory that was known is kept, and one becomes known if the path needs it. -/
  project : found.projectPath? = loaded.projectPath?.or
    (if kind.needsProject loaded.settings then some host.projectPath else none)
  /-- The path is the one of its kind below the project directory known now. -/
  path : kind.pathOf? loaded.settings found.projectPath? = some path
  /-- The paths found so far still belong together. -/
  settled : found.Settled

/-- **A project directory that is asked for is known from then on.** -/
theorem projectPath_eq (loaded : Loaded) (host : Host) :
    loaded.projectPath host = (loaded.projectPath?.getD host.projectPath,
      { loaded with projectPath? := some (loaded.projectPath?.getD host.projectPath) }) := by
  obtain ⟨serial, settings, project?, log?⟩ := loaded
  cases project? <;> rfl

theorem reads_projectPath (h : loaded.Settled) (host : Host) :
    loaded.Reads .project host (loaded.projectPath host).1 (loaded.projectPath host).2 := by
  rw [projectPath_eq]
  have hknown : some (loaded.projectPath?.getD host.projectPath)
      = loaded.projectPath?.or (some host.projectPath) := by
    cases loaded.projectPath? <;> rfl
  constructor
  · exact hknown
  · rfl
  · -- a path of the log file that was found has its project directory already
    intro path hpath
    have hsettled := h path hpath
    show PathKind.log.pathOf? loaded.settings (some _) = some path
    cases hproject : loaded.projectPath? with
    | some project => rwa [hproject] at hsettled
    | none =>
      rw [hproject] at hsettled
      cases habsolute : Path.isAbsolute loaded.settings.logFile with
      | true =>
        rw [PathKind.pathOf?_of_isAbsolute habsolute] at hsettled ⊢
        exact hsettled
      | false =>
        rw [PathKind.pathOf?_of_not_isAbsolute habsolute] at hsettled
        exact absurd hsettled (by simp)

theorem reads_logPath (h : loaded.Settled) (host : Host) :
    loaded.Reads .log host (loaded.logPath host).1 (loaded.logPath host).2 := by
  unfold logPath
  split
  next path hpath =>
    have hsettled := h path hpath
    refine ⟨?_, hsettled, h⟩
    -- if the path needs a project directory, one is known since it was found
    show loaded.projectPath? = loaded.projectPath?.or
      (if (!Path.isAbsolute loaded.settings.logFile) then some host.projectPath else none)
    cases habsolute : Path.isAbsolute loaded.settings.logFile with
    | true => exact Option.or_none.symm
    | false =>
      rw [PathKind.pathOf?_of_not_isAbsolute habsolute, Option.map_eq_some_iff] at hsettled
      obtain ⟨project, hproject, _⟩ := hsettled
      rw [hproject]
      rfl
  next =>
    rw [logPathNeedsProject_eq]
    cases habsolute : Path.isAbsolute loaded.settings.logFile with
    | true =>
      have hpath := PathKind.pathOf?_of_isAbsolute habsolute loaded.projectPath?
      refine ⟨?_, hpath, ?_⟩
      · simp [PathKind.needsProject, habsolute]
      · intro path h
        rw [← Option.some.inj h]
        exact hpath
    | false =>
      obtain ⟨hproject, _, _⟩ := reads_projectPath h host
      rw [projectPath_eq] at hproject ⊢
      dsimp only at hproject ⊢
      have hlog := PathKind.pathOf?_of_not_isAbsolute habsolute
        (some (loaded.projectPath?.getD host.projectPath))
      refine ⟨?_, hlog, ?_⟩
      · rw [PathKind.needsProject, habsolute]
        exact hproject
      · intro path h
        rw [← Option.some.inj h]
        exact hlog

/-- **A read gives the path of its kind** below the project directory that is known after it. -/
theorem reads_read (h : loaded.Settled) (kind : PathKind) (host : Host) :
    loaded.Reads kind host (loaded.read kind host).1 (loaded.read kind host).2 := by
  cases kind with
  | project => exact reads_projectPath h host
  | log => exact reads_logPath h host

/-- Of settings that no path was read of, the path of the log file is the one below the project
directory of the working directory. -/
theorem logPath_fst_of_none (hlog : loaded.logPath? = none) (hproject : loaded.projectPath? = none)
    (host : Host) : (loaded.logPath host).1 = loaded.settings.logPathFrom host.projectPath := by
  obtain ⟨hknown, hpath, _⟩ := reads_logPath (settled_of_none hlog) host
  rw [hknown, hproject] at hpath
  cases habsolute : Path.isAbsolute loaded.settings.logFile with
  | true =>
    rw [PathKind.pathOf?_of_isAbsolute habsolute] at hpath
    rw [logPathFrom_of_isAbsolute habsolute]
    exact (Option.some.inj hpath).symm
  | false =>
    rw [PathKind.pathOf?_of_not_isAbsolute habsolute, PathKind.needsProject, habsolute] at hpath
    exact (Option.some.inj hpath).symm

end Loaded

namespace Store

variable {host : Host} {store mid : Store} {loaded : Loaded} {e : LoadError}

/-- Read one of the paths of the settings in force. -/
def read (kind : PathKind) (host : Host) (store : Store) : Except LoadError String × Store :=
  match kind with
  | .project => store.projectPath host
  | .log => store.logPath host

theorem read_of_get_ok (kind : PathKind) (hget : store.get host = (.ok loaded, mid)) :
    store.read kind host
      = (.ok (loaded.read kind host).1, mid.keep (loaded.read kind host).2) := by
  cases kind with
  | project =>
    show store.projectPath host = _
    unfold projectPath
    rw [hget]
    rfl
  | log =>
    show store.logPath host = _
    unfold logPath
    rw [hget]
    rfl

theorem read_of_get_error (kind : PathKind) (hget : store.get host = (.error e, mid)) :
    store.read kind host = (.error e, mid) := by
  cases kind with
  | project =>
    show store.projectPath host = _
    unfold projectPath
    rw [hget]
  | log =>
    show store.logPath host = _
    unfold logPath
    rw [hget]

end Store

end Settings

end OrderBy
