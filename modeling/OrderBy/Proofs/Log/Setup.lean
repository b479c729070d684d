/-
  OrderBy.Proofs.Log.Setup — what a setup leaves behind.

  A setup whose level is unknown changes no logger.  Any other one gives its
  logger that level, keeps the foreign handlers, and puts behind them the
  handlers that it comes to install: all that it wants when it gets through
  (`Setup.Wants`), and when it fails none, or only the console's when both are
  asked for and it fails at the file (`Setup.Leaves`).  What earlier setups had
  installed is gone either way, so nothing depends on how those ended.

  Main results:
    * `exists_leaves_install` — the handlers that a setup comes to install;
    * `run_cases` — everything that a setup can do to the loggers;
    * `logger_run_of_ne`, `foreign_run`, `single_run` — what it keeps;
    * `fulfilled_run` — its logger is as asked for when it gets through.
-/
import Mathlib.Data.List.Nodup
import OrderBy.Log.Session

namespace OrderBy.Log

/-! ## §1. Own and foreign handlers -/

namespace Logger

variable {logger : Logger} {level : Level} {handlers : List Handler}

/-- The handlers that setups installed. -/
def own (logger : Logger) : List Handler := logger.handlers.filter Handler.isOwn

/-- The handlers that no setup installed. -/
def foreign (logger : Logger) : List Handler := logger.handlers.filter Handler.isForeign

/-- How many handlers have a name. -/
def count (logger : Logger) (name : String) : Nat :=
  (logger.handlers.map Handler.name).count (some name)

/-- No two handlers share a name that is kept for setups. -/
def Single (logger : Logger) : Prop :=
  ∀ name : String, handlerPrelude.toList.isPrefixOf name.toList = true → logger.count name ≤ 1

/-- The logger at a level, with new handlers behind its foreign ones and no others. -/
def renew (logger : Logger) (level : Level) (handlers : List Handler) : Logger :=
  ⟨some level, logger.foreign ++ handlers⟩

/-- Foreign handlers stay when a logger is renewed by handlers of a setup. -/
theorem foreign_renew (h : ∀ handler ∈ handlers, handler.isOwn = true) :
    (logger.renew level handlers).foreign = logger.foreign := by
  have hnone : handlers.filter Handler.isForeign = [] := by
    rw [List.filter_eq_nil_iff]
    intro handler hmem
    rw [Handler.isForeign, h handler hmem]
    decide
  show (logger.foreign ++ handlers).filter Handler.isForeign = _
  rw [List.filter_append, hnone, List.append_nil, foreign, List.filter_filter]
  simp only [Bool.and_self]

/-- Those handlers are then all that the logger has of setups. -/
theorem own_renew (h : ∀ handler ∈ handlers, handler.isOwn = true) :
    (logger.renew level handlers).own = handlers := by
  have hnone : logger.foreign.filter Handler.isOwn = [] := by
    rw [List.filter_eq_nil_iff]
    intro handler hmem
    have hforeign := (List.mem_filter.mp hmem).2
    rwa [Handler.isForeign, Bool.not_eq_true', ← Bool.not_eq_true] at hforeign
  show (logger.foreign ++ handlers).filter Handler.isOwn = handlers
  rw [List.filter_append, hnone, List.nil_append, List.filter_eq_self]
  exact h

end Logger

/-- A foreign handler has no name that is kept for setups. -/
theorem Handler.name_ne_of_isForeign {handler : Handler} (h : handler.isForeign = true)
    {name : String} (hname : handlerPrelude.toList.isPrefixOf name.toList = true) :
    handler.name ≠ some name := by
  intro heq
  have hown : handler.isOwn = true := by rwa [isOwn, heq, Option.getD_some]
  rw [isForeign, hown] at h
  exact absurd h (by decide)

/-- A name that is kept for setups is not found among foreign handlers. -/
theorem Logger.count_foreign (logger : Logger) {name : String}
    (hname : handlerPrelude.toList.isPrefixOf name.toList = true) :
    (logger.foreign.map Handler.name).count (some name) = 0 := by
  rw [List.count_eq_zero, List.mem_map]
  rintro ⟨handler, hmem, heq⟩
  exact Handler.name_ne_of_isForeign (List.mem_filter.mp hmem).2 hname heq

/-- A logger renewed by handlers of different names has single names. -/
theorem Logger.single_renew {logger : Logger} {level : Level} {handlers : List Handler}
    (h : (handlers.map Handler.name).Nodup) : (logger.renew level handlers).Single := by
  intro name hname
  show ((logger.foreign ++ handlers).map Handler.name).count (some name) ≤ 1
  -- the name can only be that of a new handler
  rw [List.map_append, List.count_append, logger.count_foreign hname, Nat.zero_add]
  exact List.nodup_iff_count_le_one.mp h (some name)

/-- **A logger gains handlers** behind those that it has, and no other logger changes. -/
structure Tree.Gains (tree after : Tree) (name : String) (handlers : List Handler) : Prop where
  /-- The logger has them now. -/
  logger : after.logger name
    = { tree.logger name with handlers := (tree.logger name).handlers ++ handlers }
  /-- The others are as they were. -/
  frame : ∀ other ≠ name, after.logger other = tree.logger other

namespace Tree

variable {tree after : Tree} {name : String} {handlers : List Handler}

theorem gains_nil : tree.Gains tree name [] where
  logger := by rw [List.append_nil]
  frame _ _ := rfl

theorem gains_addHandler (h : tree.Gains after name handlers) (handler : Handler) :
    tree.Gains (after.addHandler name handler) name (handlers ++ [handler]) where
  logger := by rw [addHandler, logger_update_self, h.logger, List.append_assoc]
  frame other hother := by rw [addHandler, logger_update_of_ne _ _ hother, h.frame other hother]

end Tree

namespace Setup

variable {setup : Setup} {host : Host} {tree : Tree} {outcome : Except SetupError Unit}
  {handlers : List Handler}

/-! ## §2. Handlers that a setup installs -/

/-- The file handler of a path, which leads to its place from the working directory. -/
def fileHandlerOf (host : Host) (path template : String) : Handler :=
  let place := host.directory.follow path
  fileHandler place (place.pathFrom (absoluteFront path)) template

/-- **The handlers that a setup asks for**: those of its output, the console's first, all with the
template of its format.  A value that is no output asks for none. -/
inductive Wants (setup : Setup) (host : Host) : List Handler → Prop where
  /-- The value is no output. -/
  | none : setup.output? = none → Wants setup host []
  /-- The output is the console. -/
  | console {template : String} : setup.output? = some .console →
      setup.template? = .ok template → Wants setup host [consoleHandler template]
  /-- The output is a file. -/
  | file {path template : String} : setup.output? = some .file →
      setup.logFile? = .ok path → setup.template? = .ok template →
      Wants setup host [fileHandlerOf host path template]
  /-- The output is both. -/
  | both {path template : String} : setup.output? = some .both →
      setup.logFile? = .ok path → setup.template? = .ok template →
      Wants setup host [consoleHandler template, fileHandlerOf host path template]

/-- **The handlers that a setup comes to install**, by how it ends. -/
inductive Leaves (setup : Setup) (host : Host) :
    Except SetupError Unit → List Handler → Prop where
  /-- It gets through. -/
  | done {handlers : List Handler} : setup.Wants host handlers →
      Leaves setup host (.ok ()) handlers
  /-- It fails before it installs a handler. -/
  | early (e : SetupError) : Leaves setup host (.error e) []
  /-- It fails at the file. -/
  | late (e : SetupError) {template : String} : setup.output? = some .both →
      setup.template? = .ok template → Leaves setup host (.error e) [consoleHandler template]

/-- The handlers installed are some of two. -/
theorem sublist_of_leaves (h : setup.Leaves host outcome handlers) :
    ∃ path template,
      handlers.Sublist [consoleHandler template, fileHandlerOf host path template] := by
  cases h with
  | done hwants =>
    cases hwants with
    | none => exact ⟨"", "", List.nil_sublist _⟩
    | @console template => exact ⟨"", template, (List.nil_sublist _).cons_cons _⟩
    | @file path template => exact ⟨path, template, (List.Sublist.refl _).cons _⟩
    | @both path template => exact ⟨path, template, List.Sublist.refl _⟩
  | early => exact ⟨"", "", List.nil_sublist _⟩
  | @late _ template => exact ⟨"", template, (List.nil_sublist _).cons_cons _⟩

/-- The handlers installed are known as a setup's. -/
theorem isOwn_of_leaves (h : setup.Leaves host outcome handlers) :
    ∀ handler ∈ handlers, handler.isOwn = true := by
  obtain ⟨path, template, hsub⟩ := sublist_of_leaves h
  intro handler hmem
  have htwo := hsub.subset hmem
  rw [List.mem_cons, List.mem_singleton] at htwo
  rcases htwo with rfl | rfl
  · show handlerPrelude.toList.isPrefixOf (handlerPrelude ++ "console").toList = true
    decide
  · show handlerPrelude.toList.isPrefixOf (handlerPrelude ++ "file").toList = true
    decide

/-- The handlers installed have names of their own. -/
theorem nodup_of_leaves (h : setup.Leaves host outcome handlers) :
    (handlers.map Handler.name).Nodup := by
  obtain ⟨path, template, hsub⟩ := sublist_of_leaves h
  have htwo : [some (handlerPrelude ++ "console"), some (handlerPrelude ++ "file")].Nodup := by
    decide
  exact List.Nodup.sublist (hsub.map Handler.name) htwo

/-! ## §3. The steps of a setup -/

theorem installConsole_of_not (h : (setup.output?.map Output.toConsole).getD false = false) :
    setup.installConsole host tree = ⟨tree, host, .ok ()⟩ := by
  rw [installConsole, h]
  rfl

/-- The console handler is installed, or nothing is, for want of a template. -/
theorem installConsole_cases (h : (setup.output?.map Output.toConsole).getD false = true) :
    (∃ e, setup.template? = .error e ∧ setup.installConsole host tree = ⟨tree, host, .error e⟩)
      ∨ ∃ template, setup.template? = .ok template
        ∧ setup.installConsole host tree
          = ⟨tree.addHandler setup.target (consoleHandler template), host, .ok ()⟩ := by
  rw [installConsole, if_pos h]
  split
  next e htemplate => exact .inl ⟨e, htemplate, rfl⟩
  next template htemplate => exact .inr ⟨template, htemplate, rfl⟩

/-- Asked for or not, the console's step gets through and leaves the host as it was, unless the
template stops it. -/
theorem installConsole_ok_or_error (setup : Setup) (host : Host) (tree : Tree) :
    (∃ e, setup.template? = .error e ∧ setup.installConsole host tree = ⟨tree, host, .error e⟩)
      ∨ ∃ after, setup.installConsole host tree = ⟨after, host, .ok ()⟩ := by
  by_cases hasked : (setup.output?.map Output.toConsole).getD false = true
  · rcases installConsole_cases hasked with hstopped | ⟨template, _, hstep⟩
    · exact .inl hstopped
    · exact .inr ⟨_, hstep⟩
  · exact .inr ⟨tree, installConsole_of_not (by simpa using hasked)⟩

theorem installFile_of_not (h : (setup.output?.map Output.toFile).getD false = false) :
    setup.installFile host tree = ⟨tree, host, .ok ()⟩ := by
  rw [installFile, h]
  rfl

/-- A file that is opened has the place that its path leads to. -/
theorem openFile_eq_ok {place : Location} {path : String} {opened : Host}
    (h : setup.openFile host = (.ok (place, path), opened)) :
    ∃ given, setup.logFile? = .ok given ∧ place = host.directory.follow given
      ∧ path = place.pathFrom (absoluteFront given) := by
  unfold openFile at h
  split at h
  next => exact absurd (congrArg Prod.fst h) (by simp)
  next given hgiven =>
    dsimp only at h
    split at h
    next => exact absurd (congrArg Prod.fst h) (by simp)
    next =>
      injection h with hplace _
      injection hplace with hplace
      injection hplace with hplace hpath
      subst hplace
      exact ⟨given, hgiven, rfl, hpath.symm⟩

/-- The file handler is installed, or nothing is, for want of a file or a template. -/
theorem installFile_cases (h : (setup.output?.map Output.toFile).getD false = true) :
    (∃ e opened, ((setup.openFile host).1 = .error e ∨ setup.template? = .error e)
        ∧ setup.installFile host tree = ⟨tree, opened, .error e⟩)
      ∨ ∃ path template opened, setup.logFile? = .ok path ∧ setup.template? = .ok template
        ∧ setup.installFile host tree
          = ⟨tree.addHandler setup.target (fileHandlerOf host path template), opened, .ok ()⟩ := by
  rw [installFile, if_pos h]
  split
  next e opened hopen => exact .inl ⟨e, opened, .inl (congrArg Prod.fst hopen), rfl⟩
  next place path opened hopen =>
    split
    next e htemplate => exact .inl ⟨e, opened, .inr htemplate, rfl⟩
    next template htemplate =>
      obtain ⟨given, hgiven, rfl, rfl⟩ := openFile_eq_ok hopen
      exact .inr ⟨given, template, opened, hgiven, htemplate, rfl⟩

/-- **A setup comes to install** all that it asks for, nothing, or only the console's handler. -/
theorem exists_leaves_install (setup : Setup) (host : Host) (tree : Tree) :
    ∃ handlers, setup.Leaves host (setup.install host tree).outcome handlers
      ∧ tree.Gains (setup.install host tree).tree setup.target handlers := by
  unfold install
  split
  next e _ => exact ⟨[], .early e, Tree.gains_nil⟩
  next =>
    dsimp only
    -- the output decides which of the two steps do anything
    cases houtput : setup.output? with
    | none =>
      rw [installConsole_of_not (by rw [houtput]; rfl)]
      dsimp only
      rw [installFile_of_not (by rw [houtput]; rfl)]
      exact ⟨[], .done (.none houtput), Tree.gains_nil⟩
    | some output =>
      cases output with
      | console =>
        rcases installConsole_cases (by rw [houtput]; rfl) with ⟨e, _, h⟩ | ⟨template, htemplate, h⟩
        · rw [h]
          exact ⟨[], .early e, Tree.gains_nil⟩
        · rw [h]
          dsimp only
          rw [installFile_of_not (by rw [houtput]; rfl)]
          exact ⟨_, .done (.console houtput htemplate), Tree.gains_addHandler Tree.gains_nil _⟩
      | file =>
        rw [installConsole_of_not (by rw [houtput]; rfl)]
        dsimp only
        rcases installFile_cases (by rw [houtput]; rfl) with
          ⟨e, opened, _, h⟩ | ⟨path, template, opened, hpath, htemplate, h⟩
        · rw [h]
          exact ⟨[], .early e, Tree.gains_nil⟩
        · rw [h]
          exact ⟨_, .done (.file houtput hpath htemplate),
            Tree.gains_addHandler Tree.gains_nil _⟩
      | both =>
        rcases installConsole_cases (by rw [houtput]; rfl) with ⟨e, _, h⟩ | ⟨template, htemplate, h⟩
        · rw [h]
          exact ⟨[], .early e, Tree.gains_nil⟩
        · rw [h]
          dsimp only
          have hconsole : tree.Gains (tree.addHandler setup.target (consoleHandler template))
              setup.target [consoleHandler template] := Tree.gains_addHandler Tree.gains_nil _
          rcases installFile_cases (by rw [houtput]; rfl) with
            ⟨e, opened, _, h⟩ | ⟨path, again, opened, hpath, hagain, h⟩
          · rw [h]
            exact ⟨_, .late e houtput htemplate, hconsole⟩
          · -- both handlers are given the template of the one format
            obtain rfl : template = again := Except.ok.inj (htemplate.symm.trans hagain)
            rw [h]
            exact ⟨_, .done (.both houtput hpath htemplate), Tree.gains_addHandler hconsole _⟩

/-! ## §4. A whole setup -/

/-- **Everything that a setup can do to the loggers.**  It stops at an unknown level, or leaves its
logger with the level asked for, the foreign handlers it found, and those it came to install. -/
theorem run_cases (setup : Setup) (host : Host) (tree : Tree) :
    ((setup.run host tree).outcome = .error (.unknownLevel setup.level)
        ∧ (setup.run host tree).tree.logger = tree.logger)
      ∨ ∃ level handlers, setup.level? = some level
        ∧ setup.Leaves host (setup.run host tree).outcome handlers
        ∧ (setup.run host tree).tree.logger setup.target
          = (tree.logger setup.target).renew level handlers
        ∧ ∀ other ≠ setup.target,
          (setup.run host tree).tree.logger other = tree.logger other := by
  unfold run
  split
  next => exact .inl ⟨rfl, Tree.logger_enter tree setup.target⟩
  next level hlevel =>
    obtain ⟨handlers, hleaves, hgains⟩ :=
      exists_leaves_install setup host (setup.prepare level (tree.enter setup.target))
    refine .inr ⟨level, handlers, hlevel, hleaves, ?_, ?_⟩
    · -- only foreign handlers are left once the setup has prepared its logger
      rw [hgains.logger, prepare, Tree.logger_update_self, Tree.logger_enter]
      rfl
    · intro other hother
      rw [hgains.frame other hother, prepare, Tree.logger_update_of_ne _ _ hother,
        Tree.logger_enter]

/-- **A setup changes no logger but its own**, whether it gets through or not. -/
theorem logger_run_of_ne (setup : Setup) (host : Host) (tree : Tree) {name : String}
    (hname : name ≠ setup.target) : (setup.run host tree).tree.logger name = tree.logger name := by
  rcases setup.run_cases host tree with ⟨_, hlogger⟩ | ⟨_, _, _, _, _, hframe⟩
  · rw [hlogger]
  · exact hframe name hname

/-- **A setup keeps the foreign handlers of every logger**, whether it gets through or not. -/
theorem foreign_run (setup : Setup) (host : Host) (tree : Tree) (name : String) :
    ((setup.run host tree).tree.logger name).foreign = (tree.logger name).foreign := by
  by_cases hname : name = setup.target
  · rcases setup.run_cases host tree with ⟨_, hlogger⟩ | ⟨level, handlers, _, hleaves, hlogger, _⟩
    · rw [hlogger]
    · rw [hname, hlogger, Logger.foreign_renew (isOwn_of_leaves hleaves)]
  · rw [setup.logger_run_of_ne host tree hname]

/-- **A setup keeps names single**, however many handlers earlier setups had left. -/
theorem single_run {setup : Setup} {host : Host} {tree : Tree} {name : String}
    (h : (tree.logger name).Single) : ((setup.run host tree).tree.logger name).Single := by
  by_cases hname : name = setup.target
  · rcases setup.run_cases host tree with ⟨_, hlogger⟩ | ⟨level, handlers, _, hleaves, hlogger, _⟩
    · rwa [hlogger]
    · rw [hname, hlogger]
      exact Logger.single_renew (nodup_of_leaves hleaves)
  · rwa [setup.logger_run_of_ne host tree hname]

/-- **A logger is as a setup asks for**: it has the level, and of the handlers of setups those that
this one wants and no other. -/
structure Fulfilled (setup : Setup) (host : Host) (logger : Logger) : Prop where
  /-- The level is known, and is the logger's. -/
  level : ∃ level, setup.level? = some level ∧ logger.level = some level
  /-- The handlers are those asked for, in order. -/
  own : setup.Wants host logger.own

/-- **A setup that gets through leaves its logger as asked for**, whatever was there before. -/
theorem fulfilled_run {setup : Setup} {host : Host} {tree : Tree}
    (h : (setup.run host tree).outcome = .ok ()) :
    setup.Fulfilled host ((setup.run host tree).tree.logger setup.target) := by
  rcases setup.run_cases host tree with ⟨hfail, _⟩ | ⟨level, handlers, hlevel, hleaves, hlogger, _⟩
  · exact absurd (hfail.symm.trans h) (by simp)
  · -- getting through is one of the three ways to end
    rw [h] at hleaves
    rw [hlogger]
    constructor
    · exact ⟨level, hlevel, rfl⟩
    · rw [Logger.own_renew (isOwn_of_leaves hleaves)]
      cases hleaves with
      | done hwants => exact hwants

end Setup

end OrderBy.Log
