/-
  OrderBy.Proofs.Command.Logging — accepted settings set up logging.

  The command line sets up logging with what its settings say.  A setup has many
  ways to fail, and the checks that settings have passed rule out all but two:
  the level is known, the output is one of the three, and the path of the log
  file is absolute, so there is one.  What is left is a file that cannot be
  opened, and a format.  A format that is no known one is kept as a template
  that nobody has looked at, and it fails here if it has no directive.

  Main results:
    * `Setup.install_error` — which step of a setup is at fault;
    * `Format.template_ofText_cases` — which formats are refused;
    * `logsSafely_of_accepted` — what is left of all the ways to fail.
-/
import OrderBy.Command.Run
import OrderBy.Proofs.Log.Setup
import OrderBy.Proofs.Log.Template
import OrderBy.Proofs.Settings.Acceptance
import OrderBy.Proofs.Settings.Paths

namespace OrderBy

/-! ## §1. Formats -/

namespace Log

/-- **A word that is refused as a format**: it is not empty, names no known format, and has no
directive. -/
def Format.IsRefused (word : String) : Prop :=
  word ≠ "" ∧ KnownFormat.ofValue? word = none
    ∧ ¬ ∃ directive, Template.IsDirective directive ∧ directive <:+: word.toList

theorem KnownFormat.isValid_template (format : KnownFormat) :
    Template.isValid format.template = true := by
  cases format <;> decide +kernel

/-- **The template of a word**: it is accepted, or it is the word itself and the word is refused. -/
theorem Format.template_ofText_cases (word : String) :
    (Template.isValid (ofText word).template = true ∧ ¬ IsRefused word)
      ∨ Template.isValid (ofText word).template = false ∧ (ofText word).template = word
        ∧ IsRefused word := by
  unfold ofText
  split
  next format hknown =>
    -- the templates of the known formats are valid
    refine .inl ⟨format.isValid_template, ?_⟩
    rintro ⟨_, hunknown, _⟩
    rw [hknown] at hunknown
    exact absurd hunknown (by simp)
  next hunknown =>
    rw [template]
    by_cases hempty : word.isEmpty = true
    · -- an empty word stands for the usual template
      rw [if_pos hempty]
      refine .inl ⟨by decide +kernel, ?_⟩
      rintro ⟨hfilled, _⟩
      exact hfilled (String.isEmpty_iff.mp hempty)
    · rw [if_neg hempty]
      have hfilled : word ≠ "" := fun h => hempty (String.isEmpty_iff.mpr h)
      cases hvalid : Template.isValid word with
      | true => exact .inl ⟨rfl, fun h => h.2.2 (Template.isValid_iff.mp hvalid)⟩
      | false =>
        refine .inr ⟨rfl, rfl, hfilled, hunknown, ?_⟩
        rw [← Template.isValid_iff, hvalid]
        decide

/-! ## §2. Steps at fault -/

namespace Setup

variable {setup : Setup} {host : Host} {tree : Tree} {output : Output} {path : String}
  {e : SetupError}

theorem openFile_error (hpath : setup.logFile? = .ok path)
    (h : (setup.openFile host).1 = .error e) :
    ∃ front obstacle, e = .file front obstacle
      ∧ host.tree.obstacle? (host.directory.follow path) = some obstacle := by
  rw [openFile, hpath] at h
  dsimp only at h
  split at h
  next obstacle hobstacle => exact ⟨_, obstacle, (Except.error.inj h).symm, hobstacle⟩
  next => exact absurd h (by simp)

/-- **Which step is at fault** when handlers cannot be installed. -/
theorem install_error (h : (setup.install host tree).outcome = .error e) :
    setup.checkFormat = .error e ∨ setup.template? = .error e
      ∨ (setup.output?.map Output.toFile).getD false = true
        ∧ (setup.openFile host).1 = .error e := by
  unfold install at h
  cases hcheck : setup.checkFormat with
  | error found =>
    rw [hcheck] at h
    exact .inl (congrArg Except.error (Except.error.inj h))
  | ok _ =>
    rw [hcheck] at h
    dsimp only at h
    rcases setup.installConsole_ok_or_error host tree with
      ⟨found, htemplate, hstep⟩ | ⟨after, hstep⟩
    · rw [hstep] at h
      obtain rfl : found = e := Except.error.inj h
      exact .inr (.inl htemplate)
    · -- the console's step got through, and has left the host as it was
      rw [hstep] at h
      dsimp only at h
      -- the template was read for the console already, but only if the console was asked for
      by_cases hasked : (setup.output?.map Output.toFile).getD false = true
      · rcases @installFile_cases setup host after hasked with
          ⟨found, _, hfault, hstep⟩ | ⟨_, _, _, _, _, hstep⟩
        · rw [hstep] at h
          obtain rfl : found = e := Except.error.inj h
          rcases hfault with hopen | htemplate
          · exact .inr (.inr ⟨hasked, hopen⟩)
          · exact .inr (.inl htemplate)
        · rw [hstep] at h
          exact absurd h (by simp)
      · rw [installFile_of_not (by simpa using hasked)] at h
        exact absurd h (by simp)

/-- What a setup of some output asks for: there are handlers, and there is a template. -/
theorem of_wants (houtput : setup.output? = some output) {handlers : List Handler}
    (h : setup.Wants host handlers) :
    handlers ≠ [] ∧ ∃ template, setup.template? = .ok template := by
  cases h with
  | none hnone =>
    rw [houtput] at hnone
    exact absurd hnone (by simp)
  | console _ htemplate => exact ⟨List.cons_ne_nil _ _, _, htemplate⟩
  | file _ _ htemplate => exact ⟨List.cons_ne_nil _ _, _, htemplate⟩
  | both _ _ htemplate => exact ⟨List.cons_ne_nil _ _, _, htemplate⟩

end Setup

end Log

/-! ## §3. Setups of settings -/

/-- Accepted settings have the format that its text stands for. -/
theorem Settings.ofText_text_of_accepted {s : Settings} (h : s.Accepted) :
    Log.Format.ofText s.logFormat.text = s.logFormat := by
  obtain ⟨host, overrides, envFile, hload⟩ := h
  obtain ⟨given, hcheck⟩ := check_of_load hload
  have hformat := (passes_of_check hcheck).logFormat
  unfold checkFormat at hformat
  split at hformat
  next =>
    rw [← Except.ok.inj hformat]
    decide
  next word _ => rw [← Except.ok.inj hformat, Log.Format.text_ofText]
  next => exact absurd hformat (by simp)

namespace Command

variable {s : Settings} {host : Host} {tree : Log.Tree} {path : String} {e : Log.SetupError}

theorem level?_setupOf (s : Settings) (path : String) :
    (setupOf s path).level? = some s.logLevel :=
  Log.Level.ofName?_name s.logLevel

theorem output?_setupOf (s : Settings) (path : String) :
    (setupOf s path).output? = some s.logOutput :=
  Log.Output.ofValue?_value s.logOutput

theorem logFile?_setupOf (s : Settings) (h : path ≠ "") :
    (setupOf s path).logFile? = .ok path := by
  have hfilled : path.isEmpty = false := by simpa using h
  show (if path.isEmpty then _ else _) = _
  rw [hfilled]
  rfl

theorem template?_setupOf (s : Settings) (path : String) : (setupOf s path).template?
    = if Log.Template.isValid s.logFormat.template then .ok s.logFormat.template
      else .error (.invalidTemplate s.logFormat.template) := rfl

/-- **The two ways to fail that are left**: the file cannot be opened, or the format is refused. -/
theorem run_setupOf_error (haccepted : s.Accepted) (hpath : path ≠ "")
    (h : ((setupOf s path).run host tree).outcome = .error e) :
    (e = .invalidTemplate s.logFormat.text ∧ Log.Format.IsRefused s.logFormat.text)
      ∨ ∃ front obstacle, e = .file front obstacle ∧ s.logOutput.toFile = true
        ∧ host.tree.obstacle? (host.directory.follow path) = some obstacle := by
  rw [Log.Setup.run, level?_setupOf] at h
  rcases Log.Setup.install_error h with hcheck | htemplate | ⟨hasked, hopen⟩
  · exact absurd hcheck (by simp [Log.Setup.checkFormat, setupOf])
  · left
    rw [template?_setupOf, ← Settings.ofText_text_of_accepted haccepted] at htemplate
    rcases Log.Format.template_ofText_cases s.logFormat.text with
      ⟨hvalid, _⟩ | ⟨hinvalid, hsame, hrefused⟩
    · rw [if_pos hvalid] at htemplate
      exact absurd htemplate (by simp)
    · rw [hinvalid, hsame] at htemplate
      exact ⟨(Except.error.inj htemplate).symm, hrefused⟩
  · right
    rw [output?_setupOf] at hasked
    obtain ⟨front, obstacle, hfault, hobstacle⟩ :=
      Log.Setup.openFile_error (logFile?_setupOf s hpath) hopen
    exact ⟨front, obstacle, hfault, hasked, hobstacle⟩

/-- A setup that gets through was given a format that is not refused. -/
theorem not_isRefused_of_run_setupOf (haccepted : s.Accepted)
    (h : ((setupOf s path).run host tree).outcome = .ok ()) :
    ¬ Log.Format.IsRefused s.logFormat.text := by
  intro hrefused
  obtain ⟨_, template, htemplate⟩ :=
    Log.Setup.of_wants (output?_setupOf s path) (Log.Setup.fulfilled_run h).own
  rw [template?_setupOf, ← Settings.ofText_text_of_accepted haccepted] at htemplate
  rcases Log.Format.template_ofText_cases s.logFormat.text with ⟨_, hnot⟩ | ⟨hinvalid, _⟩
  · exact hnot hrefused
  · rw [hinvalid] at htemplate
    exact absurd htemplate (by simp)

/-- Once settings are loaded and logging is set up, the command does not fail for logging. -/
theorem runCommand_ne_logging (s : Settings) (tree : Log.Tree) (host : Host)
    (arguments : List String) :
    (runCommand s tree host arguments).1 ≠ .failed (.logging e) := by
  unfold runCommand
  split
  next => simp
  next =>
    split
    · simp
    · dsimp only
      split
      next => simp
      next => split <;> simp

/-- **A run fails for logging as its setup does.** -/
theorem runWithSettings_logging_iff {envFile : Option String}
    (hload : Settings.load host [] (some (Settings.Store.envFileOr envFile)) = .ok s)
    (arguments : List String) :
    (runWithSettings host envFile arguments).1 = .failed (.logging e)
      ↔ ((setupOf s (s.logPathFrom host.projectPath)).run host Log.Tree.fresh).outcome
        = .error e := by
  unfold runWithSettings
  rw [Settings.Store.init_of_load_ok hload]
  dsimp only
  rw [Settings.Loaded.logPath_fst_of_none rfl rfl host]
  dsimp only
  split
  next found hfound => simp [hfound]
  next hdone => simp [hdone, runCommand_ne_logging]

/-! ## §4. All the ways to fail -/

/-- **Settings set up logging safely** on a host, whatever loggers there are. -/
structure LogsSafely (s : Settings) (host : Host) (tree : Log.Tree) (path : String) : Prop where
  /-- The path of the log file is absolute. -/
  absolute : Path.isAbsolute path = true
  /-- So it is not empty. -/
  filled : path ≠ ""
  /-- The level is known. -/
  level : ∀ value, ((setupOf s path).run host tree).outcome ≠ .error (.unknownLevel value)
  /-- A log file is given. -/
  file : ((setupOf s path).run host tree).outcome ≠ .error .missingFile
  /-- A setup that gets through has installed a handler. -/
  handled : ((setupOf s path).run host tree).outcome = .ok () →
    (((setupOf s path).run host tree).tree.logger (setupOf s path).target).own ≠ []
  /-- When the log file can be opened, it gets through unless the format is refused, for which it
  fails then. -/
  refused : (s.logOutput.toFile = true →
      host.tree.obstacle? (host.directory.follow path) = none) →
    ((∃ e, ((setupOf s path).run host tree).outcome = .error e)
        ↔ Log.Format.IsRefused s.logFormat.text)
      ∧ ∀ e, ((setupOf s path).run host tree).outcome = .error e →
        e = .invalidTemplate s.logFormat.text
  /-- This is the setup that a run of the command fails for, if it has loaded the settings. -/
  command : ∀ envFile arguments,
    Settings.load host [] (some (Settings.Store.envFileOr envFile)) = .ok s →
    ∀ e, (runWithSettings host envFile arguments).1 = .failed (.logging e)
      ↔ ((setupOf s path).run host Log.Tree.fresh).outcome = .error e

/-- **Accepted settings set up logging safely**, on every host. -/
theorem logsSafely_of_accepted {s : Settings} (haccepted : s.Accepted) (host : Host)
    (tree : Log.Tree) (serial : Nat) :
    LogsSafely s host tree (({ serial, settings := s } : Settings.Loaded).logPath host).1 := by
  rw [Settings.Loaded.logPath_fst_of_none rfl rfl host]
  have habsolute : Path.isAbsolute (s.logPathFrom host.projectPath) = true :=
    s.isAbsolute_logPathFrom host.projectDirectory.isAbsolute_path
  have hfilled := Path.ne_empty_of_isAbsolute habsolute
  -- every clause about failures comes from the two ways to fail that are left
  have herror {e : Log.SetupError} := @run_setupOf_error s host tree _ e haccepted hfilled
  constructor
  case absolute => exact habsolute
  case filled => exact hfilled
  case level =>
    intro value h
    rcases herror h with ⟨h, _⟩ | ⟨front, obstacle, h, _⟩ <;> cases h
  case file =>
    intro h
    rcases herror h with ⟨h, _⟩ | ⟨front, obstacle, h, _⟩ <;> cases h
  case handled =>
    intro h
    exact (Log.Setup.of_wants (output?_setupOf s _) (Log.Setup.fulfilled_run h).own).1
  case refused =>
    intro hfree
    -- with the file free, what fails is the format
    have hformat : ∀ e, ((setupOf s (s.logPathFrom host.projectPath)).run host tree).outcome
        = .error e → e = .invalidTemplate s.logFormat.text
          ∧ Log.Format.IsRefused s.logFormat.text := by
      intro e h
      rcases herror h with hformat | ⟨_, _, _, hfile, hobstacle⟩
      · exact hformat
      · rw [hfree hfile] at hobstacle
        exact absurd hobstacle (by simp)
    refine ⟨⟨fun ⟨e, h⟩ => (hformat e h).2, ?_⟩, fun e h => (hformat e h).1⟩
    intro hrefused
    cases h : ((setupOf s (s.logPathFrom host.projectPath)).run host tree).outcome with
    | ok _ => exact absurd hrefused (not_isRefused_of_run_setupOf haccepted h)
    | error e => exact ⟨e, rfl⟩
  case command =>
    intro envFile arguments hload e
    exact runWithSettings_logging_iff hload arguments

/-- Settings with a format that names no field are accepted, and below a marked directory, where the
log file can be opened, their setup fails for that format. -/
theorem logsSafely_of_accepted_percent :
    let s : Settings := { logOutput := .both, logFormat := .custom "100%", logFile := "app.log" }
    let host : Host :=
      { tree := { files := [(⟨["pyproject.toml", "srv"]⟩, "")] }, directory := ⟨["api", "srv"]⟩ }
    s.Accepted ∧ LogsSafely s host Log.Tree.fresh "/srv/app.log"
      ∧ ((setupOf s "/srv/app.log").run host Log.Tree.fresh).outcome
        = .error (.invalidTemplate "100%") := by
  intro s host
  let source : Host := { environment := [("LOG_OUTPUT", "both"), ("LOG_FORMAT", "100%")] }
  have haccepted : s.Accepted := ⟨source, [("log_file", .text "app.log")], none, rfl⟩
  have hpath : (({ serial := 0, settings := s } : Settings.Loaded).logPath host).1
      = "/srv/app.log" := by decide +kernel
  have hsafely := logsSafely_of_accepted haccepted host Log.Tree.fresh 0
  rw [hpath] at hsafely
  refine ⟨haccepted, hsafely, ?_⟩
  have hrefused : Log.Format.IsRefused s.logFormat.text :=
    ⟨by decide, by decide, fun h => absurd (Log.Template.isValid_iff.mpr h) (by decide +kernel)⟩
  obtain ⟨hfails, hformat⟩ := hsafely.refused (fun _ => by decide +kernel)
  obtain ⟨e, h⟩ := hfails.mpr hrefused
  rw [h, hformat e h]
  rfl

end Command

end OrderBy
