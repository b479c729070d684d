/-
  OrderBy.Log.Setup — setting up a logger.

  A setup sets the level of one logger and replaces the handlers that earlier
  setups gave it; handlers of anyone else stay.  It works in steps, and one
  that fails leaves what the steps before it have done: the level is set and
  the old handlers are gone before the format of a new one is looked at, and
  the console handler is in place before the file is asked for.
-/
import OrderBy.Host
import OrderBy.Json.Value
import OrderBy.Log.Tree

namespace OrderBy.Log

/-- How the names of the handlers start that setups install. -/
def handlerPrelude : String := "fastsort."

/-- Was a handler installed by a setup? -/
def Handler.isOwn (handler : Handler) : Bool :=
  handlerPrelude.toList.isPrefixOf (handler.name.getD "").toList

/-- **A format as a caller gives it.** -/
inductive FormatChoice where
  /-- A format. -/
  | format (format : Format)
  /-- A value that is no text. -/
  | value (value : Json)
  deriving Repr, Inhabited

/-- **What a setup is asked for.** -/
structure Setup where
  /-- The level, which has to be the word of one. -/
  level : Json := .text "INFO"
  /-- The output; a value that is none of the outputs installs no handler. -/
  output : Json := .text "console"
  /-- The format. -/
  format : FormatChoice := .format (.known .textLight)
  /-- The path of the log file; an empty value stands for none. -/
  logFile : Json := .null
  /-- The logger. -/
  logger : Option String := none
  deriving Repr, Inhabited

/-- **Why logging cannot be set up.** -/
inductive SetupError where
  /-- The value is no level. -/
  | unknownLevel (value : Json)
  /-- Records are to go to a file, and none is given. -/
  | missingFile
  /-- The value given for the file is no path. -/
  | notPath (value : Json)
  /-- The file cannot be opened; paths start with the given slashes. -/
  | file (front : String) (obstacle : FileTree.Obstacle)
  /-- The template has no field. -/
  | invalidTemplate (template : String)
  /-- The value given for the format is no template. -/
  | notTemplate (value : Json)
  /-- The value given for the format cannot be looked up among the known formats. -/
  | notFormat (value : Json)
  deriving Repr, Inhabited

/-- The wording of a cause. -/
def SetupError.message : SetupError → String
  | .unknownLevel value => value.quoted ++ " is not a valid LogLevel"
  | .missingFile => "A log file is required when logging to a file"
  | .notPath value => "expected str, bytes or os.PathLike object, not " ++ value.kindName
  | .file front obstacle => obstacle.message front
  | .invalidTemplate template => "Invalid format '" ++ template ++ "' for '%' style"
  | .notTemplate value => "expected string or bytes-like object, got '" ++ value.kindName ++ "'"
  | .notFormat value => "unhashable type: '" ++ value.kindName ++ "'"

namespace Setup

/-! ## §1. What is asked for -/

/-- The name that the logger is kept under. -/
def target (setup : Setup) : String := Tree.canonical setup.logger

/-- The output asked for. -/
def output? (setup : Setup) : Option Output := setup.output.text?.bind Output.ofValue?

/-- The level asked for. -/
def level? (setup : Setup) : Option Level := setup.level.text?.bind Level.ofName?

/-- The path of the log file. -/
def logFile? (setup : Setup) : Except SetupError String :=
  if setup.logFile.isEmpty then .error .missingFile
  else
    match setup.logFile with
    | .text path => .ok path
    | value => .error (.notPath value)

/-- A value that is a list or an object, which is never looked up. -/
def isCompound : Json → Bool
  | .list _ | .object _ => true
  | _ => false

/-- Look for the format among the known ones. -/
def checkFormat (setup : Setup) : Except SetupError Unit :=
  match setup.format with
  | .format _ => .ok ()
  | .value value => if isCompound value then .error (.notFormat value) else .ok ()

/-- The template of the new handlers, if it is accepted. -/
def template? (setup : Setup) : Except SetupError String :=
  match setup.format with
  | .format format =>
    if Template.isValid format.template then .ok format.template
    else .error (.invalidTemplate format.template)
  | .value value =>
    if value.isEmpty then .ok Format.plainTemplate else .error (.notTemplate value)

/-! ## §2. The steps -/

/-- The console handler of a template. -/
def consoleHandler (template : String) : Handler :=
  { kind := .console, name := some (handlerPrelude ++ "console"), template := some template }

/-- The file handler of a place, its path, and a template. -/
def fileHandler (place : Location) (path template : String) : Handler :=
  { kind := .file place path, name := some (handlerPrelude ++ "file"), template := some template }

/-- The state of logging: all loggers, and the host whose files they write to. -/
structure Result where
  /-- The loggers. -/
  tree : Tree
  /-- The host. -/
  host : Host
  /-- Nothing, or why the setup failed. -/
  outcome : Except SetupError Unit

/-- Set the level and take away the handlers of earlier setups. -/
def prepare (setup : Setup) (level : Level) (tree : Tree) : Tree :=
  tree.update setup.target fun logger =>
    { level := some level, handlers := logger.handlers.filter (!·.isOwn) }

/-- Install the console handler, if it is asked for. -/
def installConsole (setup : Setup) (host : Host) (tree : Tree) : Result :=
  if (setup.output?.map Output.toConsole).getD false then
    match setup.template? with
    | .error e => ⟨tree, host, .error e⟩
    | .ok template => ⟨tree.addHandler setup.target (consoleHandler template), host, .ok ()⟩
  else ⟨tree, host, .ok ()⟩

/-- What stands in front of the names of a path once it is absolute. -/
def absoluteFront (path : String) : String :=
  if Path.isAbsolute path then Path.front path else "/"

/-- Open the log file: the place of the file with its path, and the host on which it is there.  A
file that cannot be opened leaves the directories that were made for it. -/
def openFile (setup : Setup) (host : Host) : Except SetupError (Location × String) × Host :=
  match setup.logFile? with
  | .error e => (.error e, host)
  | .ok path =>
    let front := absoluteFront path
    let place := host.directory.follow path
    let tree := host.tree.makeWay place
    match host.tree.obstacle? place with
    | some obstacle => (.error (.file front obstacle), { host with tree })
    | none => (.ok (place, place.pathFrom front), { host with tree := tree.append place "" })

/-- Install the file handler, if it is asked for.  The file is there before the template is
looked at. -/
def installFile (setup : Setup) (host : Host) (tree : Tree) : Result :=
  if (setup.output?.map Output.toFile).getD false then
    match setup.openFile host with
    | (.error e, opened) => ⟨tree, opened, .error e⟩
    | (.ok (place, path), opened) =>
      match setup.template? with
      | .error e => ⟨tree, opened, .error e⟩
      | .ok template =>
        ⟨tree.addHandler setup.target (fileHandler place path template), opened, .ok ()⟩
  else ⟨tree, host, .ok ()⟩

/-- Install the handlers that are asked for, the console's first. -/
def install (setup : Setup) (host : Host) (tree : Tree) : Result :=
  match setup.checkFormat with
  | .error e => ⟨tree, host, .error e⟩
  | .ok () =>
    let console := setup.installConsole host tree
    match console.outcome with
    | .error e => ⟨console.tree, console.host, .error e⟩
    | .ok () => setup.installFile console.host console.tree

/-- **Run a setup.**  Its logger enters the tree even if the setup fails. -/
def run (setup : Setup) (host : Host) (tree : Tree) : Result :=
  match setup.level? with
  | none => ⟨tree.enter setup.target, host, .error (.unknownLevel setup.level)⟩
  | some level => setup.install host (setup.prepare level (tree.enter setup.target))

end Setup

end OrderBy.Log
