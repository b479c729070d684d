/-
  OrderBy.Log.Tree — loggers, their handlers, and the lines they write.

  A logger is known by its name; the empty name is the root's.  It enters the
  tree when it is first asked for.  The names above a logger are what stands
  before the dots of its own name; its parent is the nearest one of them that
  has entered, and the root if none has.  A record is written when it is as
  urgent as the nearest level set on the way up, and then goes to the handlers
  of the logger and of all its ancestors, in that order.

  There is one exception: a logger whose name is a beginning of the root's own
  name does not come between the root and loggers that entered before it.
-/
import OrderBy.Host
import OrderBy.Log.Level
import OrderBy.Log.Template

namespace OrderBy.Log

/-! ## §1. Handlers and loggers -/

/-- What a handler does with a line. -/
inductive HandlerKind where
  /-- It shows the line on the console. -/
  | console
  /-- It adds the line to a file, whose path is shown as given. -/
  | file (place : Location) (path : String)
  /-- It does nothing. -/
  | silent
  deriving DecidableEq, Repr

/-- **A handler of records.** -/
structure Handler where
  /-- What it does with a line. -/
  kind : HandlerKind
  /-- Its name, if it has one. -/
  name : Option String := none
  /-- The template of its lines, if it has one. -/
  template : Option String := none
  deriving DecidableEq, Repr

/-- **The state of a logger.** -/
structure Logger where
  /-- The level set on it, if any. -/
  level : Option Level := none
  /-- Its handlers, in the order added. -/
  handlers : List Handler := []
  deriving DecidableEq, Repr, Inhabited

/-- **All loggers**, by name. -/
structure Tree where
  /-- The state of the logger of a name. -/
  logger : String → Logger
  /-- The names of the loggers that have entered, in that order. -/
  entered : List String := []

namespace Tree

/-- The tree before any setup: the root lets warnings through, and no logger has a handler. -/
def fresh : Tree where
  logger name := if name = "" then { level := some .warning } else {}

/-- The name that a logger is kept under: "root" is another name of the root. -/
def canonical (name : Option String) : String :=
  match name with
  | some name => if name = "root" then "" else name
  | none => ""

/-- The name of the root. -/
def rootName : String := "root"

/-- The name that a logger gives itself. -/
def ownName (name : String) : String :=
  if name = "" then rootName else name

/-- Change one logger. -/
def update (tree : Tree) (name : String) (change : Logger → Logger) : Tree where
  logger other := if other = name then change (tree.logger name) else tree.logger other
  entered := tree.entered

/-- **Ask for a logger**, which enters if it has not yet. -/
def enter (tree : Tree) (name : String) : Tree :=
  if name = "" ∨ name ∈ tree.entered then tree
  else { tree with entered := tree.entered ++ [name] }

/-- Asking for a logger changes no logger. -/
@[simp] theorem logger_enter (tree : Tree) (name : String) :
    (tree.enter name).logger = tree.logger := by
  unfold enter
  split <;> rfl

@[simp] theorem logger_update_self (tree : Tree) (name : String) (change : Logger → Logger) :
    (tree.update name change).logger name = change (tree.logger name) := by
  simp [update]

theorem logger_update_of_ne (tree : Tree) {name other : String} (change : Logger → Logger)
    (h : other ≠ name) : (tree.update name change).logger other = tree.logger other := by
  simp [update, h]

/-- Add a handler to a logger, as its last one. -/
def addHandler (tree : Tree) (name : String) (handler : Handler) : Tree :=
  tree.update name fun logger => { logger with handlers := logger.handlers ++ [handler] }

/-! ## §2. Ancestors -/

/-- What stands before the dots of a name that is given in reverse, the longest first.  Nothing
stands before a dot at the front, and a dot is passed over that follows another one. -/
def namesAboveReversed : List Char → List (List Char)
  | [] => []
  | '.' :: before =>
    match before with
    | [] => []
    | _ :: rest => before.reverse :: namesAboveReversed rest
  | _ :: rest => namesAboveReversed rest

/-- The names above a logger, the longest first. -/
def namesAbove (name : String) : List String :=
  (namesAboveReversed name.toList.reverse).map String.ofList

/-- Had a logger entered when another one did?  A logger that has not entered is as good as the
last one. -/
def hadEntered (tree : Tree) (name later : String) : Bool :=
  tree.entered.idxOf name < tree.entered.idxOf later

/-- May a logger that has entered come between the root and another one?  One whose name is a
beginning of the root's name may only if it entered before. -/
def mayLead (tree : Tree) (name below : String) : Bool :=
  tree.entered.contains name
    && (!name.toList.isPrefixOf rootName.toList || tree.hadEntered name below)

/-- **The parent of a logger**, unless that is the root. -/
def parent? (tree : Tree) (name : String) : Option String :=
  (namesAbove name).find? fun above => tree.mayLead above name

/-- A logger's name and those of its ancestors; the fuel bounds how many there are. -/
def lineageFrom (tree : Tree) : (fuel : Nat) → String → List String
  | 0, _ => [""]
  | fuel + 1, name =>
    name :: match tree.parent? name with
      | some parent => tree.lineageFrom fuel parent
      | none => [""]

/-- **A logger's name and those of its ancestors**, the root's last.  A name has no more names
above it than it has characters. -/
def lineage (tree : Tree) (name : String) : List String :=
  tree.lineageFrom name.length name

/-- The level a logger goes by: the nearest one set on the way up. -/
def effectiveLevel (tree : Tree) (name : String) : Option Level :=
  (tree.lineage name).findSome? fun ancestor => (tree.logger ancestor).level

/-- Is a record of a level written? -/
def isEnabled (tree : Tree) (name : String) (level : Level) : Bool :=
  ((tree.effectiveLevel name).map fun least => decide (least.number ≤ level.number)).getD true

/-! ## §3. Writing -/

/-- The value of a collection that holds nothing. -/
def emptyCollection : FieldValue :=
  let shown := "()".toList
  .compound shown shown

/-- A stand-in for the path of the program, of which no more is known than that it is absolute. -/
def programPath : String := "/program"

/-- The fields of a record.  Of the place in the program and of the running process no more is
known than that there are such fields. -/
def fields (clock name : String) (level : Level) (message : String) :
    String → Option FieldValue
  | "name" => some (.text (ownName name))
  | "levelname" => some (.text level.name)
  | "levelno" => some (.number level.number)
  | "message" => some (.text message)
  | "asctime" => some (.text clock)
  | "msg" => some (.text message)
  | "args" => some emptyCollection
  | "threadName" => some (.text "MainThread")
  | "processName" => some (.text "MainProcess")
  | "exc_info" | "exc_text" | "stack_info" => some .nothing
  | "pathname" => some (.text programPath)
  | "filename" | "module" | "funcName" => some (.text "")
  | "lineno" | "thread" | "process" => some (.number 0)
  | "created" | "msecs" | "relativeCreated" => some .reading
  | _ => none

/-- What is shown of a record as a whole, with texts in the given quotes, as far as it is the same
wherever the program is. -/
def recordFront (quoted : FieldValue → List Char) (name : String) (level : Level)
    (message : String) : List Char :=
  let members : List (String × FieldValue) :=
    [("name", .text (ownName name)), ("msg", .text message), ("args", emptyCollection),
     ("levelname", .text level.name), ("levelno", .number level.number)]
  '\x7b' :: (members.flatMap fun member =>
    Text.Quoted.encode member.1.toList ++ ':' :: ' ' :: (quoted member.2 ++ [',', ' ']))
    ++ "'pathname': '/".toList

/-- A record as a whole. -/
def record (name : String) (level : Level) (message : String) : FieldValue :=
  .compound (recordFront FieldValue.quoted name level message)
    (recordFront FieldValue.quotedAscii name level message)

/-- What a handler does to the host when a record reaches it. -/
def handle (host : Host) (name : String) (level : Level) (message : String)
    (handler : Handler) : Host :=
  match handler.kind with
  | .file place _ =>
    let template := handler.template.getD Format.plainTemplate
    let written := Template.render (fields host.clock name level message)
      (record name level message) template
    match written with
    | some line => { host with tree := host.tree.append place (line ++ "\n") }
    | none => host
  | .console | .silent => host

/-- The handlers that a record of a logger reaches, in order. -/
def reached (tree : Tree) (name : String) : List Handler :=
  (tree.lineage name).flatMap fun ancestor => (tree.logger ancestor).handlers

/-- **Write a record.** -/
def write (tree : Tree) (host : Host) (name : String) (level : Level) (message : String) : Host :=
  if tree.isEnabled name level then
    (tree.reached name).foldl (fun host handler => handle host name level message handler) host
  else host

end Tree

end OrderBy.Log
