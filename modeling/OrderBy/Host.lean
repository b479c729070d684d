/-
  OrderBy.Host — the surroundings a program runs in.

  A host holds environment variables, a tree of files and directories, the
  working directory, and what the clock shows.  Changes are functions from
  host to host.
-/
import OrderBy.Assignments
import OrderBy.Location

namespace OrderBy

/-! ## §1. Trees of files -/

/-- **Files with their texts, and directories.** -/
structure FileTree where
  /-- The files. -/
  files : List (Location × String) := []
  /-- Directories made as such; the directories above a file are there as well. -/
  directories : List Location := []
  deriving DecidableEq, Repr, Inhabited

namespace FileTree

/-- The text of a file. -/
def text? (tree : FileTree) (place : Location) : Option String :=
  tree.files.lookup place

/-- Is there a directory? -/
def isDirectory (tree : FileTree) (place : Location) : Bool :=
  place.names.isEmpty
    || tree.directories.any (·.isWithin place)
    || tree.files.any (·.1.parent.isWithin place)

/-- Is there an entry, a file or a directory? -/
def holds (tree : FileTree) (place : Location) : Bool :=
  tree.isDirectory place || (tree.text? place).isSome

/-- Make a directory, and those above it. -/
def makeDirectory (tree : FileTree) (place : Location) : FileTree :=
  { tree with directories := tree.directories ++ [place] }

/-- Give a file a text. -/
def setText (place : Location) (text : String) :
    List (Location × String) → List (Location × String)
  | [] => [(place, text)]
  | entry :: rest =>
    if entry.1 = place then (place, text) :: rest else entry :: setText place text rest

/-- Write a file anew. -/
def write (tree : FileTree) (place : Location) (text : String) : FileTree :=
  { tree with files := setText place text tree.files }

/-- Add a text to the end of a file, which is made if it is not there. -/
def append (tree : FileTree) (place : Location) (text : String) : FileTree :=
  tree.write place ((tree.text? place).getD "" ++ text)

/-- Take away an entry and what lies below it. -/
def remove (tree : FileTree) (place : Location) : FileTree where
  files := tree.files.filter fun entry => !entry.1.isWithin place
  directories := tree.directories.filter fun directory => !directory.isWithin place

/-- The greatest number of octets in a name. -/
def longestName : Nat := 255

/-- Go along names, each from a directory that is there: the place they lead to, if they lead to
one, or the name that is too long to be looked for. -/
def walk (tree : FileTree) : Location → List String → Except String (Option Location)
  | place, [] => .ok (some place)
  | place, name :: rest =>
    if !tree.isDirectory place then .ok none
    else if longestName < name.utf8ByteSize then .error name
    else tree.walk (place.enter name) rest

/-- **Why a file cannot be opened.** -/
inductive Obstacle where
  /-- There is a directory in its place. -/
  | isDirectory (place : Location)
  /-- There is a file in the place of the directory that is to hold it. -/
  | isFile (place : Location)
  /-- There is a file in the place of a directory further out; this is the next place on the
  way. -/
  | belowFile (place : Location)
  /-- The last name of a place on the way is too long. -/
  | longName (place : Location)
  /-- A name on the way holds the character U+0000. -/
  | nullName
  deriving DecidableEq, Repr

/-- What is wrong with the last name of a place, if anything is. -/
def nameObstacle? (place : Location) : Option Obstacle :=
  match place.names with
  | [] => none
  | name :: _ =>
    if name.toList.contains '\x00' then some .nullName
    else if longestName < name.utf8ByteSize then some (.longName place)
    else none

/-- What keeps a directory from being made, the outermost obstacle on the way to it. -/
def wayObstacle? (tree : FileTree) : List String → Option Obstacle
  | [] => none
  | name :: above =>
    match tree.wayObstacle? above with
    | some obstacle => some obstacle
    | none =>
      match nameObstacle? ⟨name :: above⟩ with
      | some .nullName => some .nullName
      | found =>
        if (tree.text? ⟨above⟩).isSome then some (.belowFile ⟨name :: above⟩) else found

/-- The innermost directory on a way that is there or can be made. -/
def reach (tree : FileTree) : List String → Location
  | [] => .root
  | name :: above =>
    if (tree.wayObstacle? (name :: above)).isNone && (tree.text? ⟨name :: above⟩).isNone then
      ⟨name :: above⟩
    else tree.reach above

/-- Make the directories that are to hold a place, as far as nothing is in the way. -/
def makeWay (tree : FileTree) (place : Location) : FileTree :=
  tree.makeDirectory (tree.reach place.parent.names)

/-- **What keeps a file from being opened** in a place, if anything does.  The directories above
it come first. -/
def obstacle? (tree : FileTree) (place : Location) : Option Obstacle :=
  match tree.wayObstacle? place.parent.names with
  | some obstacle => some obstacle
  | none =>
    if (tree.text? place.parent).isSome then some (.isFile place.parent)
    else
      match nameObstacle? place with
      | some obstacle => some obstacle
      | none => if tree.isDirectory place then some (.isDirectory place) else none

end FileTree

/-- A path between quotes. -/
def Path.quoted (path : String) : String :=
  String.ofList (Text.Quoted.encode path.toList)

/-- The wording of an obstacle, given what stands in front of the names of paths. -/
def FileTree.Obstacle.message (front : String) : FileTree.Obstacle → String
  | .isDirectory place => "[Errno 21] Is a directory: " ++ Path.quoted (place.pathFrom front)
  | .isFile place => "[Errno 17] File exists: " ++ Path.quoted (place.pathFrom front)
  | .belowFile place => "[Errno 20] Not a directory: " ++ Path.quoted (place.pathFrom front)
  | .longName place => "[Errno 36] File name too long: " ++ Path.quoted (place.pathFrom front)
  | .nullName => "embedded null byte"

/-- **Why a path cannot be followed.** -/
inductive PathError where
  /-- It starts from a home directory that nobody knows. -/
  | noHome
  /-- The path, or a name on it, is too long. -/
  | tooLong (path : String)
  /-- It starts from the home directory of a user whose name holds the character U+0000. -/
  | nullUser
  deriving DecidableEq, Repr, Inhabited

/-- The wording of a cause. -/
def PathError.message : PathError → String
  | .noHome => "Could not determine home directory."
  | .tooLong path => "[Errno 36] File name too long: " ++ Path.quoted path
  | .nullUser => "embedded null byte"

/-! ## §2. Hosts -/

/-- **The surroundings of a program.** -/
structure Host where
  /-- The environment variables, in the order first set. -/
  environment : List (String × String) := []
  /-- The files and directories. -/
  tree : FileTree := {}
  /-- The working directory. -/
  directory : Location := .root
  /-- What the clock shows. -/
  clock : String := ""
  /-- The users with their home directories, that of the program's own user under no name. -/
  homes : List (String × String) := []
  deriving DecidableEq, Repr, Inhabited

/-- **A change of the surroundings** that no operation of the library makes. -/
inductive Host.Change where
  /-- Set a variable. -/
  | set (name value : String)
  /-- Unset a variable. -/
  | unset (name : String)
  /-- Make a directory. -/
  | make (place : Location)
  /-- Write a file. -/
  | write (place : Location) (text : String)
  /-- Take away an entry. -/
  | remove (place : Location)
  /-- Work in another directory, which is made if it is not there. -/
  | enter (place : Location)
  deriving DecidableEq, Repr

namespace Host

/-- The host after a change. -/
def change (host : Host) : Change → Host
  | .set name value => { host with environment := Assignments.assign name value host.environment }
  | .unset name => { host with environment := Assignments.erase name host.environment }
  | .make place => { host with tree := host.tree.makeDirectory place }
  | .write place text => { host with tree := host.tree.write place text }
  | .remove place => { host with tree := host.tree.remove place }
  | .enter place => { host with tree := host.tree.makeDirectory place, directory := place }

/-- The greatest number of octets in a path. -/
def longestPath : Nat := 4095

/-- **The place a path leads to** from the working directory, if it leads to one; every name on the
path is looked for in a directory that is there. -/
def locate (host : Host) (path : String) : Except PathError (Option Location) :=
  let start := if Path.isAbsolute path then Location.root else host.directory
  if path.toList.contains '\x00' then .ok none
  else if longestPath < path.utf8ByteSize then .error (.tooLong path)
  else (host.tree.walk start (Path.names path)).mapError fun _ => .tooLong path

/-- **The text of the file a path leads to**, if it leads to one. -/
def read (host : Host) (path : String) : Except PathError (Option String) :=
  (host.locate path).map fun place => place.bind host.tree.text?

/-- The text of the file a path leads to, from the working directory or from one of so many
directories above it, the nearest one first. -/
def readUp (host : Host) (path : String) : (levels : Nat) → Except PathError (Option String)
  | 0 => host.read path
  | levels + 1 =>
    match host.read path with
    | .ok none => { host with directory := host.directory.parent }.readUp path levels
    | found => found

/-- The variable that names the home directory. -/
def homeVariable : String := "HOME"

/-- The home directory of a user; without a name, the one that the variable for it says, if it is
set. -/
def home? (host : Host) (user : String) : Option String :=
  if user.isEmpty then
    match host.environment.lookup homeVariable with
    | some home => some home
    | none => host.homes.lookup user
  else host.homes.lookup user

/-- A home directory without the slashes at its end. -/
def trimmedHome (home : String) : String :=
  let names := (home.toList.reverse.dropWhile (· == '/')).reverse
  if names.isEmpty then "/" else String.ofList names

/-- A path from the home directory that its first name stands for. -/
def fromHome (host : Host) (user : List Char) (rest : List String) : Except PathError String :=
  if user.contains '\x00' then .error .nullUser
  else
    match (host.home? (String.ofList user)).map trimmedHome with
    | none => .error .noHome
    | some home =>
      if home.toList.head? == some '~' then .error .noHome
      else .ok (Path.ofNames (Path.front home) (Path.names home ++ rest))

/-- **The path that a path stands for**, with its names alone.  A tilde in front of its first name
stands for a home directory. -/
def expand (host : Host) (path : String) : Except PathError String :=
  match Path.front path, Path.names path with
  | "", name :: rest =>
    match name.toList with
    | '~' :: user => host.fromHome user rest
    | _ => .ok (Path.ofNames "" (name :: rest))
  | front, names => .ok (Path.ofNames front names)

/-- Does a directory hold the project marker? -/
def isMarked (host : Host) (place : Location) : Bool :=
  host.tree.holds (place.child Project.marker)

/-- The project directory of the working directory. -/
def projectDirectory (host : Host) : Location :=
  Project.directory host.isMarked host.directory

/-- The path of the project directory. -/
def projectPath (host : Host) : String := host.projectDirectory.path

end Host

end OrderBy
