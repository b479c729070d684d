/-
  OrderBy.Location — places in a tree of directories, and project directories.

  A location is the list of the names that lead to it, innermost first: the
  parent of a location is the tail of its list, and the directories above it
  are its suffixes.  Paths are texts; `Location.follow` reads one from a
  starting directory by its names alone, without looking at any tree.

  Two slashes in front of a path lead to the same place as one, but are kept
  where the path is shown.

  The project directory of a working directory is the nearest directory, from
  there up, that holds a marker entry, and the working directory itself when
  none does (`Project.directory`).
-/
import OrderBy.Text.Quoted
import OrderBy.Text.Split

namespace OrderBy

/-! ## §1. Paths as texts -/

namespace Path

/-- A path is absolute when it starts with a slash. -/
def isAbsolute (path : String) : Bool :=
  path.toList.head? == some '/'

/-- What stands in front of the names of a path: nothing if it is not absolute; two slashes stay
two, and any other number of them is one. -/
def front (path : String) : String :=
  match path.toList with
  | '/' :: '/' :: '/' :: _ => "/"
  | '/' :: '/' :: _ => "//"
  | '/' :: _ => "/"
  | _ => ""

/-- A path under a directory: one slash stands between them. -/
def join (directory path : String) : String :=
  if directory.toList.getLast? == some '/' then directory ++ path
  else directory ++ "/" ++ path

/-- The names on a path, outermost first; empty ones and dots lead nowhere. -/
def names (path : String) : List String :=
  ((Text.pieces ['/'] path.toList).filter fun name => !name.isEmpty && name != ['.']).map
    String.ofList

/-- The path of names after what stands in front; a dot if there is neither. -/
def ofNames (front : String) (names : List String) : String :=
  if front.isEmpty && names.isEmpty then "." else front ++ String.intercalate "/" names

end Path

/-! ## §2. Locations -/

/-- **An absolute place**, by the names that lead to it, innermost first. -/
structure Location where
  /-- The names, innermost first. -/
  names : List String := []
  deriving DecidableEq, Repr, Inhabited

namespace Location

/-- The outermost directory. -/
def root : Location := ⟨[]⟩

/-- The place of a name in a directory. -/
def child (directory : Location) (name : String) : Location := ⟨name :: directory.names⟩

/-- The directory that holds a place; the outermost one holds itself. -/
def parent (place : Location) : Location := ⟨place.names.tail⟩

/-- Go along one name: two dots lead to the parent. -/
def enter (place : Location) (name : String) : Location :=
  if name = ".." then place.parent else place.child name

/-- **Follow a path** from a directory, by its names alone. -/
def follow (directory : Location) (path : String) : Location :=
  (Path.names path).foldl enter (if Path.isAbsolute path then root else directory)

/-- The path of a place, after what stands in front of its names. -/
def pathFrom (front : String) (place : Location) : String :=
  front ++ String.intercalate "/" place.names.reverse

/-- **The path of a place.** -/
def path (place : Location) : String := place.pathFrom "/"

/-- Does a place lie at or below another one? -/
def isWithin (place directory : Location) : Bool :=
  directory.names.isSuffixOf place.names

end Location

/-! ## §3. Project directories -/

namespace Project

/-- The name of the entry that marks a project directory. -/
def marker : String := "pyproject.toml"

/-- **The nearest marked directory**, from the innermost one up. -/
def nearest (marked : Location → Bool) : List String → Option Location
  | [] => if marked .root then some .root else none
  | name :: above =>
    if marked ⟨name :: above⟩ then some ⟨name :: above⟩ else nearest marked above

/-- The project directory of a working directory. -/
def directory (marked : Location → Bool) (working : Location) : Location :=
  (nearest marked working.names).getD working

/-- From an unmarked directory the search goes on above it. -/
theorem nearest_of_unmarked {marked : Location → Bool} {name : String} {above : List String}
    (h : marked ⟨name :: above⟩ = false) :
    nearest marked (name :: above) = nearest marked above := by
  simp [nearest, h]

end Project

end OrderBy
