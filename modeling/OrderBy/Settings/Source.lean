/-
  OrderBy.Settings.Source — where settings come from.

  A field takes its value from the strongest source that names it: overrides,
  then environment variables, then the file of settings, then directories of
  secrets, then its default.  Names are compared in lower case.  Of several
  spellings of a name the first one counts among the overrides, and the last
  one in the other sources.

  Some overrides are no values of fields: they say how the other sources are
  read (`Settings.Reading`).
-/
import OrderBy.Host
import OrderBy.Settings.Basic
import OrderBy.Settings.EnvFile
import OrderBy.Text.Encoding

namespace OrderBy.Settings

/-! ## §1. Overrides -/

/-- The value of a field among overrides, the first one under its name. -/
def overrideOf (field : Field) (overrides : List (String × Json)) : Option Json :=
  (overrides.find? fun entry => Text.lowerString entry.1 == field.name).map (·.2)

/-- **How the other sources are read.** -/
structure Reading where
  /-- Are empty values passed over? -/
  skipsEmpty : Bool := false
  /-- Are names compared as they are written? -/
  exactNames : Bool := false
  /-- What stands in front of the names of fields. -/
  front : String := ""
  /-- Is it asked for?  If not, fields go by their names alone, and by the longer names only in the
  file of settings. -/
  asksFront : Bool := true
  /-- The text that stands for no value. -/
  nullText : Option String := none
  /-- May a choice be given by the name of its constant? -/
  namedChoices : Bool := false
  /-- In how many directories above the working directory is the file of settings looked for? -/
  levels : Nat := 0
  /-- The name of the encoding of the file of settings. -/
  encoding : Option String := none
  /-- The directories of secrets, the weakest one first. -/
  secrets : List String := []
  deriving DecidableEq, Repr, Inhabited

namespace Reading

/-- Is an override on, if it is given? -/
def isOn (overrides : List (String × Json)) (name : String) : Bool :=
  ((Json.lookup name overrides).map fun value => !value.isEmpty).getD false

/-- The text of an override, if it is given. -/
def textOf? (overrides : List (String × Json)) (name : String) : Option String :=
  (Json.lookup name overrides).bind Json.text?

/-- The whole number of an override; one below zero is zero, as is any other value but `true`. -/
def numberOf (overrides : List (String × Json)) (name : String) : Nat :=
  match Json.lookup name overrides with
  | some (.int n) => n.toNat
  | some (.bool true) => 1
  | _ => 0

/-- The texts of an override: a text alone, or those of a list. -/
def textsOf (overrides : List (String × Json)) (name : String) : List String :=
  match Json.lookup name overrides with
  | some (.text text) => [text]
  | some value => (value.items?.getD []).filterMap Json.text?
  | none => []

/-- The words for the names that take the front of the overrides, if they are asked for it. -/
def frontedNames : List String := ["variable", "all"]

/-- **The reading that overrides ask for.** -/
def ofOverrides (overrides : List (String × Json)) : Reading where
  skipsEmpty := isOn overrides "_env_ignore_empty"
  exactNames := isOn overrides "_case_sensitive"
  front := (textOf? overrides "_env_prefix").getD ""
  asksFront := ((textOf? overrides "_env_prefix_target").map frontedNames.contains).getD true
  nullText := textOf? overrides "_env_parse_none_str"
  namedChoices := isOn overrides "_env_parse_enums"
  levels := numberOf overrides "_env_file_depth"
  encoding := (textOf? overrides "_env_file_encoding").filter (!·.isEmpty)
  secrets := textsOf overrides "_secrets_dir"

/-! ## §2. Names and values -/

/-- Are two names the same? -/
def agree (reading : Reading) (name other : String) : Bool :=
  if reading.exactNames then name == other else Text.lowerString name == Text.lowerString other

/-- The name of a field after the front. -/
def fronted (reading : Reading) (field : Field) : String := reading.front ++ field.name

/-- The name that a field goes by. -/
def nameOf (reading : Reading) (field : Field) : String :=
  if reading.asksFront then reading.fronted field else field.name

/-- The value that the name of a constant stands for. -/
def choice? : Field → String → Option String
  | .logOutput, name =>
    ([Log.Output.console, .file, .both].find? (·.value.toUpper == name)).map (·.value)
  | .logFormat, name =>
    ([Log.KnownFormat.text, .textLight].find? (·.value.toUpper == name)).map (·.value)
  | _, _ => none

/-- The value that a text stands for. -/
def valueOf (reading : Reading) (field : Field) (text : String) : Json :=
  if reading.nullText = some text then .null
  else if reading.namedChoices then .text ((choice? field text).getD text)
  else .text text

/-- The text under a name in a source, the last one.  A name without a value gives none. -/
def textUnder? (reading : Reading) (name : String) (entries : List (String × Option String)) :
    Option String :=
  let counting := entries.filter fun entry => !(reading.skipsEmpty && entry.2 == some "")
  (counting.reverse.find? fun entry => reading.agree entry.1 name).bind (·.2)

/-- **The value of a field** in a source. -/
def find? (reading : Reading) (field : Field) (entries : List (String × Option String)) :
    Option Json :=
  (reading.textUnder? (reading.nameOf field) entries).map (reading.valueOf field)

/-- Is a name one that no field goes by? -/
def isFree (reading : Reading) (name : String) : Bool :=
  Field.all.all fun field => !reading.agree (reading.nameOf field) name

/-- The value of a field in the file of settings.  A text under the longer name of the field comes
first, as it is written, if no field goes by that name. -/
def findInFile? (reading : Reading) (field : Field) (bindings : List (String × Option String)) :
    Option Json :=
  let name := reading.fronted field
  let longer := if reading.isFree name then reading.textUnder? name bindings else none
  match longer.filter (!·.isEmpty) with
  | some text => some (.text text)
  | none => reading.find? field bindings

end Reading

/-! ## §3. Loads that fail -/

/-- **Why settings cannot be loaded.** -/
inductive LoadError where
  /-- The file of settings, or a directory of secrets, cannot be looked for. -/
  | file (error : PathError)
  /-- The file of settings is to be read in an encoding that does not exist. -/
  | unknownEncoding (name : String)
  /-- The file of settings cannot be read in its encoding. -/
  | undecoded (error : Text.Encoding.DecodeError)
  /-- There is a file in the place of a directory of secrets. -/
  | secretsInFile
  /-- Values were not accepted. -/
  | values (issues : List Issue)
  deriving DecidableEq, Repr, Inhabited

/-- The place of an issue, on one line. -/
def placeText : Place → String
  | .member name => name
  | .item index => toString index

/-- **The wording of a cause**, a line for each issue. -/
def LoadError.lines : LoadError → List String
  | .file error => [error.message]
  | .unknownEncoding name => ["unknown encoding: " ++ name]
  | .undecoded error => [error.message]
  | .secretsInFile => ["secrets_dir must reference a directory, not a file"]
  | .values issues => issues.map fun issue =>
      String.intercalate "." (issue.location.map placeText) ++ ": " ++ issue.problem.message

/-! ## §4. The file of settings -/

/-- The text of a file as it is read in an encoding. -/
def decoded (encoding : Option String) (text : String) : Except LoadError String :=
  match encoding with
  | none => .ok text
  | some name =>
    match Text.Encoding.ofName? name with
    | none => .error (.unknownEncoding name)
    | some encoding => (encoding.decode text).mapError .undecoded

/-- The bindings of a file of settings; a file that is not there has none. -/
def fileBindings (host : Host) (reading : Reading) (envFile : Option String) :
    Except LoadError (List (String × Option String)) := do
  match envFile with
  | none => return []
  | some path =>
    let path ← (host.expand path).mapError .file
    match ← (host.readUp path reading.levels).mapError .file with
    | none => return []
    | some text => return EnvFile.read host.environment (← decoded reading.encoding text)

/-! ## §5. Secrets -/

/-- The place of a directory of secrets; one that is not there has none. -/
def secretsPlace (host : Host) (path : String) : Except LoadError (Option Location) := do
  let path ← (host.expand path).mapError .file
  match ← (host.locate path).mapError .file with
  | none => return none
  | some place =>
    if host.tree.isDirectory place then return some place
    else if (host.tree.text? place).isSome then .error .secretsInFile
    else return none

/-- The secret of a field in a directory: the text of the file that has its name, trimmed. -/
def Reading.secretIn? (reading : Reading) (tree : FileTree) (field : Field) (place : Location) :
    Option Json :=
  let isNamed (file : Location × String) : Bool :=
    match file.1.names with
    | name :: above => above == place.names && reading.agree name (reading.nameOf field)
    | [] => false
  (tree.files.find? isNamed).map fun file =>
    .text (String.ofList (Text.strip (Text.unifyLineEnds file.2.toList)))

/-- **The secrets of fields**, those of the last directory that has one. -/
def secretsOf (host : Host) (reading : Reading) : Except LoadError (Field → Option Json) := do
  let places ← reading.secrets.mapM (secretsPlace host)
  return fun field => (places.filterMap id).reverse.findSome? (reading.secretIn? host.tree field)

/-! ## §6. Sources -/

/-- **The value given for a field**, by the strongest source that gives one: overrides, the
environment, the bindings of a file, or secrets. -/
def given (overrides : List (String × Json)) (environment : List (String × String))
    (bindings : List (String × Option String)) (secret? : Field → Option Json) (field : Field) :
    Option Json :=
  let reading := Reading.ofOverrides overrides
  match overrideOf field overrides with
  | some value => some value
  | none =>
    match reading.find? field (environment.map fun entry => (entry.1, some entry.2)) with
    | some value => some value
    | none =>
      match reading.findInFile? field bindings with
      | some value => some value
      | none => secret? field

/-- **Load settings**: take the given values and check them. -/
def load (host : Host) (overrides : List (String × Json)) (envFile : Option String) :
    Except LoadError Settings := do
  let reading := Reading.ofOverrides overrides
  let bindings ← fileBindings host reading envFile
  let secret? ← secretsOf host reading
  (check (given overrides host.environment bindings secret?)).mapError .values

/-- Settings are accepted when some sources load them. -/
def Accepted (s : Settings) : Prop :=
  ∃ host overrides envFile, load host overrides envFile = .ok s

end OrderBy.Settings
