/-
  OrderBy.Settings.Basic — the settings of a program, and their checks.

  Eight fields, each with a default.  Given values are checked field by field
  and every issue is reported; settings that pass have a non-empty parameter
  name and non-empty delimiters.  A format that is no known one is kept as a
  template and not looked at.
-/
import OrderBy.Json.Value
import OrderBy.Location
import OrderBy.Log.Level
import OrderBy.Validation

namespace OrderBy

/-! ## §1. Fields -/

/-- **The settings of a program.** -/
structure Settings where
  /-- The name of the sort parameter. -/
  sortParameter : String := "sort"
  /-- What separates the properties of a sort expression. -/
  propertyDelimiter : String := ","
  /-- What separates a qualifier from the name of the parameter. -/
  qualifierDelimiter : String := "_"
  /-- The sort of last resort, as a sort expression. -/
  sortFallback : String := ""
  /-- How urgent a record has to be. -/
  logLevel : Log.Level := .info
  /-- Where records go. -/
  logOutput : Log.Output := .console
  /-- The form of logged lines. -/
  logFormat : Log.Format := .known .textLight
  /-- The file that records go to; the default one if empty. -/
  logFile : String := ""
  deriving DecidableEq, Repr, Inhabited

namespace Settings

/-- The fields of the settings. -/
inductive Field where
  | sortParameter
  | propertyDelimiter
  | qualifierDelimiter
  | sortFallback
  | logLevel
  | logOutput
  | logFormat
  | logFile
  deriving DecidableEq, Repr

/-- The name that a field is given under. -/
def Field.name : Field → String
  | .sortParameter => "sort_parameter"
  | .propertyDelimiter => "sort_property_delimiter"
  | .qualifierDelimiter => "sort_qualifier_delimiter"
  | .sortFallback => "sort_fallback"
  | .logLevel => "log_level"
  | .logOutput => "log_output"
  | .logFormat => "log_format"
  | .logFile => "log_file"

/-- All fields, in order. -/
def Field.all : List Field :=
  [.sortParameter, .propertyDelimiter, .qualifierDelimiter, .sortFallback, .logLevel, .logOutput,
   .logFormat, .logFile]

/-! ## §2. Checks -/

/-- Check a text; one that is not given is the default. -/
def checkText (fallback : String) : Option Json → Validated String
  | none => .ok fallback
  | some (.text s) => .ok s
  | some _ => .refuse .notText

/-- Check a text that must not be empty. -/
def checkFilled (field : Field) (fallback : String) (given : Option Json) : Validated String :=
  match checkText fallback given with
  | .ok s => if s.isEmpty then .refuse (.emptyText field.name.toUpper) else .ok s
  | .error found => .error found

/-- Check a level, a word in letters of either case. -/
def checkLevel : Option Json → Validated Log.Level
  | none => .ok .info
  | some value =>
    match value.text?.bind Log.Level.ofAnyCase? with
    | some level => .ok level
    | none => .refuse (.notOneOf (Log.Level.all.map Log.Level.name))

/-- Check an output. -/
def checkOutput : Option Json → Validated Log.Output
  | none => .ok .console
  | some value =>
    match value.text?.bind Log.Output.ofValue? with
    | some output => .ok output
    | none => .refuse (.notOneOf ["console", "file", "both"])

/-- Check a format: what is no text is neither a known format nor a template. -/
def checkFormat : Option Json → Validated Log.Format
  | none => .ok (.known .textLight)
  | some (.text s) => .ok (.ofText s)
  | some _ => .error [
      { problem := .notOneOf ["text", "text_light"], location := [.member "str-enum[LogFormat]"] },
      { problem := .notText, location := [.member "str"] }]

/-- The check of one field, its issues placed at the field. -/
def checkField {α : Type} (given : Field → Option Json) (field : Field)
    (check : Option Json → Validated α) : Validated α :=
  (check (given field)).under (.member field.name)

/-- **Check all fields**, in order. -/
def check (given : Field → Option Json) : Validated Settings :=
  let filled (field : Field) (fallback : String) : Validated String :=
    checkField given field (checkFilled field fallback)
  Validated.apply (Validated.apply (Validated.apply (Validated.apply (Validated.apply
    (Validated.apply (Validated.apply
      ((filled .sortParameter "sort").map Settings.mk)
      (filled .propertyDelimiter ","))
      (filled .qualifierDelimiter "_"))
      (checkField given .sortFallback (checkText "")))
      (checkField given .logLevel checkLevel))
      (checkField given .logOutput checkOutput))
      (checkField given .logFormat checkFormat))
      (checkField given .logFile (checkText ""))

/-! ## §3. The log file -/

/-- The log file when no other is set, below the project directory. -/
def defaultLogFile : String := "logs/fastsort.log"

/-- **The path of the log file**: the file set, if its path is absolute, else that path or the
default one below the project directory, which is only asked for then. -/
def logPathFrom (s : Settings) (projectPath : String) : String :=
  if s.logFile.isEmpty then Path.join projectPath defaultLogFile
  else if Path.isAbsolute s.logFile then s.logFile
  else Path.join projectPath s.logFile

/-- Does the path of the log file depend on the project directory? -/
def logPathNeedsProject (s : Settings) : Bool :=
  s.logFile.isEmpty || !Path.isAbsolute s.logFile

end Settings

end OrderBy
