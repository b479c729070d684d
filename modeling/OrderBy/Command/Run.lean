/-
  OrderBy.Command.Run — the command line.

  The arguments `[--env-file FILE] parse [VALUE…]` ask for values to be resolved
  the way a request would, with the settings of a file and of the environment,
  and for the sort to be printed as JSON or as a table.

  The run goes in steps, each of which may end it: the options before the
  command, the command's name, the settings, logging, and only then the
  options of the command.  So bad settings are reported even when the
  command's options are wrong as well.
-/
import OrderBy.Command.Arguments
import OrderBy.Command.Table
import OrderBy.Log.Setup
import OrderBy.Schema
import OrderBy.Settings.Store

namespace OrderBy.Command

/-! ## §1. Resolving -/

/-- **What the command is asked for.** -/
structure Query where
  /-- The values, as a request would give them. -/
  values : List String := []
  /-- The qualifier of the parameter. -/
  qualifier : Option String := none
  /-- Sort expressions that make the default of the parameter. -/
  defaults : List String := []
  /-- Is the sort printed as JSON? -/
  asJson : Bool := false
  deriving DecidableEq, Repr, Inhabited

/-- The name and the sort that a query resolves to. -/
structure Resolved where
  /-- The name of the parameter. -/
  parameter : String
  /-- The sort. -/
  sorting : Sorting
  deriving DecidableEq, Repr, Inhabited

/-- **Resolve a query** with given settings: the defaults are read as expressions and count as
the parameter's default if they give any clause. -/
def Query.resolve (query : Query) (s : Settings) : Traced SortError Resolved := do
  let resolver ← Resolver.ofSettings s
  let default ← Expression.readTexts resolver.propertyDelimiter query.defaults
  let fallback := if default.isSorted then some default else none
  let sorting ← resolver.resolve (query.values.map Json.text) query.qualifier fallback
  pure { parameter := resolver.parameterName query.qualifier, sorting }

/-- Resolve a query, and say so. -/
def Query.run (query : Query) (s : Settings) : Traced SortError Resolved := do
  let resolved ← query.resolve s
  Traced.note (.resolved resolved.sorting.size query.values.length)
  pure resolved

/-! ## §2. Printing -/

/-- The rows of the table of clauses, numbered from one. -/
def rowsFrom (number : Nat) : List Clause → List (List String)
  | [] => []
  | c :: rest => [toString number, c.property, c.direction.name] :: rowsFrom (number + 1) rest

/-- The table of a sort. -/
def tableOf (terminal : Nat) (resolved : Resolved) : Except PrintError String :=
  Table.render terminal ("Sort parameter '" ++ resolved.parameter ++ "'")
    ["#", "Property", "Direction"] (rowsFrom 1 resolved.sorting.clauses)

/-- **What is printed** on a terminal of a width. -/
def printed (terminal : Nat) (asJson : Bool) (resolved : Resolved) : Except PrintError String :=
  if asJson then .ok ((SortingSchema.ofSorting resolved.sorting).render ++ "\n")
  else if resolved.sorting.isUnsorted then
    Table.print terminal ((Text.wrap terminal .fold "Unsorted".toList).map ([·]))
  else tableOf terminal resolved

/-- The variable that says how wide the terminal is. -/
def widthVariable : String := "COLUMNS"

/-- The number that a text of digits stands for. -/
def number? (text : String) : Option Nat :=
  if text.toList.all Char.isDigit then text.toNat? else none

/-- The width of the terminal, which is 80 columns unless a variable gives a number for it. -/
def terminalWidth (host : Host) : Nat :=
  match (host.environment.lookup widthVariable).bind number? with
  | none | some 0 => 80
  | some width => width

/-! ## §3. The command line -/

/-- **How a run ends.** -/
inductive Outcome where
  /-- The arguments are wrong. -/
  | usage
  /-- Something failed. -/
  | failed (failure : Failure)
  /-- A text was printed. -/
  | printed (text : String)
  deriving Repr, Inhabited

/-- The exit code of a run. -/
def Outcome.exitCode : Outcome → Nat
  | .usage => 2
  | .failed _ => 1
  | .printed _ => 0

/-- The options before the command. -/
def outerOptions : List OptionSpec :=
  [⟨"--env-file", true⟩, ⟨"--help", false⟩]

/-- The options of the command. -/
def innerOptions : List OptionSpec :=
  [⟨"--qualifier", true⟩, ⟨"--default", true⟩, ⟨"--json", false⟩, ⟨"--help", false⟩]

/-- The name of the command. -/
def commandName : String := "parse"

/-- The help of the program. -/
def outerHelp : String :=
  "Usage: fastsort [--env-file FILE] parse [OPTIONS] [VALUES]...\n"

/-- The help of the command. -/
def innerHelp : String :=
  "Usage: fastsort parse [--qualifier TEXT] [--default TEXT]... [--json] [VALUES]...\n"

/-- The query of the command's arguments. -/
def queryOf (arguments : Arguments) : Query where
  values := arguments.operands
  qualifier := arguments.last? "--qualifier"
  defaults := arguments.values "--default"
  asJson := arguments.has "--json"

/-- The setup of logging that settings ask for, with the path of their log file. -/
def setupOf (s : Settings) (logPath : String) : Log.Setup where
  level := .text s.logLevel.name
  output := .text s.logOutput.value
  format := .format s.logFormat
  logFile := .text logPath

/-- Write records to the loggers they belong to. -/
def writeRecords (tree : Log.Tree) (host : Host) (records : List Record) : Host :=
  records.foldl (fun host record => tree.write host record.logger .debug record.message) host

/-- Run the command with settings and logging in place. -/
def runCommand (s : Settings) (tree : Log.Tree) (host : Host) (arguments : List String) :
    Outcome × Host :=
  match Arguments.read innerOptions true arguments with
  | none => (.usage, host)
  | some given =>
    if given.has "--help" then (.printed innerHelp, host)
    else
      let query := queryOf given
      let run := query.run s
      let host := writeRecords tree host run.records
      match run.outcome with
      | .error e => (.failed (.sort e), host)
      | .ok resolved =>
        match printed (terminalWidth host) query.asJson resolved with
        | .error e => (.failed (.print e), host)
        | .ok text => (.printed text, host)

/-- Load settings, set up logging, and run the command. -/
def runWithSettings (host : Host) (envFile : Option String) (arguments : List String) :
    Outcome × Host :=
  let (result, _) := (({} : Settings.Store).init host envFile)
  match result with
  | .error found => (.failed (.settings found), host)
  | .ok loaded =>
    let (logPath, _) := loaded.logPath host
    let setup := (setupOf loaded.settings logPath).run host Log.Tree.fresh
    match setup.outcome with
    | .error e => (.failed (.logging e), setup.host)
    | .ok () => runCommand loaded.settings setup.tree setup.host arguments

/-- The file of settings that the arguments name, whether or not the run gets to read it. -/
def envFileOf (arguments : List String) : String :=
  Settings.Store.envFileOr
    ((Arguments.read outerOptions false arguments).bind (·.last? "--env-file"))

/-- **Run the program** with its arguments: how it ends, and the host after it. -/
def run (host : Host) (arguments : List String) : Outcome × Host :=
  match Arguments.read outerOptions false arguments with
  | none => (.usage, host)
  | some given =>
    if given.has "--help" then (.printed outerHelp, host)
    else
      match given.operands with
      | [] => (.usage, host)
      | command :: rest =>
        if command = commandName then runWithSettings host (given.last? "--env-file") rest
        else (.usage, host)

end OrderBy.Command
