/-
  OrderBy.Settings.Store — the settings in force, and what is built from them.

  Settings are loaded once and kept until they are loaded anew or forgotten.
  The resolver of requests is built from them when it is first asked for, and
  kept as long as they are.  A load that fails changes nothing.  Every loaded
  settings and every resolver has a serial number of its own, by which the one
  object can be told from an equal one.

  The project directory and the path of the log file are found when they are
  first asked for, and belong to the loaded settings from then on.

  The resolver of the settings in force is the first thing asked for that can
  fail for causes of different kinds.  All such operations, here and on routes
  and commands, fail with a `Failure`, whose causes have a type for each kind.
-/
import OrderBy.Command.Markup
import OrderBy.Log.Setup
import OrderBy.Resolver
import OrderBy.RouteError
import OrderBy.Settings.Source

namespace OrderBy

/-! ## §1. Failures -/

/-- **Why an operation failed.** -/
inductive Failure where
  /-- A sort cannot be built or read. -/
  | sort (error : SortError)
  /-- Settings cannot be loaded. -/
  | settings (error : Settings.LoadError)
  /-- Logging cannot be set up. -/
  | logging (error : Log.SetupError)
  /-- A route cannot be declared. -/
  | route (error : RouteError)
  /-- A number on the way to a route cannot be read. -/
  | number (error : Text.NumberError)
  /-- A sort cannot be printed. -/
  | print (error : Command.PrintError)
  deriving Repr, Inhabited

/-- **The wording of a failure**, a line for each issue. -/
def Failure.lines : Failure → List String
  | .sort error => [error.message]
  | .settings error => error.lines
  | .logging error => [error.message]
  | .route error => [error.message]
  | .number error => [error.message]
  | .print error => [error.message]

/-! ## §2. Resolvers of settings -/

/-- **The resolver that settings describe**; their fallback is read as a sort expression. -/
def Resolver.ofSettings (s : Settings) : Traced SortError Resolver := do
  let delimiter : Expression.Delimiter := .text s.propertyDelimiter
  let fallback ← Expression.readTexts delimiter [s.sortFallback]
  pure {
    parameter := s.sortParameter
    propertyDelimiter := delimiter
    qualifierDelimiter := s.qualifierDelimiter
    fallback }

namespace Settings

/-! ## §3. Loaded settings -/

/-- **Settings that were loaded**, with the paths found so far. -/
structure Loaded where
  /-- The number that tells them from others. -/
  serial : Nat
  /-- The settings. -/
  settings : Settings
  /-- The path of the project directory, once it was asked for. -/
  projectPath? : Option String := none
  /-- The path of the log file, once it was asked for. -/
  logPath? : Option String := none
  deriving DecidableEq, Repr, Inhabited

namespace Loaded

/-- **The path of the project directory**: the one found before, else the one of the working
directory, which is kept. -/
def projectPath (loaded : Loaded) (host : Host) : String × Loaded :=
  match loaded.projectPath? with
  | some path => (path, loaded)
  | none => (host.projectPath, { loaded with projectPath? := some host.projectPath })

/-- **The path of the log file**: the one found before, else the one that the settings and, if
it is needed, the project directory give. -/
def logPath (loaded : Loaded) (host : Host) : String × Loaded :=
  match loaded.logPath? with
  | some path => (path, loaded)
  | none =>
    if loaded.settings.logPathNeedsProject then
      let (project, found) := loaded.projectPath host
      let path := loaded.settings.logPathFrom project
      (path, { found with logPath? := some path })
    else
      let path := loaded.settings.logFile
      (path, { loaded with logPath? := some path })

end Loaded

/-! ## §4. The store -/

/-- **A resolver that was built**, with the settings it was built from. -/
structure BuiltResolver where
  /-- The number that tells it from others. -/
  serial : Nat
  /-- The serial number of the settings. -/
  source : Nat
  /-- The resolver. -/
  resolver : Resolver
  deriving Repr, Inhabited

/-- **The settings in force and the resolver built from them**, if any. -/
structure Store where
  /-- The settings in force. -/
  current : Option Loaded := none
  /-- The resolver built from them. -/
  resolver : Option BuiltResolver := none
  /-- The next serial number. -/
  next : Nat := 0
  deriving Repr, Inhabited

namespace Store

/-- The file that settings are loaded from when none is named. -/
def defaultEnvFile : String := ".env"

/-- The file of settings to load from; an empty name stands for the default one. -/
def envFileOr (envFile : Option String) : String :=
  match envFile with
  | some path => if path.isEmpty then defaultEnvFile else path
  | none => defaultEnvFile

/-- **Load settings anew.**  If they are accepted they are in force, and the resolver of the
former ones is forgotten; else everything stays. -/
def init (host : Host) (envFile : Option String) (store : Store) :
    Except LoadError Loaded × Store :=
  match load host [] (some (envFileOr envFile)) with
  | .error found => (.error found, store)
  | .ok settings =>
    let loaded : Loaded := { serial := store.next, settings }
    (.ok loaded, { current := some loaded, resolver := none, next := store.next + 1 })

/-- **The settings in force**, which are loaded if there are none. -/
def get (host : Host) (store : Store) : Except LoadError Loaded × Store :=
  match store.current with
  | some loaded => (.ok loaded, store)
  | none => store.init host none

/-- Forget the settings in force and their resolver. -/
def reset (store : Store) : Store :=
  { store with current := none, resolver := none }

/-- Put the settings in force back with the paths found. -/
def keep (store : Store) (loaded : Loaded) : Store :=
  { store with current := some loaded }

/-- The path of the project directory of the settings in force. -/
def projectPath (host : Host) (store : Store) : Except LoadError String × Store :=
  match store.get host with
  | (.error found, store) => (.error found, store)
  | (.ok loaded, store) =>
    let (path, loaded) := loaded.projectPath host
    (.ok path, store.keep loaded)

/-- The path of the log file of the settings in force. -/
def logPath (host : Host) (store : Store) : Except LoadError String × Store :=
  match store.get host with
  | (.error found, store) => (.error found, store)
  | (.ok loaded, store) =>
    let (path, loaded) := loaded.logPath host
    (.ok path, store.keep loaded)

/-- **The resolver of the settings in force**, which is built if there is none. -/
def getResolver (host : Host) (store : Store) : Traced Failure BuiltResolver × Store :=
  match store.resolver with
  | some built => (pure built, store)
  | none =>
    match store.get host with
    | (.error found, store) => (Traced.fail (.settings found), store)
    | (.ok loaded, store) =>
      let run := (Resolver.ofSettings loaded.settings).mapError Failure.sort
      match run.outcome with
      | .error error => (⟨.error error, run.records⟩, store)
      | .ok resolver =>
        let built : BuiltResolver := { serial := store.next, source := loaded.serial, resolver }
        (⟨.ok built, run.records⟩, { store with resolver := some built, next := store.next + 1 })

end Store

end Settings

end OrderBy
