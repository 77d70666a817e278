import TypedRoutes.CommandLine.Invocation
import TypedRoutes.CommandLine.Report
import TypedRoutes.LogFilter
import TypedRoutes.Settings.Reading
import TypedRoutes.Settings.Writing
import TypedRoutes.Source.Change
import TypedRoutes.Watch.Session

namespace TypedRoutes

/-!
# Running a command line

A run reads the command line, then the settings, and then does what was asked.  It ends in a report,
what it prints and with which code it exits, or in a watch that goes on.
-/

namespace CommandLine

structure Watch where
  session : Session
  source : ConfigSource
  quietMillis : Nat
  /-- What to print before the watch goes on. -/
  errors : Text

inductive Outcome where
  | done (report : Report)
  | watching (watch : Watch)

/-! ## Wording of failures

A failure is told with all its causes, from the outside in; a message that quotes its cause is
followed by that cause again. -/

/-- The causes that a load failure quotes. -/
def causesOfLoad : LoadError → List Text
  | .notFound _ => []
  | .config error => [error.message]
  | .tree error => [error.message]

/-- The causes that a failed pass quotes. -/
def causesOfPass : PassError → List Text
  | .write _ fault => [fault.message]
  | .clear _ fault => [fault.message]
  | _ => []

def failureLine (chain : List Text) : Text := "Error: " ++ Text.glueWith ": " chain ++ "\n"

variable {m : Type → Type} [Monad m] [FileSystem m]

/-! ## Commands -/

def runInit (root : Path) (force : Bool) : m Report := do
  let file := Settings.fileOf root
  let taken ← FileSystem.exists? file
  if taken && !force then
    return .failure ("Configuration file already exists at: " ++ file.text
      ++ "\nUse --force to overwrite\n")
  else
    match ← Settings.init root force with
    | .ok path =>
        return { output := "Created configuration file at: " ++ path.text
          ++ "\nEdit this file to customize your settings.\n" }
    | .error error => return .failure (failureLine [error.message])

def showSettings (settings : Settings) : Report :=
  { output := "Current Configuration:\n" ++ Text.times 50 "=" ++ "\n" ++ settings.toToml ++ "\n" }

def generateOnce (root : Path) (settings : Settings) (mode : Text) : m Report := do
  let config := settings.routeConfigOf root
  let target := Target.ofSettings root settings
  match ← Snapshot.load config mode with
  | .error error =>
      return .failure (failureLine
        (("failed to load " ++ config.text) :: error.message :: causesOfLoad error))
  | .ok snapshot =>
      match ← Pass.run target snapshot with
      | .error error => return .failure (failureLine (error.message :: causesOfPass error))
      | .ok summary =>
          return { output := "Generated types for " ++ Text.ofNat summary.routes ++ " routes ("
            ++ Text.ofNat summary.files ++ " files) in " ++ target.output.text ++ "\n" }

def startWatch (root : Path) (settings : Settings) (mode : Text) : m (Except Report Watch) := do
  let config := settings.routeConfigOf root
  let source : ConfigSource := { path := config, mode }
  let (loaded, source) ← source.get
  match ← Session.start (Target.ofSettings root settings) loaded (.ok ()) with
  | .error failure =>
      return .error (.failure (failureLine ["failed to start watch mode", failure.error.message]))
  | .ok session =>
      return .ok
        { session, source
          quietMillis := settings.debounceMs.toNat
          errors := "Watching " ++ config.text ++ "\nPress Ctrl+C to stop\n" }

/-! ## Runs -/

/-- The settings of an invocation: those of the file that it names, or else of the project. -/
def settingsOf (environment : List (Text × Text)) (invocation : Invocation) :
    m (Except Layer.ConfigError Settings) :=
  match invocation.config with
  | some path => Settings.loadFrom environment path
  | none => Settings.load environment invocation.root

/-- What the log filter of settings has to complain about. -/
def filterWarnings (settings : Settings) : Text :=
  (LogFilter.warnings (LogFilter.ofSettings settings)).flatMap (· ++ "\n")

/-- The outcome with warnings in front of its errors. -/
def Outcome.warning (warnings : Text) : Outcome → Outcome
  | .done report => .done (report.warning warnings)
  | .watching watch => .watching { watch with errors := warnings ++ watch.errors }

/-- Make the output, once or whenever the route config changes. -/
def typegen (root : Path) (mode : Text) (watch : Bool) (settings : Settings) : m Outcome := do
  if watch then
    match ← startWatch root settings mode with
    | .error report => return .done report
    | .ok watch => return .watching watch
  else return .done (← generateOnce root settings mode)

/-- Do what needs the settings of an invocation. -/
def withSettings (environment : List (Text × Text)) (invocation : Invocation)
    (act : Settings → m Outcome) : m Outcome := do
  match ← settingsOf environment invocation with
  | .error error => return .done (.failure ("Configuration error: " ++ error.message ++ "\n"))
  | .ok settings => return (← act settings).warning (filterWarnings settings)

/-- Run an invocation.  Setting up a project needs no settings. -/
def runInvocation (environment : List (Text × Text)) (invocation : Invocation) : m Outcome :=
  match invocation.command with
  | .init force => do return .done (← runInit invocation.root force)
  | .config =>
      withSettings environment invocation fun settings => return .done (showSettings settings)
  | .typegen mode watch =>
      withSettings environment invocation (typegen invocation.root mode watch)

def run (environment : List (Text × Text)) (words : List Text) : m Outcome := do
  match Invocation.ofWords environment words with
  | .error refusal => return .done refusal.report
  | .ok invocation => runInvocation environment invocation

end CommandLine
end TypedRoutes
