import TypedRoutes.Output.Pass
import TypedRoutes.Source.RouteConfig

namespace TypedRoutes

/-!
# What watching reports

A watched project speaks to its user through notices: one for every pass and one for every reload
that failed.  What keeps watching from starting is a `WatchError`.
-/

inductive WatchError where
  | subscription (reason : Text)
  | unwatchable (path : Path) (reason : Text)
  | config (error : LoadError)
  | pass (error : PassError)

def WatchError.message : WatchError → Text
  | .subscription reason => "Failed to initialize watcher: " ++ reason
  | .unwatchable path reason => "Cannot watch path " ++ path.text ++ ": " ++ reason
  | .config error => "Failed to load config: " ++ error.message
  | .pass error => "Type generation failed: " ++ error.message

/-- Whether a notice tells of success or of failure. -/
inductive Level where
  | info
  | error
deriving DecidableEq, Repr

/-- A message to the user.  It shows the time of day, and a notice may ask for a clear screen. -/
structure Notice where
  level : Level
  message : Text
  timestamp : Bool := true
  clear : Bool := false
deriving DecidableEq, Repr

namespace Notice

def generated (summary : Pass.Summary) : Notice :=
  { level := .info, message := "Generated types for " ++ Text.ofNat summary.routes ++ " routes" }

def regenerated (summary : Pass.Summary) : Notice :=
  { level := .info
    message := "Regenerated types for " ++ Text.ofNat summary.routes ++ " routes"
    clear := true }

def passFailed (error : PassError) : Notice :=
  { level := .error, message := (WatchError.pass error).message }

def reloadFailed (reason : Text) : Notice :=
  { level := .error, message := "Route config reload failed: " ++ reason }

end Notice
end TypedRoutes
