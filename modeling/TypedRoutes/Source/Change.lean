import TypedRoutes.Source.RouteConfig

namespace TypedRoutes

/-!
# Changes of the configuration

A reload ends in a change: the new snapshot with what differs from the last good one, or a message
that tells why there is none.  A source remembers the last snapshot that loaded, and a failed reload
leaves that memory alone.
-/

structure Change where
  result : Except Text Snapshot
  generalChanged : Bool
  routesChanged : Bool

namespace Change

/-- A reload with a snapshot before it. -/
def between (old new : Snapshot) : Change :=
  ⟨.ok new, old.generalDiffer new, old.routesDiffer new⟩

/-- A first load, with nothing to compare to. -/
def first (new : Snapshot) : Change := ⟨.ok new, true, true⟩

def failed (message : Text) : Change := ⟨.error message, false, false⟩

/-- Whether output has to be made again. -/
def isRelevant (change : Change) : Bool := change.generalChanged || change.routesChanged

end Change

/-- A route config file that is loaded again and again. -/
structure ConfigSource where
  path : Path
  mode : Text
  /-- The snapshot of the last load that succeeded. -/
  last : Option Snapshot := none

namespace ConfigSource

def remember (source : ConfigSource) : Except LoadError Snapshot → ConfigSource
  | .ok snapshot => { source with last := some snapshot }
  | .error _ => source

/-- The change that a load means to a source. -/
def classify (source : ConfigSource) : Except LoadError Snapshot → Change
  | .ok new =>
      match source.last with
      | some old => .between old new
      | none => .first new
  | .error error => .failed error.message

variable {m : Type → Type} [Monad m] [FileSystem m]

def get (source : ConfigSource) : m (Except LoadError Snapshot × ConfigSource) := do
  let loaded ← Snapshot.load source.path source.mode
  return (loaded, source.remember loaded)

def reload (source : ConfigSource) : m (Change × ConfigSource) := do
  let loaded ← Snapshot.load source.path source.mode
  return (source.classify loaded, source.remember loaded)

end ConfigSource
end TypedRoutes
