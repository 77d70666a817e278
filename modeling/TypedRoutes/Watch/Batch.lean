import TypedRoutes.Source.Change

namespace TypedRoutes

/-!
# Batches

Changes that wait together are taken together.  Of a batch, every failure is reported, and what
succeeded is folded into one reload: the latest snapshot, with whatever any of them changed.
-/

/-- A snapshot to adopt, with what changed since the one before it. -/
structure Reload where
  snapshot : Snapshot
  generalChanged : Bool
  routesChanged : Bool
deriving DecidableEq, Repr

namespace Reload

def isRelevant (reload : Reload) : Bool := reload.generalChanged || reload.routesChanged

/-- The reload that a change leaves of an earlier one. -/
def followedBy (earlier : Option Reload) (change : Change) : Option Reload :=
  match change.result with
  | .error _ => earlier
  | .ok snapshot =>
      some
        { snapshot
          generalChanged := earlier.any (·.generalChanged) || change.generalChanged
          routesChanged := earlier.any (·.routesChanged) || change.routesChanged }

end Reload

namespace Batch

/-- What a batch asks to load, if any of its changes succeeded. -/
def reload (changes : List Change) : Option Reload := changes.foldl Reload.followedBy none

def failures (changes : List Change) : List Text :=
  changes.filterMap fun change =>
    match change.result with
    | .error reason => some reason
    | .ok _ => none

end Batch
end TypedRoutes
