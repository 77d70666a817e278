import TypedRoutes.Route.Tree

namespace TypedRoutes

/-!
# Snapshots

One fully loaded configuration: a built tree and the general settings that generated text depends
on.  A snapshot never changes; a reload makes a new one.
-/

/-- Opt-in capabilities of the framework. -/
structure FutureFlags where
  middleware : Bool := false
deriving DecidableEq, Repr

structure Snapshot where
  appDirectory : Text
  mode : Text
  future : FutureFlags
  tree : RouteTree
deriving DecidableEq, Repr

namespace Snapshot

/-- The root id unless a configuration names another. -/
def defaultRootId : Text := "root"

/-- The application directory unless a configuration names another. -/
def defaultAppDirectory : Text := "app"

abbrev routes (snapshot : Snapshot) : List Route := snapshot.tree.routes

def routesDiffer (a b : Snapshot) : Bool := a.tree ≠ b.tree

def generalDiffer (a b : Snapshot) : Bool :=
  a.appDirectory ≠ b.appDirectory || a.mode ≠ b.mode || a.future ≠ b.future

end Snapshot
end TypedRoutes
