import TypedRoutes.Layer.Source
import TypedRoutes.Route.Snapshot

namespace TypedRoutes

/-!
# The route config

The routes of a project are declared in one TOML file.  Loading it gives a snapshot: the file must be
there, its values must have the right types, and its routes must form a tree.
-/

structure RouteConfig where
  appDirectory : Text := Snapshot.defaultAppDirectory
  rootId : Text := Snapshot.defaultRootId
  future : FutureFlags := {}
  routes : List Route := []

namespace RouteConfig

open Layer

/-! ## Reading -/

def futureRecord : Record FutureFlags :=
  { name := "FutureFlags"
    fields :=
      [("unstable_middleware", fun flags value =>
        (readFlag value).map fun middleware => { flags with middleware })] }

/-- A route in the course of reading.  The id may still be missing. -/
abbrev Draft := Option Text × Route

def routeRecord : Record Draft :=
  { name := "RouteEntry"
    fields :=
      [("id", fun draft value => (readText value).map fun id => (some id, draft.2)),
      ("path", fun draft value =>
        (readText value).map fun path => (draft.1, { draft.2 with path := some path })),
      ("file", fun draft value =>
        (readText value).map fun file => (draft.1, { draft.2 with file := some file })),
      ("parent_id", fun draft value =>
        (readText value).map fun parent => (draft.1, { draft.2 with parentId := some parent })),
      ("index", fun draft value =>
        (readFlag value).map fun index => (draft.1, { draft.2 with index }))] }

def missingId : Value → Cause
  | .list _ items => .tooShort items.length routeRecord.name routeRecord.fields.length
  | _ => .missingField "id"

def readRoute : Reads Route := fun value => do
  match ← routeRecord.reads (none, { id := [] }) value with
  | (some id, route) => return { route with id }
  | (none, _) => value.refuse (missingId value)

def record : Record RouteConfig :=
  { name := "RouteConfigFile"
    fields :=
      [("app_directory", fun config value =>
        (readText value).map fun appDirectory => { config with appDirectory }),
      ("root_id", fun config value => (readText value).map fun rootId => { config with rootId }),
      ("future", fun config value =>
        (futureRecord.reads {} value).map fun future => { config with future }),
      ("routes", fun config value =>
        (readList readRoute value).map fun routes => { config with routes })] }

def ofLayer (layer : Value) : Except ConfigError RouteConfig :=
  (record.reads {} layer).mapError .value

def snapshot (config : RouteConfig) (mode : Text) : Except TreeError Snapshot :=
  (RouteTree.build config.rootId config.routes).map fun tree =>
    { appDirectory := config.appDirectory, mode, future := config.future, tree }

end RouteConfig

/-! ## Loading -/

inductive LoadError where
  | notFound (path : Path)
  | config (error : Layer.ConfigError)
  | tree (error : TreeError)
deriving Repr

def LoadError.message : LoadError → Text
  | .notFound path => "Route config not found: " ++ path.text
  | .config error => "Invalid route config: " ++ error.message
  | .tree error => "Invalid route tree: " ++ error.message

namespace Snapshot

/-- The snapshot of a layer, for a mode. -/
def ofLayer (layer : Layer.Value) (mode : Text) : Except LoadError Snapshot :=
  match RouteConfig.ofLayer layer with
  | .error error => .error (.config error)
  | .ok config => (config.snapshot mode).mapError .tree

variable {m : Type → Type} [Monad m] [FileSystem m]

/-- Load the route config at a path, for a mode. -/
def load (path : Path) (mode : Text) : m (Except LoadError Snapshot) := do
  if ← FileSystem.isFile path then
    match ← Layer.ofFile path with
    | .error error => return .error (.config error)
    | .ok layer => return ofLayer layer mode
  else return .error (.notFound path)

end Snapshot
end TypedRoutes
