import TypedRoutes.Disk.FileSystem
import TypedRoutes.Settings.Basic
import TypedRoutes.Toml.Writer

namespace TypedRoutes

/-!
# Writing settings

The text of a settings file says everything, built-in values included.  A new project gets the
built-in settings and, unless it has routes already, a small route config to start from.
-/

namespace Settings

def line (key value : Text) : Text := Toml.writeKey key ++ " = " ++ value ++ "\n"

/-- The text of settings that lists the modules in the order of `levels`. -/
def toTomlIn (settings : Settings) (levels : List (Text × Text)) : Text :=
  line "version" (Text.ofNat settings.version.toNat)
    ++ line "output_dir" (Toml.writeString settings.outputDir.text)
    ++ line "route_config" (Toml.writeString settings.routeConfig.text)
    ++ line "framework_module" (Toml.writeString settings.frameworkModule)
    ++ "\n[watch]\n"
    ++ line "debounce_ms" (Text.ofNat settings.debounceMs.toNat)
    ++ "\n[logging]\n"
    ++ line "default" (Toml.writeString settings.defaultLevel)
    ++ "\n[logging.modules]\n"
    ++ levels.flatMap fun entry => line entry.1 (Toml.writeString entry.2)

/-- The text of settings.  Modules may stand in any order; here it is that of their names. -/
def toToml (settings : Settings) : Text := settings.toTomlIn settings.moduleLevels.entries

variable {m : Type → Type} [Monad m] [FileSystem m]

/-- Save settings with the modules in the order of `levels`. -/
def saveIn (settings : Settings) (levels : List (Text × Text)) (path : Path) : m (Except Fault Unit) :=
  FileSystem.writeFile path (settings.toTomlIn levels)

def save (settings : Settings) (path : Path) : m (Except Fault Unit) :=
  settings.saveIn settings.moduleLevels.entries path

/-! ## New projects -/

def starterRoutes : Text :=
  "# Route config read by route-typegen.\n"
    ++ "#\n"
    ++ "# A route's parent is its id minus the last `/` component (or the root),\n"
    ++ "# unless `parent_id` is given.\n"
    ++ "\n"
    ++ "app_directory = \"app\"\n"
    ++ "\n"
    ++ "[future]\n"
    ++ "unstable_middleware = false\n"
    ++ "\n"
    ++ "[[routes]]\n"
    ++ "id = \"root\"\n"
    ++ "file = \"root.tsx\"\n"
    ++ "\n"
    ++ "[[routes]]\n"
    ++ "id = \"home\"\n"
    ++ "file = \"routes/home.tsx\"\n"
    ++ "index = true\n"
    ++ "\n"
    ++ "[[routes]]\n"
    ++ "id = \"posts\"\n"
    ++ "path = \"posts/:slug\"\n"
    ++ "file = \"routes/post.tsx\"\n"

inductive InitError where
  | alreadyThere
  | fault (cause : Fault)
deriving DecidableEq, Repr

def InitError.message : InitError → Text
  | .alreadyThere => "Settings file already exists. Use --force to overwrite"
  | .fault cause => cause.message

/-- Write the starter route config where nothing is at its place. -/
def writeStarter (path : Path) : m (Except InitError Unit) := do
  if ← FileSystem.exists? path then return .ok ()
  else
    match ← FileSystem.write path starterRoutes with
    | .error fault => return .error (.fault fault)
    | .ok () => return .ok ()

/-- Set up a project: built-in settings and a starter route config.  An existing settings file is
replaced only by force, and an existing route config never. -/
def init (root : Path) (force : Bool) : m (Except InitError Path) := do
  let file := fileOf root
  let taken ← if force then pure false else FileSystem.exists? file
  if taken then return .error .alreadyThere
  else
    match ← builtIn.save file with
    | .error fault => return .error (.fault fault)
    | .ok () =>
        match ← writeStarter (builtIn.routeConfigOf root) with
        | .error error => return .error error
        | .ok () => return .ok file

end Settings
end TypedRoutes
