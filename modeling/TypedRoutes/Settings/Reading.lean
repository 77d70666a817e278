import TypedRoutes.Layer.Environment
import TypedRoutes.Layer.Source
import TypedRoutes.Settings.Basic

namespace TypedRoutes

/-!
# Reading settings

Settings are read from two layers: the settings file and, over it, the environment.  A setting that
neither names has its built-in value.
-/

namespace Settings

open Layer

/-- The settings that concern watching, in a record of their own. -/
def watchRecord : Record Settings :=
  { name := "WatchConfig"
    fields :=
      [("debounce_ms", fun settings value =>
        (readUnsigned 64 value).map fun n => { settings with debounceMs := .ofNat n })] }

/-- The settings that concern logging, in a record of their own. -/
def loggingRecord : Record Settings :=
  { name := "LoggingConfig"
    fields :=
      [("default", fun settings value =>
        (readText value).map fun level => { settings with defaultLevel := level }),
      ("modules", fun settings value =>
        (readMap readText value).map fun levels =>
          { settings with moduleLevels := .ofList levels })] }

def record : Record Settings :=
  { name := "Settings"
    fields :=
      [("version", fun settings value =>
        (readUnsigned 32 value).map fun n => { settings with version := .ofNat n }),
      ("output_dir", fun settings value =>
        (readPath value).map fun path => { settings with outputDir := ⟨path⟩ }),
      ("route_config", fun settings value =>
        (readPath value).map fun path => { settings with routeConfig := ⟨path⟩ }),
      ("framework_module", fun settings value =>
        (readText value).map fun name => { settings with frameworkModule := name }),
      ("watch", fun settings => watchRecord.reads settings),
      ("logging", fun settings => loggingRecord.reads settings)] }

/-- The settings that the file's layer and the environment's layer make together. -/
def ofLayers (file environment : Value) : Except ConfigError Settings :=
  (record.reads builtIn (file.overlay environment)).mapError .value

variable {m : Type → Type} [Monad m] [FileSystem m]

/-- The settings of a file, in an environment.  A missing file decides nothing. -/
def loadFrom (environment : List (Text × Text)) (path : Path) : m (Except ConfigError Settings) := do
  match ← ofFile path with
  | .error error => return .error error
  | .ok file => return ofLayers file (Environment.layer environment)

def load (environment : List (Text × Text)) (root : Path) : m (Except ConfigError Settings) :=
  loadFrom environment (fileOf root)

end Settings
end TypedRoutes
