import TypedRoutes.Path.Basic
import TypedRoutes.Text.Table

namespace TypedRoutes

/-!
# Settings

What a project decides about generation.  Each setting has a built-in value.
-/

structure ModuleLevels where
  entries : Table Text
  sorted : entries.Sorted
deriving DecidableEq

namespace ModuleLevels

def empty : ModuleLevels := ⟨[], List.Pairwise.nil⟩

/-- The levels of a list of entries; of entries with one name the last counts. -/
def ofList (entries : List (Text × Text)) : ModuleLevels :=
  ⟨Table.ofList entries, Table.sorted_ofList entries⟩

end ModuleLevels

structure Settings where
  version : UInt32 := 1
  /-- The directory that every pass replaces, relative to the project. -/
  outputDir : Path := ".react-router/types"
  /-- The file that declares the routes, relative to the project. -/
  routeConfig : Path := "routes.toml"
  /-- The module that generated declarations augment. -/
  frameworkModule : Text := "react-router"
  /-- How long the route config must be quiet before it is read again. -/
  debounceMs : UInt64 := 100
  /-- The log level of modules that have none of their own. -/
  defaultLevel : Text := "warn"
  moduleLevels : ModuleLevels := .empty
deriving DecidableEq

namespace Settings

def fileName : Path := "typegen.toml"

/-- The settings of a project that decides nothing. -/
def builtIn : Settings := {}

def fileOf (root : Path) : Path := root.join fileName

def routeConfigOf (settings : Settings) (root : Path) : Path := root.join settings.routeConfig

end Settings
end TypedRoutes
