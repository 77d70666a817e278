import TypedRoutes.Settings.Basic

namespace TypedRoutes

/-!
# Targets

A target says which directory a pass replaces, and which paths that must never delete.  The output
directory is refused when, read lexically from the working directory, it is the project, a guarded
path, or a directory above one of them.
-/

/-- Where output goes, and for which framework. -/
structure Target where
  /-- The root of the project. -/
  root : Path
  /-- The directory that every pass replaces. -/
  output : Path
  frameworkModule : Text
  /-- Paths besides the root that a pass must not delete. -/
  guarded : List Path := []
deriving DecidableEq, Repr

namespace Target

/-- The target of a project whose output directory is given relative to its root. -/
def new (root output : Path) (frameworkModule : Text) : Target :=
  { root, output := root.join output, frameworkModule }

/-- The target with one more guarded path. -/
def guarding (target : Target) (path : Path) : Target :=
  { target with guarded := target.guarded ++ [path] }

/-- The target that settings describe; it guards the route config and the settings file. -/
def ofSettings (root : Path) (settings : Settings) : Target :=
  ((new root settings.outputDir settings.frameworkModule).guarding
    (settings.routeConfigOf root)).guarding (Settings.fileOf root)

/-- Every path that a pass must not delete, the root first. -/
def kept (target : Target) : List Path := target.root :: target.guarded

/-- The first path that clearing the output directory would delete. -/
def firstCovered? (working : Location) (target : Target) : Option Path :=
  target.kept.find? fun path =>
    Path.covers (target.output.resolve? working) (path.resolve? working)

end Target
end TypedRoutes
