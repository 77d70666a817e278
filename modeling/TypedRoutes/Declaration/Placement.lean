import TypedRoutes.Route.Snapshot

namespace TypedRoutes

/-!
# Placement of declaration files

Every route has a declaration file below the output directory.  Its place follows the route id:
the directories of the application, those of the id, a directory `+types`, and the last part of the
id with the ending `.ts`.  Parts that a file system would read as a step are replaced, so that no id
leads out of the output directory.
-/

namespace Placement

def typesDirectory : Text := "+types"

/-- A part that is safe as a file name: `.` becomes `_` and `..` becomes `__`. -/
def plain (part : Text) : Text :=
  if part = ['.'] then ['_'] else if part = ['.', '.'] then ['_', '_'] else part

/-- The directories of the application; empty parts and `.` are skipped. -/
def appParts (appDirectory : Text) : List Text :=
  ((Text.pieces '/' appDirectory).filter fun p => p ≠ [] ∧ p ≠ ['.']).map plain

/-- The parts of a route id; empty ones are skipped. -/
def idParts (id : Text) : List Text :=
  ((Text.pieces '/' id).filter (· ≠ [])).map plain

/-- What placement sees of an id: its parts, or `_` alone where it has none. -/
def key (id : Text) : List Text :=
  if idParts id = [] then [['_']] else idParts id

/-- The parts of the place of a declaration file, relative to the output directory. -/
def components (appDirectory id : Text) : List Text :=
  let key := key id
  appParts appDirectory ++ key.dropLast ++ [typesDirectory, key.getLastD ['_'] ++ ".ts"]

/-- The place of a declaration file as a relative path. -/
def path (appDirectory id : Text) : Text := Text.glue '/' (components appDirectory id)

end Placement
end TypedRoutes
