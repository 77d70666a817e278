import TypedRoutes.Disk.FileSystem
import TypedRoutes.Layer.Reading
import TypedRoutes.Toml.Document

namespace TypedRoutes

/-!
# Files as layers

A file of a layer is named by a path.  A relative path is looked for from the working directory, and
then from each directory above it; the nearest file counts.  A layer whose file is nowhere is empty.
-/

namespace Layer

inductive ConfigError where
  /-- The text is no TOML. -/
  | malformed
  | unreadable (fault : Fault)
  | value (error : ReadError)
deriving Repr

/-- The wording of each cause.  What is wrong with the form of a text is not told. -/
def ConfigError.message : ConfigError → Text
  | .malformed => "TOML parse error"
  | .unreadable fault => fault.message
  | .value error => error.message

/-! ## Finding a file -/

def pathOf (location : Location) : Path := ⟨'/' :: Text.glue '/' location⟩

/-- A location and those above it, the nearest first. -/
def andAbove : Location → List Location
  | [] => [[]]
  | name :: rest => (andAbove rest).map (name :: ·) ++ [[]]

/-- Where a path is looked for, in order, together with the directory that it is looked for from. -/
def candidates (working : Location) (path : Path) : List (Location × Path) :=
  if path.isAbsolute then [([], path)]
  else (andAbove working).map fun location => (location, (pathOf location).join path)

/-! ## Showing a file -/

/-- The pieces of a path that was found from a directory. -/
def piecesFrom (start : Location) (path : Path) : List Text :=
  if path.isAbsolute then path.significant
  else start ++ path.significant.filter (· ≠ ['.'])

/-- The way from one list of pieces to another: up to where they part, and down. -/
def wayTo : List Text → List Text → List Text
  | a :: source, b :: target =>
      if a = b then wayTo source target
      else List.replicate (source.length + 1) ['.', '.'] ++ b :: target
  | source, target => List.replicate source.length ['.', '.'] ++ target

/-- How messages show a file: by the way to it from the working directory where that has fewer
pieces, else by its absolute path. -/
def shown (working : Location) (pieces : List Text) : Text :=
  let way := wayTo working pieces
  if way.length < pieces.length + 1 then Text.glue '/' way else '/' :: Text.glue '/' pieces

/-! ## Reading a file -/

variable {m : Type → Type} [Monad m] [FileSystem m]

/-- The first of some places at which there is a file. -/
def firstFile? : List (Location × Path) → m (Option (Location × Path))
  | [] => return none
  | place :: rest => do
      if ← FileSystem.isFile place.2 then return some place else firstFile? rest

def ofText (shown : Text) (text : Text) : Except ConfigError Value :=
  match Toml.parse? text with
  | some entries => .ok (.table (.file shown) (Value.ofTomlEntries (.file shown) entries))
  | none => .error .malformed

/-- The layer of a file, which is empty where there is no file. -/
def ofFile (path : Path) : m (Except ConfigError Value) := do
  let working ← FileSystem.workingDirectory
  match ← firstFile? (candidates working path) with
  | none => return .ok (.table (.file path.text) [])
  | some (start, place) =>
      match ← FileSystem.read place with
      | .error fault => return .error (.unreadable fault)
      | .ok text => return ofText (shown working (piecesFrom start path)) text

end Layer
end TypedRoutes
