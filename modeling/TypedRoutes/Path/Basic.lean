import TypedRoutes.Text.Basic

namespace TypedRoutes

/-!
# Paths

A path is kept as it is written, because messages show it that way.  What it means is read off its
pieces: a path that starts with `/` is absolute, empty pieces mean nothing, `.` stays where it is and
`..` goes up.  Resolving a path lexically (`Path.resolve?`) gives a location, the list of names from
the top of the file system down.
-/

/-- The names that lead from the top of the file system to a place in it. -/
abbrev Location := List Text

structure Path where
  text : Text
deriving DecidableEq, Repr

instance : Coe String Path := ⟨fun s => ⟨s.toList⟩⟩

namespace Path

inductive Step where
  | here
  | up
  | name (part : Text)
deriving DecidableEq, Repr

/-- Whether a path starts at the top of the file system. -/
def isAbsolute (path : Path) : Bool := path.text.head? = some '/'

def endsInSlash (path : Path) : Bool := path.text.getLast? = some '/'

/-- A path seen from another one: an absolute path stands for itself. -/
def join (base rest : Path) : Path :=
  if rest.isAbsolute then rest
  else if base.text = [] ∨ base.endsInSlash then ⟨base.text ++ rest.text⟩
  else ⟨base.text ++ '/' :: rest.text⟩

/-! ## Pieces and steps -/

/-- The pieces between slashes, without the slash that makes a path absolute. -/
def body (path : Path) : List Text :=
  Text.pieces '/' (if path.isAbsolute then path.text.drop 1 else path.text)

def Step.ofPiece? (piece : Text) : Option Step :=
  if piece = [] then none
  else if piece = ['.'] then some .here
  else if piece = ['.', '.'] then some .up
  else some (.name piece)

/-- The steps of a path, each `.` included. -/
def steps (path : Path) : List Step := path.body.filterMap Step.ofPiece?

/-! ## Lexical resolution -/

/-- The location that one step leads to; above the top there is nothing. -/
def Step.apply (location : Location) : Step → Location
  | .here => location
  | .up => location.dropLast
  | .name part => location ++ [part]

/-- The location a path names when read from a working directory, without looking at any file.
The empty path names none. -/
def resolve? (working : Location) (path : Path) : Option Location :=
  if path.text = [] then none
  else some (path.steps.foldl Step.apply (if path.isAbsolute then [] else working))

/-- Whether the first of two resolved paths is the second or lies above it.  The empty path, which
names no location, lies above every path. -/
def covers : Option Location → Option Location → Bool
  | none, _ => true
  | some _, none => false
  | some outer, some inner => outer.isPrefixOf inner

/-! ## Ancestors -/

/-- Whether a piece adds nothing to the pieces before it: it is empty, or it is a `.` that does not
open a relative path. -/
def isBlank (absolute : Bool) (before : List Text) (piece : Text) : Bool :=
  piece = [] || (piece = ['.'] && (absolute || !before.isEmpty))

/-- The beginnings of a path that end in a meaningful piece, the longest first.  Pieces are given
from the last to the first. -/
def beginnings (absolute : Bool) : List Text → List (List Text)
  | [] => []
  | piece :: before =>
      if isBlank absolute before piece then beginnings absolute before
      else (piece :: before) :: beginnings absolute before

/-- The path of pieces, given from the last to the first. -/
def ofReversed (absolute : Bool) (pieces : List Text) : Path :=
  let text := Text.glue '/' pieces.reverse
  ⟨if absolute then '/' :: text else text⟩

/-- The path without what adds nothing at its end, and the directories above it, the deepest
first.  The top of the file system and the empty path are not listed. -/
def upward (path : Path) : List Path :=
  (beginnings path.isAbsolute path.body.reverse).map (ofReversed path.isAbsolute)

/-- The directories above a path, the deepest first. -/
def above (path : Path) : List Path := path.upward.tail

/-! ## Display -/

/-- The pieces that distinguish paths from each other: the names and `..`, and a `.` that opens a
relative path. -/
def significant (path : Path) : List Text :=
  ((beginnings path.isAbsolute path.body.reverse).filterMap List.head?).reverse

end Path
end TypedRoutes
