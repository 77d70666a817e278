import TypedRoutes.Disk.Fault
import TypedRoutes.Disk.Node

namespace TypedRoutes

/-!
# Disks

A disk is a file tree with a working directory.  A path is followed step by step: every step needs a
directory to start from, so `x/..` asks for `x`.  The requests of this module are the primitive ones
of a file system, and each either fails and leaves the disk as it is or succeeds as a whole;
`removeTree` alone may stop half way.  There are no links, no permissions and no broken devices.
-/

/-- A file tree and the directory that relative paths start from. -/
structure Disk where
  root : Node
  working : Location
deriving Repr

namespace Disk

/-- The longest name of a file, in bytes. -/
def nameLimit : Nat := 255

/-- The longest path that a request may name, in bytes. -/
def pathLimit : Nat := 4095

def at? (disk : Disk) (location : Location) : Option Node := disk.root.at? location

def put (disk : Disk) (location : Location) (node : Node) : Disk :=
  { disk with root := disk.root.put location node }

def erase (disk : Disk) (location : Location) : Disk :=
  { disk with root := disk.root.erase location }

/-! ## Following a path -/

/-- Follow steps from a location.  What the last step names need not exist. -/
def walk (disk : Disk) : Location → List Path.Step → Except Fault Location
  | location, [] => .ok location
  | location, step :: rest =>
      match disk.at? location with
      | none => .error .notFound
      | some (.file _) => .error .notDirectory
      | some (.directory _) =>
          match step with
          | .name name =>
              if nameLimit < Text.utf8Length name then .error .nameTooLong
              else walk disk (location ++ [name]) rest
          | step => walk disk (step.apply location) rest

/-- The location that a path leads to. -/
def locate (disk : Disk) (path : Path) : Except Fault Location :=
  if '\x00' ∈ path.text then .error .nulInName
  else if path.text = [] then .error .notFound
  else if pathLimit < Text.utf8Length path.text then .error .nameTooLong
  else disk.walk (if path.isAbsolute then [] else disk.working) path.steps

/-- The location and the node that a path leads to.  A path with a `/` at its end leads to
directories only. -/
def find (disk : Disk) (path : Path) : Except Fault (Location × Node) :=
  match disk.locate path with
  | .error fault => .error fault
  | .ok location =>
      match disk.at? location with
      | none => .error .notFound
      | some (.directory entries) => .ok (location, .directory entries)
      | some (.file text) =>
          if path.endsInSlash then .error .notDirectory else .ok (location, .file text)

/-! ## Requests -/

def read (disk : Disk) (path : Path) : Except Fault Text :=
  match disk.find path with
  | .error fault => .error fault
  | .ok (_, .file text) => .ok text
  | .ok (_, .directory _) => .error .isDirectory

/-- Write a file, new or in place of an old one. -/
def write (disk : Disk) (path : Path) (text : Text) : Except Fault Disk :=
  match disk.locate path with
  | .error fault => .error fault
  | .ok location =>
      match path.steps.getLast?, disk.at? location with
      | some (.name _), some (.directory _) => .error .isDirectory
      | some (.name _), _ =>
          if path.endsInSlash then .error .isDirectory else .ok (disk.put location (.file text))
      | _, _ => .error .isDirectory

def makeDirectory (disk : Disk) (path : Path) : Except Fault Disk :=
  match disk.locate path with
  | .error fault => .error fault
  | .ok location =>
      match path.steps.getLast?, disk.at? location with
      | some (.name _), none => .ok (disk.put location .emptyDirectory)
      | _, _ => .error .alreadyExists

/-- Remove a directory that has no entries.  A path that ends in `.` or `..`, or names the top, does
not name an entry to remove. -/
def removeDirectory (disk : Disk) (path : Path) : Except Fault Disk :=
  match disk.locate path with
  | .error fault => .error fault
  | .ok location =>
      match path.steps.getLast? with
      | none => .error .busy
      | some .here => .error .invalidArgument
      | some .up => .error .notEmpty
      | some (.name _) =>
          match disk.at? location with
          | none => .error .notFound
          | some (.file _) => .error .notDirectory
          | some (.directory []) => .ok (disk.erase location)
          | some (.directory _) => .error .notEmpty

/-- Remove a directory with everything in it: first its entries, then itself.  Where the path leads
nowhere once the entries are gone, the work counts as done. -/
def removeTree (disk : Disk) (path : Path) : Except Fault Unit × Disk :=
  match disk.find path with
  | .error fault => (.error fault, disk)
  | .ok (_, .file _) => (.error .notDirectory, disk)
  | .ok (location, .directory _) =>
      let emptied := disk.put location .emptyDirectory
      match emptied.removeDirectory path with
      | .ok removed => (.ok (), removed)
      | .error .notFound => (.ok (), emptied)
      | .error fault => (.error fault, emptied)

end Disk
end TypedRoutes
