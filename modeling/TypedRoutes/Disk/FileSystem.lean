import TypedRoutes.Disk.Basic

namespace TypedRoutes

/-!
# Programs on a file system

What the generator asks of a file system, and the two compound requests built from that: making a
directory with all that lead to it, and writing a file wherever it belongs.  The programs run on a
`Disk` as a value, where theorems speak about them, and on the file system of a machine.
-/

/-- What programs ask of a file system. -/
class FileSystem (m : Type → Type) where
  /-- The directory that relative paths start from. -/
  workingDirectory : m Location
  /-- Whether a path leads to a directory, where it leads anywhere. -/
  isDirectory? : Path → m (Except Fault Bool)
  read : Path → m (Except Fault Text)
  write : Path → Text → m (Except Fault Unit)
  makeDirectory : Path → m (Except Fault Unit)
  removeTree : Path → m (Except Fault Unit)

namespace Disk

/-- A request that fails leaves the disk as it is. -/
def attempt (disk : Disk) : Except Fault Disk → Except Fault Unit × Disk
  | .ok changed => (.ok (), changed)
  | .error fault => (.error fault, disk)

instance : FileSystem (StateM Disk) where
  workingDirectory := fun disk => (disk.working, disk)
  isDirectory? path := fun disk => ((disk.find path).map (·.2.isDirectory), disk)
  read path := fun disk => (disk.read path, disk)
  write path text := fun disk => disk.attempt (disk.write path text)
  makeDirectory path := fun disk => disk.attempt (disk.makeDirectory path)
  removeTree path := fun disk => disk.removeTree path

end Disk

namespace FileSystem

variable {m : Type → Type} [Monad m] [FileSystem m]

def isDirectory (path : Path) : m Bool := do
  match ← isDirectory? path with
  | .ok isDirectory => return isDirectory
  | .error _ => return false

def isFile (path : Path) : m Bool := do
  match ← isDirectory? path with
  | .ok isDirectory => return !isDirectory
  | .error _ => return false

def exists? (path : Path) : m Bool := do
  match ← isDirectory? path with
  | .ok _ => return true
  | .error _ => return false

/-- Make a directory and those above it, given the deepest first.  A directory that is there already
is fine. -/
def makeDirectories : List Path → m (Except Fault Unit)
  | [] => return .ok ()
  | path :: above => do
      match ← makeDirectory path with
      | .ok () => return .ok ()
      | .error .notFound =>
          match ← makeDirectories above with
          | .error fault => return .error fault
          | .ok () =>
              match ← makeDirectory path with
              | .ok () => return .ok ()
              | .error fault => settle path fault
      | .error fault => settle path fault
where
  /-- A directory that exists already is as good as a new one, whatever kept the new one from being
  made. -/
  settle (path : Path) (fault : Fault) : m (Except Fault Unit) := do
    if ← isDirectory path then return .ok () else return .error fault

/-- Write a file and make the directories above it. -/
def writeFile (path : Path) (text : Text) : m (Except Fault Unit) := do
  match ← makeDirectories path.above with
  | .error fault => return .error fault
  | .ok () => write path text

end FileSystem
end TypedRoutes
