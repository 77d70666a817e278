import TypedRoutes.Disk.FileSystem

namespace TypedRoutes

/-!
# The file system of a machine

Programs on a file system run here on the real one.  A path that the machine would misread, because
it is empty or holds a NUL, fails before the machine is asked.  Links are followed, except that
removing a directory removes the links in it and not what they lead to.
-/

namespace Machine

/-- The number and the wording that the machine gives for an error. -/
def codeOf : IO.Error → Option (UInt32 × String)
  | .alreadyExists _ code words | .otherError code words | .resourceBusy code words
  | .resourceVanished code words | .unsupportedOperation code words | .hardwareFault code words
  | .unsatisfiedConstraints code words | .illegalOperation code words | .protocolError code words
  | .timeExpired code words | .interrupted _ code words | .noFileOrDirectory _ code words
  | .invalidArgument _ code words | .permissionDenied _ code words
  | .resourceExhausted _ code words | .inappropriateType _ code words
  | .noSuchThing _ code words => some (code, words)
  | .unexpectedEof | .userError _ => none

/-- The faults with a wording of their own, by number. -/
def numbered : List (UInt32 × Fault) :=
  [(2, .notFound), (16, .busy), (17, .alreadyExists), (20, .notDirectory), (21, .isDirectory),
    (22, .invalidArgument), (36, .nameTooLong), (39, .notEmpty)]

/-- The number of an error.  Some requests report it negated. -/
def plainNumber (code : UInt32) : UInt32 := if code < 0x80000000 then code else 0 - code

def faultOf (error : IO.Error) : Fault :=
  match codeOf error with
  | some (code, words) =>
      let number := plainNumber code
      (numbered.lookup number).getD
        (.other (words ++ " (os error " ++ toString number.toNat ++ ")").toList)
  | none => .other "stream did not contain valid UTF-8"

/-- Ask the machine about a path, as the machine writes it. -/
def ask {α : Type} (path : Path) (request : String → IO α) : IO (Except Fault α) := do
  if '\x00' ∈ path.text then return .error .nulInName
  else if path.text = [] then return .error .notFound
  else
    match ← (request (String.ofList path.text)).toBaseIO with
    | .ok answer => return .ok answer
    | .error error => return .error (faultOf error)

/-- A path as an entry of the working directory; an absolute path stands for itself. -/
def entryOf (path : String) : IO.FS.DirEntry := { root := ".", fileName := path }

def leadsToDirectory (path : String) : IO Bool := do
  match (← (entryOf path).path.metadata).type with
  | .dir => return true
  | _ => return false

/-- Remove an entry with everything in it. -/
partial def removeAll (entry : IO.FS.DirEntry) : IO Unit := do
  match (← entry.path.symlinkMetadata).type with
  | .dir => do
      for inner in ← entry.path.readDir do
        removeAll inner
      IO.FS.removeDir entry.path
  | _ => IO.FS.removeFile entry.path

/-- Whether a path names a file, which is neither a directory nor a link. -/
def namesFile (path : String) : IO Bool := do
  match (← (entryOf path).path.symlinkMetadata).type with
  | .dir | .symlink => return false
  | _ => return true

/-- Remove a directory, or a link to one. -/
def removeTree (path : Path) : IO (Except Fault Unit) := do
  match ← ask path namesFile with
  | .error fault => return .error fault
  | .ok true => return .error .notDirectory
  | .ok false => ask path fun path => removeAll (entryOf path)

instance : FileSystem IO where
  workingDirectory := do
    let working ← IO.currentDir
    return (Text.pieces '/' working.toString.toList).filter (· ≠ [])
  isDirectory? path := ask path leadsToDirectory
  read path := ask path fun path => do return (← IO.FS.readFile path).toList
  write path text := ask path fun path => IO.FS.writeFile path (String.ofList text)
  makeDirectory path := ask path fun path => IO.FS.createDir path
  removeTree := removeTree

end Machine
end TypedRoutes
