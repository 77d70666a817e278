import TypedRoutes.Declaration.Register
import TypedRoutes.Declaration.RouteFile
import TypedRoutes.Declaration.ServerBuild
import TypedRoutes.Disk.FileSystem
import TypedRoutes.Output.Target

namespace TypedRoutes

/-!
# Passes

A pass replaces the output directory by the complete output of a snapshot.  All texts are made before
anything is deleted, so a pass that is refused changes nothing.  After that the directory is cleared
and the files are written in order; the first fault ends the pass.
-/

inductive PassError where
  | tree (error : TreeError)
  | placeTaken (place : Text) (first second : Text)
  | unsafeOutput (output guarded : Path)
  | write (path : Path) (fault : Fault)
  | clear (path : Path) (fault : Fault)
deriving DecidableEq, Repr

namespace PassError

def message : PassError → Text
  | .tree error => error.message
  | .placeTaken place first second =>
      "Routes '" ++ first ++ "' and '" ++ second ++ "' both generate " ++ place
  | .unsafeOutput output guarded =>
      "Refusing to use output directory " ++ output.text ++ ": clearing it would delete "
        ++ guarded.text
  | .write path fault => "Failed to write " ++ path.text ++ ": " ++ fault.message
  | .clear path fault =>
      "Failed to clear output directory " ++ path.text ++ ": " ++ fault.message

end PassError

namespace Pass

structure Summary where
  routes : Nat
  files : Nat
deriving DecidableEq, Repr

abbrev OutputFile := Path × Text

/-! ## Making the texts -/

/-- The declaration files of routes, in order.  `owners` tells which route has which place already. -/
def routeFiles (target : Target) (snapshot : Snapshot) :
    List (Text × Text) → List Route → Except PassError (List OutputFile)
  | _, [] => .ok []
  | owners, route :: rest =>
      let place := Placement.path snapshot.appDirectory route.id
      match owners.lookup place with
      | some first => .error (.placeTaken place first route.id)
      | none =>
          match Declaration.routeFile target.frameworkModule snapshot route with
          | .error error => .error (.tree error)
          | .ok text => do
              let files ← routeFiles target snapshot ((place, route.id) :: owners) rest
              return (target.output.join ⟨place⟩, text) :: files

/-- The files that belong to no single route. -/
def sharedFiles (target : Target) (snapshot : Snapshot) : Except PassError (List OutputFile) :=
  match Declaration.register target.frameworkModule snapshot with
  | .error error => .error (.tree error)
  | .ok register =>
      .ok [(target.output.join ⟨Declaration.registerName⟩, register),
        (target.output.join ⟨Declaration.serverBuildName⟩,
          Declaration.serverBuild target.frameworkModule)]

/-- Everything that a pass writes, in the order of writing. -/
def outputFiles (target : Target) (snapshot : Snapshot) : Except PassError (List OutputFile) := do
  let own ← routeFiles target snapshot [] snapshot.routes
  let shared ← sharedFiles target snapshot
  return own ++ shared

/-- The files of a pass whose output directory is safe to clear. -/
def plan (working : Location) (target : Target) (snapshot : Snapshot) :
    Except PassError (List OutputFile) :=
  match target.firstCovered? working with
  | some path => .error (.unsafeOutput target.output path)
  | none => outputFiles target snapshot

/-! ## Replacing the output directory -/

variable {m : Type → Type} [Monad m] [FileSystem m]

/-- Remove the output directory.  One that is missing is fine. -/
def clear (output : Path) : m (Except PassError Unit) := do
  match ← FileSystem.removeTree output with
  | .ok () => return .ok ()
  | .error .notFound => return .ok ()
  | .error fault => return .error (.clear output fault)

/-- Write files in order, up to the first fault. -/
def writeFiles : List OutputFile → m (Except PassError Unit)
  | [] => return .ok ()
  | (path, text) :: rest => do
      match ← FileSystem.writeFile path text with
      | .error fault => return .error (.write path fault)
      | .ok () => writeFiles rest

/-- Replace the output directory by the output of a snapshot. -/
def run (target : Target) (snapshot : Snapshot) : m (Except PassError Summary) := do
  match plan (← FileSystem.workingDirectory) target snapshot with
  | .error error => return .error error
  | .ok files =>
      match ← clear target.output with
      | .error error => return .error error
      | .ok () =>
          match ← writeFiles files with
          | .error error => return .error error
          | .ok () => return .ok ⟨snapshot.routes.length, files.length⟩

end Pass
end TypedRoutes
