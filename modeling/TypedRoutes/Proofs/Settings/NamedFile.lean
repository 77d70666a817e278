import TypedRoutes.Proofs.Layer.Places
import TypedRoutes.Proofs.Settings.Saving

namespace TypedRoutes

/-!
# The file that settings come from

Settings that are loaded from a path depend on one file.  It is the one at the path, if there is one,
and nothing else on the disk has a say.  Where there is none, an absolute path gives the built-in
settings, and a relative one gives those of the nearest directory above that has a file for it.
-/

namespace Layer.Environment

/-- Variables that set nothing make a layer without entries. -/
theorem layer_of_setsNothing {environment : List (Text × Text)}
    (unset : Settings.SetsNothing environment) : layer environment = .table .environment [] := by
  induction environment using List.reverseRecOn with
  | nil => rfl
  | append_singleton given last ih =>
      rcases last with ⟨name, text⟩
      have isLast : (name, text) ∈ given ++ [(name, text)] :=
        List.mem_append_right _ (List.mem_singleton_self _)
      rw [layer_append_singleton, unset name text isLast]
      exact ih fun name text member => unset name text (List.mem_append_left _ member)

end Layer.Environment

namespace Settings

open Layer

variable {environment : List (Text × Text)} {path : Path} {disk : Disk}

/-! ## Loading -/

/-- The settings of the file that was found for a path. -/
def ofFound (environment : List (Text × Text)) (working : Location) (path : Path)
    (found : Option (Location × Text)) : Except ConfigError Settings :=
  (Layer.ofFound working path found).bind fun file => ofLayers file (Environment.layer environment)

/-- Settings are those of the first file at the places of their path. -/
theorem loadFrom_run (environment : List (Text × Text)) (path : Path) (disk : Disk) :
    loadFrom (m := StateM Disk) environment path disk =
      (ofFound environment disk.working path (fileAmong? disk (candidates disk.working path)), disk) := by
  rw [loadFrom, FileSystem.bind_run, ofFile_run, ofFound]
  cases Layer.ofFound disk.working path (fileAmong? disk (candidates disk.working path)) <;> rfl

theorem ofFound_none (unset : SetsNothing environment) (working : Location) (path : Path) :
    ofFound environment working path none = .ok builtIn := by
  change ofLayers (.table (.file path.text) []) (Environment.layer environment) = _
  rw [Environment.layer_of_setsNothing unset]
  rfl

/-- What settings that are loaded from a path depend on. -/
structure DependsOnFile (environment : List (Text × Text)) (path : Path) (disk : Disk) : Prop where
  /-- On another disk the settings are the same if the same file is at the path.  Where the path is
  relative and no file is there, the nearest file above has to be the same too. -/
  same : ∀ other : Disk, disk.working = other.working → disk.fileText? path = other.fileText? path →
    (path.isAbsolute = false → disk.fileText? (nearest disk.working path) = none →
      fileAbove? disk path = fileAbove? other path) →
    (loadFrom (m := StateM Disk) environment path disk).1 =
      (loadFrom (m := StateM Disk) environment path other).1
  /-- Without a file at the path, and above for a relative path, the settings are built-in ones. -/
  missing : SetsNothing environment → disk.fileText? path = none →
    (path.isAbsolute = false → fileAbove? disk path = none) →
    (loadFrom (m := StateM Disk) environment path disk).1 = .ok builtIn
  /-- Where a relative path leads to no file, the nearest file above is loaded in its place. -/
  above : ∀ found, path.isAbsolute = false → disk.fileText? path = none →
    fileAbove? disk path = some found →
    (loadFrom (m := StateM Disk) environment path disk).1 =
      ofFound environment disk.working path (some found)

/-- Settings come from the file at their path and from nowhere else, unless the path is relative and
no file is there. -/
theorem dependsOnFile (environment : List (Text × Text)) (path : Path)
    (areNames : ∀ name ∈ disk.working, Path.IsName name) : DependsOnFile environment path disk where
  same other working same above := by
    have atNearest := fileText?_nearest_congr areNames working same
    have found : fileAmong? disk (candidates disk.working path) =
        fileAmong? other (candidates other.working path) := by
      rw [fileAmong?_candidates, fileAmong?_candidates, ← atNearest, ← working]
      cases there : disk.fileText? (nearest disk.working path) with
      | some text => rfl
      | none =>
          rw [Option.map_none, Option.none_or, Option.none_or]
          cases absolute : path.isAbsolute with
          | true => rw [fileAbove?_of_absolute absolute, fileAbove?_of_absolute absolute]
          | false => exact above absolute there
    rw [loadFrom_run, loadFrom_run, found, working]
  missing unset missing above := by
    have nowhere : fileAmong? disk (candidates disk.working path) = none := by
      rw [fileAmong?_candidates, fileText?_nearest_of_none areNames missing]
      cases absolute : path.isAbsolute with
      | true => exact fileAbove?_of_absolute absolute
      | false => exact above absolute
    rw [loadFrom_run, nowhere]
    exact ofFound_none unset disk.working path
  above found relative missing above := by
    have isAbove : fileAmong? disk (candidates disk.working path) = some found := by
      rw [fileAmong?_candidates, fileText?_nearest_of_none areNames missing]
      exact above
    rw [loadFrom_run, isAbove]

/-- A project with settings of its own does not see those of the directory above it. -/
theorem dependsOnFile_with_own_settings :
    let own : Text × Node := ("p", .directory [("typegen.toml", .file "version = 3\n")])
    let disk : Disk := ⟨.directory [("typegen.toml", .file "version = 2\n"), own], ["p"]⟩
    let other : Disk := ⟨.directory [own], ["p"]⟩
    (loadFrom (m := StateM Disk) [] "./typegen.toml" disk).1 =
        (loadFrom (m := StateM Disk) [] "./typegen.toml" other).1 ∧
      (loadFrom (m := StateM Disk) [] "./typegen.toml" disk).1.toOption = some { version := 3 } := by
  intro own disk other
  have areNames : ∀ name ∈ disk.working, Path.IsName name := by
    intro name member
    rw [List.mem_singleton.1 member]
    decide
  constructor
  · apply (dependsOnFile [] "./typegen.toml" areNames).same other
    · rfl
    · decide +kernel
    · intro _ missing
      have there : disk.fileText? (nearest disk.working "./typegen.toml") = some "version = 3\n" := by
        decide +kernel
      rw [there] at missing
      cases missing
  · decide +kernel

/-- A project without settings has those of the directory above it, although its path names a file of
the project. -/
theorem loadFrom_reads_above :
    let project : Text × Node := ("p", .emptyDirectory)
    let disk : Disk := ⟨.directory [("typegen.toml", .file "version = 2\n"), project], ["p"]⟩
    let other : Disk := ⟨.directory [project], ["p"]⟩
    disk.fileText? "./typegen.toml" = none ∧ other.fileText? "./typegen.toml" = none ∧
      (loadFrom (m := StateM Disk) [] "./typegen.toml" disk).1.toOption = some { version := 2 } ∧
      (loadFrom (m := StateM Disk) [] "./typegen.toml" other).1.toOption = some builtIn := by
  intro project disk other
  refine ⟨?_, ?_, ?_, ?_⟩
  all_goals decide +kernel

end Settings
end TypedRoutes
