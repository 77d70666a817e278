import TypedRoutes.Proofs.Disk.Program
import TypedRoutes.Proofs.Disk.Trouble
import TypedRoutes.Settings.Reading
import TypedRoutes.Source.RouteConfig

namespace TypedRoutes

/-!
# Loading only reads

Settings and route configs are loaded by looking for files and reading them.  Whatever trouble that
meets, the disk stays as it is.
-/

namespace FaultyDisk

open FileSystem

variable {α β : Type}

/-- A program that leaves the disk as it is. -/
def OnlyReads (program : StateM FaultyDisk α) : Prop :=
  ∀ faulty, (program faulty).2.disk = faulty.disk

theorem onlyReads_pure (value : α) : OnlyReads (pure value) := fun _ => rfl

theorem OnlyReads.bind {program : StateM FaultyDisk α} {next : α → StateM FaultyDisk β}
    (first : OnlyReads program) (follows : ∀ value, OnlyReads (next value)) :
    OnlyReads (program >>= next) := by
  intro faulty
  rw [bind_run, follows, first]

theorem onlyReads_request {action : StateM Disk (Except Fault α)}
    (reads : ∀ disk, (action disk).2 = disk) : OnlyReads (request action fun _ disk => disk) :=
  request_keeps (R := fun before after => after = before) reads fun _ _ => rfl

theorem onlyReads_workingDirectory : OnlyReads (workingDirectory (m := StateM FaultyDisk)) :=
  fun _ => rfl

theorem onlyReads_isDirectory? (path : Path) :
    OnlyReads (isDirectory? (m := StateM FaultyDisk) path) := onlyReads_request fun _ => rfl

theorem onlyReads_read (path : Path) : OnlyReads (read (m := StateM FaultyDisk) path) :=
  onlyReads_request fun _ => rfl

theorem onlyReads_isFile (path : Path) : OnlyReads (isFile (m := StateM FaultyDisk) path) := by
  apply (onlyReads_isDirectory? path).bind
  intro answer
  cases answer with
  | ok _ => exact onlyReads_pure _
  | error _ => exact onlyReads_pure _

end FaultyDisk

namespace Layer

open FaultyDisk

theorem onlyReads_firstFile? (places : List (Location × Path)) :
    OnlyReads (firstFile? (m := StateM FaultyDisk) places) := by
  induction places with
  | nil => exact onlyReads_pure _
  | cons place rest ih =>
      apply (onlyReads_isFile place.2).bind
      intro there
      cases there with
      | true => exact onlyReads_pure _
      | false => exact ih

theorem onlyReads_ofFile (path : Path) : OnlyReads (ofFile (m := StateM FaultyDisk) path) := by
  apply onlyReads_workingDirectory.bind
  intro working
  apply (onlyReads_firstFile? _).bind
  intro found
  cases found with
  | none => exact onlyReads_pure _
  | some place =>
      apply (onlyReads_read place.2).bind
      intro answer
      cases answer with
      | ok _ => exact onlyReads_pure _
      | error _ => exact onlyReads_pure _

end Layer

open FaultyDisk

theorem Settings.onlyReads_loadFrom (environment : List (Text × Text)) (path : Path) :
    OnlyReads (loadFrom (m := StateM FaultyDisk) environment path) := by
  apply (Layer.onlyReads_ofFile path).bind
  intro layer
  cases layer with
  | ok _ => exact onlyReads_pure _
  | error _ => exact onlyReads_pure _

theorem Snapshot.onlyReads_load (path : Path) (mode : Text) :
    OnlyReads (load (m := StateM FaultyDisk) path mode) := by
  apply (onlyReads_isFile path).bind
  intro there
  cases there with
  | false => exact onlyReads_pure _
  | true =>
      apply (Layer.onlyReads_ofFile path).bind
      intro layer
      cases layer with
      | ok _ => exact onlyReads_pure _
      | error _ => exact onlyReads_pure _

end TypedRoutes
