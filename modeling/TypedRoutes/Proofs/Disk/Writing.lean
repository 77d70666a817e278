import TypedRoutes.Proofs.Disk.Directories

namespace TypedRoutes

/-!
# Writing files

A file is written where a path leads to a name in a directory, or to one that can be made.  Stated
for disks through what they show: writing needs a start, free directories on the way and no directory
in the place of the file, and it leaves the directories, the file, and everything else as it was.
-/

namespace Path

/-- A path whose last piece is the name of an entry, and which never goes up on the way to it. -/
structure NamesEntry (path : Path) (parents : List Text) (name : Text) : Prop where
  shape : path.body.reverse = name :: parents
  isName : IsName name
  straight : .up ∉ stepsOf parents
  nonempty : path.text ≠ []

namespace NamesEntry

variable {path : Path} {parents : List Text} {name : Text}

theorem steps (entry : NamesEntry path parents name) :
    path.steps = stepsOf parents ++ [.name name] := by
  rw [steps_eq_stepsOf, entry.shape, stepsOf_cons, entry.isName.ofPiece?]
  rfl

theorem straight_steps (entry : NamesEntry path parents name) : .up ∉ path.steps := by
  rw [entry.steps]
  simpa using entry.straight

theorem names_steps (entry : NamesEntry path parents name) :
    names path.steps = names (stepsOf parents) ++ [name] := by
  rw [entry.steps, names_append]
  rfl

theorem location (entry : NamesEntry path parents name) (working : Location) :
    path.location working = path.start working ++ names (stepsOf parents) ++ [name] := by
  rw [location_eq_start_append entry.straight_steps, entry.names_steps, List.append_assoc]

theorem isBody (entry : NamesEntry path parents name) :
    IsBody path.isAbsolute (name :: parents).reverse := by
  rw [← entry.shape, List.reverse_reverse]
  exact isBody_body entry.nonempty

theorem ofReversed (entry : NamesEntry path parents name) :
    Path.ofReversed path.isAbsolute (name :: parents) = path := by
  rw [← entry.shape]
  exact ofReversed_body path

theorem above (entry : NamesEntry path parents name) :
    path.above = (beginnings path.isAbsolute parents).map (Path.ofReversed path.isAbsolute) := by
  have notBlank : isBlank path.isAbsolute parents name = false := by
    simp [isBlank, entry.isName.nonempty, entry.isName.ne_here]
  rw [Path.above, upward, entry.shape, beginnings, notBlank]
  rfl

theorem endsInSlash (entry : NamesEntry path parents name) : path.endsInSlash = false := by
  apply endsInSlash_of_body
  rw [← List.head?_reverse, entry.shape]
  intro empty
  exact entry.isName.nonempty (Option.some.inj empty)

theorem fits_parents (entry : NamesEntry path parents name) (fits : path.Fits)
    (nonempty : parents ≠ []) : (Path.ofReversed path.isAbsolute parents).Fits :=
  fits_init nonempty entry.isBody (entry.ofReversed.symm ▸ fits)

end NamesEntry
end Path

namespace Disk

open FileSystem
open TypedRoutes.Path (names)

variable {disk after : Disk} {path : Path} {parents : List Text} {name text : Text}

/-! ## One file -/

/-- What it takes to write a file along a path. -/
structure Writable (disk : Disk) (path : Path) : Prop where
  fits : path.Fits
  start : disk.entryAt? (path.start disk.working) = some .directory
  free : disk.Open (path.start disk.working) (names path.steps).dropLast
  no_directory : disk.entryAt? (path.location disk.working) ≠ some .directory

/-- What writing a file along a path does. -/
structure Written (path : Path) (text : Text) (before after : Disk) : Prop where
  working : after.working = before.working
  file : after.entryAt? (path.location before.working) = some (.file text)
  along : ∀ way, way ≠ [] → way <+: (names path.steps).dropLast →
    after.entryAt? (path.start before.working ++ way) = some .directory
  elsewhere : ∀ place, place ≠ path.location before.working →
    (∀ way, way ≠ [] → way <+: (names path.steps).dropLast →
      place ≠ path.start before.working ++ way) →
    after.entryAt? place = before.entryAt? place

theorem madeAlong_above {middle : Disk} (entry : Path.NamesEntry path parents name)
    (made : makeDirectories (m := StateM Disk) path.above disk = (.ok (), middle)) :
    MadeAlong (path.start disk.working) (names path.steps).dropLast disk middle := by
  rw [entry.above] at made
  rw [entry.names_steps, List.dropLast_concat]
  exact madeAlong_of_makeDirectories entry.isBody.init entry.straight made

theorem write_eq_ok_of_run (run : FileSystem.write (m := StateM Disk) path text disk = (.ok (), after)) :
    disk.write path text = .ok after := by
  rw [write_run] at run
  cases written : disk.write path text with
  | error fault =>
      rw [written] at run
      cases run
  | ok changed =>
      rw [written] at run
      rw [(Prod.mk.inj run).2]

/-- A file that was written was made in its directory. -/
theorem writeFile_eq_ok
    (succeeded : writeFile (m := StateM Disk) path text disk = (.ok (), after)) :
    ∃ middle, makeDirectories (m := StateM Disk) path.above disk = (.ok (), middle) ∧
      middle.write path text = .ok after := by
  rw [writeFile_run] at succeeded
  generalize makeDirectories (m := StateM Disk) path.above disk = result at succeeded ⊢
  rcases result with ⟨answer, middle⟩
  cases answer with
  | error fault => cases succeeded
  | ok _ => exact ⟨middle, rfl, write_eq_ok_of_run succeeded⟩

theorem writeFile_of_write {middle : Disk}
    (made : makeDirectories (m := StateM Disk) path.above disk = (.ok (), middle))
    (written : middle.write path text = .ok after) :
    writeFile (m := StateM Disk) path text disk = (.ok (), after) := by
  rw [writeFile_run, made]
  simp only [write_run, written]
  rfl

theorem location_not_along (entry : Path.NamesEntry path parents name) (working : Location)
    {way : List Text} (isWay : way <+: (names path.steps).dropLast) :
    path.location working ≠ path.start working ++ way := by
  intro same
  rw [entry.location, List.append_assoc] at same
  have bound := isWay.length_le
  rw [entry.names_steps, List.dropLast_concat, ← List.append_cancel_left same] at bound
  simp only [List.length_append, List.length_cons, List.length_nil] at bound
  omega

theorem writable_of_writeFile (entry : Path.NamesEntry path parents name)
    (succeeded : writeFile (m := StateM Disk) path text disk = (.ok (), after)) :
    disk.Writable path := by
  rcases writeFile_eq_ok succeeded with ⟨middle, made, written⟩
  have along := madeAlong_above entry made
  rcases write_eq_ok written with ⟨-, -, -, location, located, noDirectory, -⟩
  have walked := (locate_eq_ok_iff.1 located).2.2.2
  rw [entry.steps] at walked
  rcases walk_concat_name_eq_ok_iff.1 walked with ⟨parent, walkedBefore, parentDirectory, -, -⟩
  have directories : ∀ way, way <+: (names path.steps).dropLast →
      middle.entryAt? (path.start disk.working ++ way) = some .directory := by
    intro way isWay
    rw [entry.names_steps, List.dropLast_concat] at isWay
    rw [← along.working]
    exact directories_of_walk entry.straight walkedBefore parentDirectory isWay
  refine ⟨fits_of_locate located, ?_, fun way file isWay shown => ?_, fun shown => noDirectory ?_⟩
  · have start := directories [] List.nil_prefix
    rw [List.append_nil, along.elsewhere] at start
    · exact start
    · intro way nonempty _ same
      exact nonempty (by simpa using same)
  · have shownStill := along.kept _ _ shown
    rw [directories way isWay] at shownStill
    cases shownStill
  · rw [eq_location_of_locate located, along.working]
    exact along.kept _ _ shown

/-- Writing a file shows the directories above it and the file, and nothing else is new. -/
theorem written_of_writeFile (entry : Path.NamesEntry path parents name)
    (succeeded : writeFile (m := StateM Disk) path text disk = (.ok (), after)) :
    Written path text disk after := by
  rcases writeFile_eq_ok succeeded with ⟨middle, made, written⟩
  have along := madeAlong_above entry made
  have shows := entryAt?_of_write written
  rw [along.working] at shows
  refine ⟨(working_of_write written).trans along.working, ?_, fun way nonempty isWay => ?_,
    fun place notFile outside => ?_⟩
  · rw [shows, if_pos rfl]
  · rw [shows, if_neg (location_not_along entry _ isWay).symm, along.along way nonempty isWay]
  · rw [shows, if_neg notFile, along.elsewhere place outside]

/-- A file can be written where there is nothing in the way. -/
theorem exists_writeFile (entry : Path.NamesEntry path parents name) (writable : disk.Writable path)
    (text : Text) : ∃ after, writeFile (m := StateM Disk) path text disk = (.ok (), after) := by
  have free := writable.free
  rw [entry.names_steps, List.dropLast_concat] at free
  rcases exists_makeDirectories entry.isBody.init entry.straight
    (entry.fits_parents writable.fits) writable.start free with ⟨middle, made⟩
  rw [← entry.above] at made
  have along := madeAlong_above entry made
  have located : middle.locate path = .ok (path.location middle.working) := by
    rw [entry.names_steps, List.dropLast_concat] at along
    rw [entry.location, along.working]
    exact locate_of_madeAlong along writable.start (by rw [along.working]) entry.steps
      entry.straight writable.fits entry.nonempty
  have noDirectory : middle.entryAt? (path.location middle.working) ≠ some .directory := by
    rw [along.working, along.elsewhere]
    · exact writable.no_directory
    · exact fun way _ isWay => location_not_along entry _ isWay
  exact ⟨_, writeFile_of_write made
    (write_of_no_directory text entry.steps entry.endsInSlash located noDirectory)⟩

end Disk
end TypedRoutes
