import TypedRoutes.Layer.Source
import TypedRoutes.Proofs.Disk.Directories

namespace TypedRoutes

/-!
# Finding a file that was written

A layer looks for its file by absolute paths, and a write follows the path as it is given.  From the
working directory both lead to one place.  The longer path has to fit, though: a relative path can be
short enough to write to and too long to be found.
-/

theorem Path.endsInSlash_join (base : Path) {rest : Path} (relative : rest.isAbsolute = false)
    (nonempty : rest.text ≠ []) : (base.join rest).endsInSlash = rest.endsInSlash := by
  rcases exists_text_join base with ⟨front, text⟩
  rw [endsInSlash, text rest relative, List.getLast?_append,
    List.getLast?_eq_some_getLast nonempty, Option.some_or, endsInSlash,
    List.getLast?_eq_some_getLast nonempty]

namespace Disk

open TypedRoutes.Path (IsName names)

variable {disk before after changed : Disk} {path : Path} {location reached : Location} {text : Text}

/-- A walk stays possible where no directory goes. -/
theorem walk_of_directories_kept
    (kept : ∀ place, before.entryAt? place = some .directory → after.entryAt? place = some .directory)
    {steps : List Path.Step} (walked : before.walk location steps = .ok reached) :
    after.walk location steps = .ok reached := by
  induction steps generalizing location with
  | nil => exact walked
  | cons step rest ih =>
      rcases walk_cons_eq_ok_iff.1 walked with ⟨directory, short, next⟩
      exact walk_cons_eq_ok_iff.2 ⟨kept location directory, short, ih next⟩

theorem find_of_located (located : disk.locate path = .ok location)
    (file : disk.entryAt? location = some (.file text)) (noSlash : path.endsInSlash = false) :
    disk.find path = .ok (location, .file text) := by
  rcases Option.map_eq_some_iff.1 file with ⟨node, found, isFile⟩
  change disk.at? location = some node at found
  cases node with
  | directory entries => cases isFile
  | file held =>
      cases isFile
      simp [find, located, found, noSlash]

theorem endsInSlash_of_write (written : disk.write path text = .ok changed) :
    path.endsInSlash = false := by
  cases ends : path.endsInSlash with
  | false => rfl
  | true =>
      unfold write at written
      split at written
      · cases written
      · split at written
        · cases written
        · rw [if_pos ends] at written
          cases written
        · cases written

/-- Writing a file blocks no path. -/
theorem locate_of_write {other : Path} (written : disk.write path text = .ok changed)
    (located : disk.locate other = .ok location) : changed.locate other = .ok location := by
  have shows := entryAt?_of_write written
  rcases write_eq_ok written with ⟨-, -, -, reached, isReached, noDirectory, -⟩
  obtain rfl := eq_location_of_locate isReached
  rcases locate_eq_ok_iff.1 located with ⟨nulFree, nonempty, short, walked⟩
  refine locate_eq_ok_iff.2 ⟨nulFree, nonempty, short, ?_⟩
  rw [working_of_write written]
  refine walk_of_directories_kept (fun place directory => ?_) walked
  rw [shows, if_neg, directory]
  rintro rfl
  exact noDirectory directory

/-- A file that was written is where its path leads. -/
theorem written_file (written : disk.write path text = .ok changed) :
    changed.locate path = .ok (path.location disk.working) ∧
      changed.entryAt? (path.location disk.working) = some (.file text) := by
  rcases write_eq_ok written with ⟨-, -, -, location, located, -, -⟩
  rw [eq_location_of_locate located] at located
  exact ⟨locate_of_write written located, by rw [entryAt?_of_write written, if_pos rfl]⟩

/-- The plain path to a directory that is there leads to it. -/
theorem walk_ofLocation {place : Location} (areNames : ∀ name ∈ place, IsName name)
    (short : ∀ name ∈ place, Text.utf8Length name ≤ nameLimit)
    (standing : disk.entryAt? place = some .directory) :
    disk.walk [] (Path.ofLocation place).steps = .ok place := by
  have isNames : names (Path.ofLocation place).steps = place := by
    rw [Path.steps_ofLocation areNames, Path.names_map_name]
  have directories : ∀ way, way <+: place → disk.entryAt? ([] ++ way) = some .directory := by
    rintro way ⟨rest, rfl⟩
    by_cases here : rest = []
    · rwa [here, List.append_nil] at standing
    · exact entryAt?_of_append_ne_none here (standing ▸ Option.some_ne_none _)
  rw [← isNames] at short directories
  have walked := walk_of_directories (Path.straight_ofLocation areNames) short directories
  rwa [isNames] at walked

/-- The absolute path to a place that a relative path leads to from the working directory. -/
theorem locate_from_working (areNames : ∀ name ∈ disk.working, IsName name)
    (relative : path.isAbsolute = false) (hasSteps : path.steps ≠ [])
    (fits : ((Path.ofLocation disk.working).join path).Fits)
    (located : disk.locate path = .ok location) :
    disk.locate ((Path.ofLocation disk.working).join path) = .ok location := by
  have top : (Path.ofLocation disk.working).text ≠ [] := List.cons_ne_nil _ _
  have steps : ((Path.ofLocation disk.working).join path).steps =
      (Path.ofLocation disk.working).steps ++ path.steps := Path.steps_join top relative
  have absolute : ((Path.ofLocation disk.working).join path).isAbsolute = true :=
    Path.isAbsolute_join top relative
  have walked : disk.walk disk.working path.steps = .ok location := by
    have fromStart := (locate_eq_ok_iff.1 located).2.2.2
    rwa [Path.start, relative] at fromStart
  have standing : disk.entryAt? disk.working = some .directory := by
    rcases List.exists_cons_of_ne_nil hasSteps with ⟨step, rest, shape⟩
    rw [shape] at walked
    exact (walk_cons_eq_ok_iff.1 walked).1
  have short : ∀ name ∈ disk.working, Text.utf8Length name ≤ nameLimit := by
    intro name member
    apply fits.names_short
    rw [steps, Path.names_append, Path.steps_ofLocation areNames, Path.names_map_name]
    exact List.mem_append_left _ member
  refine locate_eq_ok_iff.2 ⟨fits.nul_free, Path.text_join_ne_nil top relative, fits.short, ?_⟩
  rw [Path.start, absolute, steps, walk_append_eq_ok_iff]
  exact ⟨disk.working, walk_ofLocation areNames short standing, walked⟩

end Disk

namespace Layer

theorem exists_andAbove (location : Location) : ∃ above, andAbove location = location :: above := by
  induction location with
  | nil => exact ⟨[], rfl⟩
  | cons name rest ih =>
      rcases ih with ⟨above, eq⟩
      exact ⟨above.map (name :: ·) ++ [[]], by rw [andAbove, eq]; rfl⟩

/-- The first place at which a file is looked for. -/
def nearest (working : Location) (path : Path) : Path :=
  if path.isAbsolute then path else (pathOf working).join path

/-- Whether a path can be written out from the top of the file system. -/
def Reachable (working : Location) (path : Path) : Prop :=
  path.isAbsolute ∨
    (∀ name ∈ working, Path.IsName name) ∧ ((Path.ofLocation working).join path).Fits

end Layer
end TypedRoutes
