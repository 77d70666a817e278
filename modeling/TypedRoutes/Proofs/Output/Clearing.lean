import TypedRoutes.Proofs.Disk.Writing
import TypedRoutes.Proofs.Disk.Spelling

namespace TypedRoutes

/-!
# Clearing the output directory

An output directory that is accepted for a project with a root has a path that ends in a name, if
the path never goes up and does not end in `.`.  Clearing such a directory removes all of it or, when
a file is in its place or in its way, nothing at all.  What a direct path leads to is cleared the same
way, whatever the path comes by.
-/

/-! ## Accepted output directories -/

namespace Path

/-- A path that leads down to an entry. -/
structure EndsInName (path : Path) : Prop where
  nonempty : path.text ≠ []
  straight : .up ∉ path.steps
  last : ∃ before name, path.steps = before ++ [.name name]

/-- What one path does not cover lies outside of its location. -/
theorem location_of_covers_eq_false {outer inner : Path} {working : Location}
    (apart : covers (outer.resolve? working) (inner.resolve? working) = false) :
    outer.text ≠ [] ∧ (inner.text ≠ [] → ¬ outer.location working <+: inner.location working) := by
  rw [← Bool.not_eq_true, covers_iff, not_or, not_and] at apart
  exact apart

end Path

namespace Target

variable {target : Target} {working : Location}

/-- An accepted output directory covers no path that is kept. -/
theorem outside_of_accepted (accepted : target.firstCovered? working = none) {path : Path}
    (kept : path ∈ target.kept) : target.output.text ≠ [] ∧
      (path.text ≠ [] → ¬ target.output.location working <+: path.location working) := by
  have apart := List.find?_eq_none.1 accepted path kept
  rw [Bool.not_eq_true] at apart
  exact Path.location_of_covers_eq_false apart

theorem output_endsInName (rooted : target.root.text ≠ []) (plain : target.output.IsPlain)
    (accepted : target.firstCovered? working = none) : target.output.EndsInName := by
  have rootKept : target.root ∈ target.kept := List.mem_cons_self
  rcases outside_of_accepted accepted rootKept with ⟨nonempty, apart⟩
  have hasSteps : target.output.steps ≠ [] := by
    intro none
    have absolute : target.output.isAbsolute = true := by
      by_contra relative
      exact Path.steps_ne_nil_of_relative nonempty (by simpa using relative) none
    apply apart rooted
    rw [Path.location, none, Path.start, absolute]
    exact List.nil_prefix
  refine ⟨nonempty, plain.straight, ?_⟩
  rcases (List.eq_nil_or_concat _).resolve_left hasSteps with ⟨before, step, shape⟩
  rw [List.concat_eq_append] at shape
  cases step with
  | name name => exact ⟨before, name, shape⟩
  | here => exact absurd (by rw [shape, List.getLast?_concat]) plain.last_ne_here
  | up => exact absurd (by rw [shape]; simp) plain.straight

end Target

/-! ## Clearing -/

namespace Disk

/-- Nothing is left at a place and below it, and everything else is. -/
structure Cleared (place : Location) (before after : Disk) : Prop where
  working : after.working = before.working
  gone : ∀ below, after.entryAt? (place ++ below) = none
  elsewhere : ∀ other, ¬ place <+: other → after.entryAt? other = before.entryAt? other

variable {disk : Disk} {output : Path}

theorem removeTree_run (path : Path) (disk : Disk) :
    FileSystem.removeTree (m := StateM Disk) path disk = disk.removeTree path := rfl

/-! ## Clearing through a direct path -/

section Direct

variable {path : Path}

theorem location_ne_nil (direct : path.Direct disk) : path.location disk.working ≠ [] :=
  fun top => direct.outside (top ▸ List.nil_prefix)

/-- A directory that a direct path leads to is removed as a whole. -/
theorem clear_of_directory (direct : path.Direct disk) (fits : path.Fits)
    (directory : disk.entryAt? (path.location disk.working) = some .directory) :
    Pass.clear (m := StateM Disk) path disk
      = (.ok (), (disk.put (path.location disk.working) .emptyDirectory).erase
          (path.location disk.working)) := by
  have hasParent : disk.HasParent (path.location disk.working) :=
    hasParent_of_entryAt? (by simp [directory])
  have shows := entryAt?_put hasParent .emptyDirectory
  have stillDirect : path.Direct (disk.put (path.location disk.working) .emptyDirectory) :=
    direct.of_elsewhere rfl fun place apart => by rw [shows, if_neg apart]
  have stillDirectory : (disk.put (path.location disk.working) .emptyDirectory).entryAt?
      (path.location disk.working) = some .directory := by
    rw [shows, if_pos List.prefix_rfl, List.drop_length]
    rfl
  rcases direct.last with ⟨before, name, shape⟩
  have located := Approach.walk_of_directory direct fits directory
  have again := Approach.walk_of_directory stillDirect fits stillDirectory
  rw [← locate_of_fits fits direct.nonempty] at located again
  rw [Pass.clear_run, removeTree_run, removeTree_of_located shape located directory again]

/-- Below a file there is nothing but the file itself where a directory stands above. -/
theorem eq_of_file_above {blocked place : Location} {text : Text} (above : blocked <+: place)
    (file : disk.entryAt? blocked = some (.file text))
    (parent : disk.entryAt? place.dropLast = some .directory) : blocked = place := by
  rcases List.eq_nil_or_concat place with rfl | ⟨before, name, rfl⟩
  · exact List.prefix_nil.1 above
  · rw [List.concat_eq_append] at above parent ⊢
    rw [List.dropLast_concat] at parent
    rcases List.prefix_concat_iff.1 above with same | higher
    · exact same
    · rw [directory_above higher parent] at file
      cases file

/-- A direct path with a file in its place or in its way leads to no directory, and not to nothing. -/
theorem find_of_file (direct : path.Direct disk) (fits : path.Fits) {blocked : Location}
    {text : Text} (above : blocked <+: path.location disk.working)
    (file : disk.entryAt? blocked = some (.file text)) :
    disk.find path = .error .notDirectory ∨
      ∃ reached text, disk.find path = .ok (reached, .file text) := by
  have located : disk.locate path = disk.walk (path.start disk.working) path.steps :=
    locate_of_fits fits direct.nonempty
  cases walked : disk.walk (path.start disk.working) path.steps with
  | error fault =>
      left
      rcases exists_stop_of_walk fits.names_short walked with ⟨stop, passed, reached, cause⟩
      rcases cause with ⟨-, missing⟩ | ⟨rfl, -⟩
      · -- The walk cannot have come to nothing: the file stands before.
        exfalso
        rcases direct.way stop passed with leads | ⟨directory, -⟩
        · rcases List.prefix_or_prefix_of_prefix leads above with ⟨rest, shape⟩ | below
          · rw [← shape, entryAt?_append_of_none missing] at file
            cases file
          · rcases reached with rfl | parent
            · rw [direct.start] at missing
              cases missing
            · rw [eq_of_file_above below file parent, missing] at file
              cases file
        · rw [directory] at missing
          cases missing
      · rw [walked] at located
        simp only [find, located]
  | ok reached =>
      rw [walked] at located
      obtain ⟨before, name, shape⟩ := direct.last
      have parent : disk.entryAt? reached.dropLast = some .directory := by
        rw [shape] at walked
        rcases walk_concat_name_eq_ok_iff.1 walked with ⟨parent, -, directory, -, rfl⟩
        rwa [List.dropLast_concat]
      rw [← eq_location_of_locate located] at above
      rw [eq_of_file_above above file parent] at file
      rcases Option.map_eq_some_iff.1 file with ⟨node, found, entry⟩
      change disk.at? reached = _ at found
      cases node with
      | directory entries => cases entry
      | file other =>
          cases slash : path.endsInSlash with
          | true => exact .inl (by simp [find, located, found, slash])
          | false => exact .inr ⟨reached, other, by simp [find, located, found, slash]⟩

/-- A file in the place of the directory or in the way to it keeps everything as it is. -/
theorem clear_of_file (direct : path.Direct disk) (fits : path.Fits) {blocked : Location}
    {text : Text} (above : blocked <+: path.location disk.working)
    (file : disk.entryAt? blocked = some (.file text)) :
    Pass.clear (m := StateM Disk) path disk = (.error (.clear path .notDirectory), disk) := by
  have refused : disk.removeTree path = (.error .notDirectory, disk) := by
    rcases find_of_file direct fits above file with failed | ⟨reached, other, found⟩
    · simp only [removeTree, failed]
    · simp only [removeTree, found]
  rw [Pass.clear_run, removeTree_run, refused]

/-- Where nothing is in the way, a directory that is not there is cleared already. -/
theorem clear_of_nothing (approach : Approach path disk) (fits : path.Fits)
    (noDirectory : disk.entryAt? (path.location disk.working) ≠ some .directory) :
    Pass.clear (m := StateM Disk) path disk = (.ok (), disk) := by
  have missing : disk.find path = .error .notFound := by
    have located : disk.locate path = disk.walk (path.start disk.working) path.steps :=
      locate_of_fits fits approach.direct.nonempty
    rcases approach.walk_of_no_directory fits noDirectory with ⟨walked, missing⟩ | failed
    · have found : disk.at? (path.location disk.working) = none := Option.map_eq_none_iff.1 missing
      rw [walked] at located
      simp only [find, located, found]
    · rw [failed] at located
      simp only [find, located]
  rw [Pass.clear_run, removeTree_run, removeTree, missing]

/-- With the directory goes everything in it, and nothing else. -/
theorem cleared_erase (direct : path.Direct disk)
    (directory : disk.entryAt? (path.location disk.working) = some .directory) :
    Cleared (path.location disk.working) disk
      ((disk.put (path.location disk.working) .emptyDirectory).erase
        (path.location disk.working)) := by
  have hasParent : disk.HasParent (path.location disk.working) :=
    hasParent_of_entryAt? (by simp [directory])
  have shows := entryAt?_erase_put (location_ne_nil direct) hasParent
  refine ⟨rfl, fun below => ?_, fun other outside => ?_⟩
  · rw [shows, if_pos (List.prefix_append _ _)]
  · rw [shows, if_neg outside]

/-- Once a directory is cleared, no file is in the way to where it was. -/
theorem Approach.of_cleared {cleared : Disk} (approach : Approach path disk)
    (clears : Cleared (path.location disk.working) disk cleared) : Approach path cleared where
  direct := approach.direct.of_elsewhere clears.working clears.elsewhere
  free place text above shown := by
    rw [clears.working] at above
    by_cases here : path.location disk.working <+: place
    · rcases here with ⟨below, rfl⟩
      rw [clears.gone] at shown
      cases shown
    · rw [clears.elsewhere place here] at shown
      exact approach.free place text above shown

/-- Where no file is in the way, a directory is cleared, be it there or not. -/
theorem Approach.exists_clear (approach : Approach path disk) (fits : path.Fits) :
    ∃ cleared, Pass.clear (m := StateM Disk) path disk = (.ok (), cleared) ∧
      Cleared (path.location disk.working) disk cleared := by
  cases shown : disk.entryAt? (path.location disk.working) with
  | none =>
      refine ⟨disk, clear_of_nothing approach fits (by simp [shown]), rfl, ?_, fun _ _ => rfl⟩
      exact entryAt?_append_of_none shown
  | some entry =>
      cases entry with
      | file text => exact absurd shown (approach.free _ text List.prefix_rfl)
      | directory =>
          exact ⟨_, clear_of_directory approach.direct fits shown,
            cleared_erase approach.direct shown⟩

end Direct

/-! ## Clearing through a path that ends in a name -/

/-- A path down to a directory is direct. -/
theorem direct_of_directory (ends : output.EndsInName)
    (directory : disk.entryAt? (output.location disk.working) = some .directory) :
    output.Direct disk := by
  refine .of_straight ends.straight ends.last (directory_above ?_ directory)
  rw [Path.location_eq_start_append ends.straight]
  exact List.prefix_append _ _

/-- The output directory goes as a whole, or not at all. -/
theorem clear_cases (ends : output.EndsInName) (disk : Disk) :
    (∃ cleared, Pass.clear (m := StateM Disk) output disk = (.ok (), cleared) ∧
        Cleared (output.location disk.working) disk cleared) ∨
      ∃ fault, Pass.clear (m := StateM Disk) output disk = (.error (.clear output fault), disk) := by
  by_cases there : ∃ location, disk.locate output = .ok location ∧
      disk.entryAt? location = some .directory
  case pos =>
    left
    rcases there with ⟨location, located, directory⟩
    rw [eq_location_of_locate located] at directory
    have direct := direct_of_directory ends directory
    exact ⟨_, clear_of_directory direct (fits_of_locate located) directory,
      cleared_erase direct directory⟩
  case neg =>
    have noDirectory : ∀ location, disk.locate output = .ok location →
        disk.entryAt? location ≠ some .directory :=
      fun location located directory => there ⟨location, located, directory⟩
    rcases removeTree_of_no_directory ends.straight ends.nonempty noDirectory with
      ⟨fault, run, missing⟩
    rw [Pass.clear_run, removeTree_run, run]
    by_cases notFound : fault = .notFound
    · subst notFound
      left
      exact ⟨disk, rfl, rfl, entryAt?_append_of_none (missing rfl), fun _ _ => rfl⟩
    · right
      refine ⟨fault, ?_⟩
      cases fault with
      | notFound => exact absurd rfl notFound
      | _ => rfl

/-- A directory is cleared where its path fits and nothing but directories lead to it. -/
theorem exists_clear (ends : output.EndsInName) (fits : output.Fits)
    (directories : ∀ way, way <+: output.location disk.working →
      disk.entryAt? way = some .directory) :
    ∃ cleared, Pass.clear (m := StateM Disk) output disk = (.ok (), cleared) ∧
      Cleared (output.location disk.working) disk cleared := by
  have directory := directories _ List.prefix_rfl
  have direct := direct_of_directory ends directory
  exact ⟨_, clear_of_directory direct fits directory, cleared_erase direct directory⟩

end Disk
end TypedRoutes
