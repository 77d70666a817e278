import TypedRoutes.Proofs.Disk.Opening
import TypedRoutes.Proofs.Output.Program

namespace TypedRoutes

/-!
# Two paths to one location

Where two direct paths lead to one location that no file stands above, no request behind the one can
be told from the same request behind the other: names behind the paths are found at the same
locations, the same directories are made, and the same files are written.
-/

namespace Disk

open FileSystem
open TypedRoutes.Path (names trail IsName ofNames Direct)

/-! ## Paths that requests cannot tell apart -/

/-- Two paths that lead to the same entry of the same place. -/
structure Twins (first second : Path) (disk : Disk) : Prop where
  locate : disk.locate first = disk.locate second
  last : first.steps.getLast? = second.steps.getLast?
  slash : first.endsInSlash = second.endsInSlash

theorem makeDirectory_ok_or_same (path : Path) (disk : Disk) :
    (FileSystem.makeDirectory (m := StateM Disk) path disk).1 = .ok () ∨
      (FileSystem.makeDirectory (m := StateM Disk) path disk).2 = disk := by
  rw [makeDirectory_run]
  cases disk.makeDirectory path with
  | ok changed => exact .inl rfl
  | error fault => exact .inr rfl

namespace Twins

variable {first second : Path} {disk : Disk}

theorem makeDirectory (twins : Twins first second disk) :
    FileSystem.makeDirectory (m := StateM Disk) first disk
      = FileSystem.makeDirectory (m := StateM Disk) second disk := by
  simp only [makeDirectory_run, Disk.makeDirectory, twins.locate, twins.last]

theorem write (twins : Twins first second disk) (text : Text) :
    FileSystem.write (m := StateM Disk) first text disk
      = FileSystem.write (m := StateM Disk) second text disk := by
  simp only [write_run, Disk.write, twins.locate, twins.last, twins.slash]

theorem find (twins : Twins first second disk) : disk.find first = disk.find second := by
  simp only [Disk.find, twins.locate, twins.slash]

theorem isDirectory? (twins : Twins first second disk) :
    FileSystem.isDirectory? (m := StateM Disk) first disk
      = FileSystem.isDirectory? (m := StateM Disk) second disk := by
  change ((disk.find first).map _, disk) = ((disk.find second).map _, disk)
  rw [twins.find]

theorem provide (twins : Twins first second disk) :
    FileSystem.provide first disk = FileSystem.provide second disk := by
  have settles : ∀ fault, makeDirectories.settle (m := StateM Disk) first fault disk
      = makeDirectories.settle (m := StateM Disk) second fault disk := by
    intro fault
    rw [settle_run, settle_run, FileSystem.isDirectory_run, FileSystem.isDirectory_run,
      twins.isDirectory?]
  have made := makeDirectory_ok_or_same first disk
  unfold FileSystem.provide
  rw [← twins.makeDirectory]
  generalize FileSystem.makeDirectory (m := StateM Disk) first disk = result at made ⊢
  rcases result with ⟨answer, after⟩
  cases answer with
  | ok _ => rfl
  | error fault =>
      rcases made with impossible | same
      · cases impossible
      · subst same
        exact settles fault

/-- Making directories goes alike along two lists, if what was made above makes no difference. -/
theorem makeDirectories_cons {above aboveOther : List Path} (twins : Twins first second disk)
    (sameAbove : makeDirectories (m := StateM Disk) above disk
      = makeDirectories (m := StateM Disk) aboveOther disk)
    (still : Twins first second (makeDirectories (m := StateM Disk) above disk).2) :
    makeDirectories (m := StateM Disk) (first :: above) disk
      = makeDirectories (m := StateM Disk) (second :: aboveOther) disk := by
  by_cases missing : (FileSystem.makeDirectory (m := StateM Disk) first disk).1 = .error .notFound
  · have unchanged : (FileSystem.makeDirectory (m := StateM Disk) first disk).2 = disk := by
      rcases makeDirectory_ok_or_same first disk with succeeded | same
      · rw [succeeded] at missing
        cases missing
      · exact same
    have failed : FileSystem.makeDirectory (m := StateM Disk) first disk = (.error .notFound, disk) :=
      Prod.ext missing unchanged
    rw [makeDirectories_cons_of_notFound failed,
      makeDirectories_cons_of_notFound (twins.makeDirectory.symm.trans failed), ← sameAbove]
    generalize makeDirectories (m := StateM Disk) above disk = result at still ⊢
    rcases result with ⟨answer, middle⟩
    cases answer with
    | error fault => rfl
    | ok _ => exact still.provide
  · rw [makeDirectories_cons_of_ne_notFound missing,
      makeDirectories_cons_of_ne_notFound (twins.makeDirectory ▸ missing), twins.provide]

end Twins

/-! ## Ways without files -/

/-- A direct path to a location that no file stands above or at. -/
structure Approach (path : Path) (disk : Disk) : Prop where
  direct : path.Direct disk
  free : ∀ place text, place <+: path.location disk.working →
    disk.entryAt? place ≠ some (.file text)

/-- Changes that keep directories and put no file above a location. -/
structure Grows (location : Location) (before after : Disk) : Prop where
  working : after.working = before.working
  directories : ∀ place, before.entryAt? place = some .directory →
    after.entryAt? place = some .directory
  above : ∀ place text, place <+: location → after.entryAt? place = some (.file text) →
    before.entryAt? place = some (.file text)

section Grows

variable {location : Location} {path : Path} {disk after : Disk}

theorem grows_of_makeDirectory (made : disk.makeDirectory path = .ok after) :
    Grows location disk after where
  working := working_of_makeDirectory made
  directories place directory := by
    rw [entryAt?_of_makeDirectory made]
    split
    case isTrue => rfl
    case isFalse => exact directory
  above place text _ shown := by
    rw [entryAt?_of_makeDirectory made] at shown
    split at shown
    case isTrue => cases shown
    case isFalse => exact shown

theorem keeps_grows (location : Location) : Keeps (Grows location) where
  refl _ := ⟨rfl, fun _ directory => directory, fun _ _ _ shown => shown⟩
  trans once twice :=
    ⟨twice.working.trans once.working,
      fun place directory => twice.directories place (once.directories place directory),
      fun place text above shown => once.above place text above (twice.above place text above shown)⟩
  looks _ _ := ⟨rfl, fun _ directory => directory, fun _ _ _ shown => shown⟩
  makes path disk := by
    rw [makeDirectory_run]
    cases made : disk.makeDirectory path with
    | error fault => exact ⟨rfl, fun _ directory => directory, fun _ _ _ shown => shown⟩
    | ok changed => exact grows_of_makeDirectory made

theorem grows_of_write {text : Text} (outside : ¬ path.location disk.working <+: location)
    (written : disk.write path text = .ok after) : Grows location disk after where
  working := working_of_write written
  directories place directory := by
    rw [entryAt?_of_write written]
    split
    case isTrue same =>
      rcases write_eq_ok written with ⟨-, -, -, reached, located, noDirectory, -⟩
      rw [eq_location_of_locate located, ← same] at noDirectory
      exact absurd directory noDirectory
    case isFalse => exact directory
  above place other leads shown := by
    rw [entryAt?_of_write written, if_neg] at shown
    · exact shown
    · rintro rfl
      exact outside leads

theorem Approach.of_grows (approach : Approach path disk)
    (grows : Grows (path.location disk.working) disk after) : Approach path after where
  direct :=
    { last := approach.direct.last
      start := by
        rw [grows.working]
        exact grows.directories _ approach.direct.start
      outside := by
        rw [grows.working]
        exact approach.direct.outside
      way := by
        rw [grows.working]
        intro place passed
        exact (approach.direct.way place passed).imp_right fun standing =>
          ⟨grows.directories place standing.1, standing.2⟩ }
  free place text above shown := by
    rw [grows.working] at above
    exact approach.free place text above (grows.above place text above shown)

end Grows

/-! ## Names behind a path -/

namespace Approach

variable {path first second : Path} {disk : Disk} {parts : List Text}

/-- Where the location shows a directory, the path leads there. -/
theorem walk_of_directory (direct : path.Direct disk) (fits : path.Fits)
    (directory : disk.entryAt? (path.location disk.working) = some .directory) :
    disk.walk (path.start disk.working) path.steps = .ok (path.location disk.working) := by
  rcases direct.last with ⟨before, name, shape⟩
  have short := fits.names_short
  have way := direct.way
  rw [shape] at short way ⊢
  rw [walk_concat_of_trail short, Path.location, shape, List.foldl_append]
  · rfl
  · intro place passed
    rw [Path.trail_concat] at way
    rcases way place (List.mem_append_left _ passed) with above | ⟨standing, -⟩
    · exact directory_above above directory
    · exact standing

/-- Where nothing but directories is on the way and the location shows none, no walk goes on. -/
theorem walk_of_no_directory (approach : Approach path disk) (fits : path.Fits)
    (noDirectory : disk.entryAt? (path.location disk.working) ≠ some .directory) :
    disk.walk (path.start disk.working) path.steps = .ok (path.location disk.working) ∧
        disk.entryAt? (path.location disk.working) = none ∨
      disk.walk (path.start disk.working) path.steps = .error .notFound := by
  by_cases reaches : ∃ reached, disk.walk (path.start disk.working) path.steps = .ok reached
  · left
    rcases reaches with ⟨reached, walked⟩
    refine ⟨by rw [walked, eq_foldl_of_walk walked]; rfl, ?_⟩
    cases shown : disk.entryAt? (path.location disk.working) with
    | none => rfl
    | some entry =>
        cases entry with
        | file text => exact absurd shown (approach.free _ text List.prefix_rfl)
        | directory => exact absurd shown noDirectory
  · right
    apply walk_eq_notFound fits.names_short
    · intro place passed text file
      rcases approach.direct.way place passed with above | ⟨directory, -⟩
      · exact approach.free place text above file
      · rw [directory] at file
        cases file
    · intro reached walked
      exact reaches ⟨reached, walked⟩

/-- Where names behind the path lead depends on its location. -/
theorem locate_join (approach : Approach path disk) (nonempty : parts ≠ [])
    (areNames : ∀ part ∈ parts, IsName part) (fits : (path.join (ofNames parts)).Fits)
    (fitsPath : path.Fits) :
    disk.locate (path.join (ofNames parts)) =
      if disk.entryAt? (path.location disk.working) = some .directory then
        disk.walk (path.location disk.working) (parts.map .name)
      else .error .notFound := by
  have relative := Path.isAbsolute_ofNames areNames
  have start : (path.join (ofNames parts)).start disk.working = path.start disk.working := by
    rw [Path.start, Path.start, Path.isAbsolute_join approach.direct.nonempty relative]
  rw [locate_of_fits fits (Path.text_join_ne_nil approach.direct.nonempty relative), start,
    Path.steps_join_ofNames approach.direct.nonempty nonempty areNames, walk_append]
  by_cases directory : disk.entryAt? (path.location disk.working) = some .directory
  · rw [if_pos directory, walk_of_directory approach.direct fitsPath directory]
  · rw [if_neg directory]
    rcases approach.walk_of_no_directory fitsPath directory with ⟨walked, missing⟩ | failed
    · rcases List.exists_cons_of_ne_nil nonempty with ⟨part, rest, rfl⟩
      rw [walked]
      exact walk_cons_of_none missing
    · rw [failed]

/-- Names behind two paths to one location lead to the same entries. -/
theorem twins (approach : Approach first disk) (approachOther : Approach second disk)
    (same : first.location disk.working = second.location disk.working) (nonempty : parts ≠ [])
    (areNames : ∀ part ∈ parts, IsName part) (fits : (first.join (ofNames parts)).Fits)
    (fitsOther : (second.join (ofNames parts)).Fits) :
    Twins (first.join (ofNames parts)) (second.join (ofNames parts)) disk where
  locate := by
    have relative := Path.isAbsolute_ofNames areNames
    rw [approach.locate_join nonempty areNames fits
        (Path.fits_of_join approach.direct.nonempty relative fits),
      approachOther.locate_join nonempty areNames fitsOther
        (Path.fits_of_join approachOther.direct.nonempty relative fitsOther), same]
  last := by
    have ends : (parts.map Path.Step.name).getLast? ≠ none := by simpa using nonempty
    rcases Option.ne_none_iff_exists'.1 ends with ⟨last, isLast⟩
    rw [Path.steps_join_ofNames approach.direct.nonempty nonempty areNames,
      Path.steps_join_ofNames approachOther.direct.nonempty nonempty areNames,
      List.getLast?_append, List.getLast?_append, isLast]
    rfl
  slash := by
    rw [Path.endsInSlash_join_ofNames approach.direct.nonempty nonempty areNames,
      Path.endsInSlash_join_ofNames approachOther.direct.nonempty nonempty areNames]

/-- The directories along two paths to one location, and along names behind them, are made alike. -/
theorem makeDirectories_behind (approach : Approach first disk) (approachOther : Approach second disk)
    (same : first.location disk.working = second.location disk.working)
    (areNames : ∀ part ∈ parts, IsName part) (fits : (first.behind parts).Fits)
    (fitsOther : (second.behind parts).Fits) :
    makeDirectories (m := StateM Disk) (first.behind parts).upward disk
      = makeDirectories (m := StateM Disk) (second.behind parts).upward disk := by
  induction parts using List.reverseRecOn with
  | nil =>
      rcases exists_opens_of_direct approach.direct fits approach.free with ⟨after, made, opens⟩
      rcases exists_opens_of_direct approachOther.direct fitsOther approachOther.free with
        ⟨other, madeOther, opensOther⟩
      rw [← same] at opensOther
      rw [Path.behind, Path.behind, List.foldl_nil, List.foldl_nil, made, madeOther,
        opens.unique opensOther]
  | append_singleton parts part ih =>
      have areNamesBefore : ∀ other ∈ parts, IsName other :=
        fun other member => areNames other (List.mem_append_left _ member)
      have isName : IsName part := areNames part (by simp)
      have relative : (ofNames [part]).isAbsolute = false :=
        Path.isAbsolute_ofNames (by simpa using isName)
      have nonempty := Path.text_behind_ne_nil approach.direct.nonempty areNamesBefore
      have nonemptyOther := Path.text_behind_ne_nil approachOther.direct.nonempty areNamesBefore
      have fitsBefore : (first.behind parts).Fits := by
        rw [Path.behind_concat] at fits
        exact Path.fits_of_join nonempty relative fits
      have fitsBeforeOther : (second.behind parts).Fits := by
        rw [Path.behind_concat] at fitsOther
        exact Path.fits_of_join nonemptyOther relative fitsOther
      have alike : ∀ other, Approach first other → Approach second other →
          other.working = disk.working →
          Twins (first.behind (parts ++ [part])) (second.behind (parts ++ [part])) other := by
        intro other here there working
        rw [← Path.join_ofNames_eq_behind approach.direct.nonempty (by simp) areNames] at fits ⊢
        rw [← Path.join_ofNames_eq_behind approachOther.direct.nonempty (by simp) areNames]
          at fitsOther ⊢
        exact here.twins there (by rw [working, same]) (by simp) areNames fits fitsOther
      have grown := (keeps_grows (first.location disk.working)).makeDirectories
        (first.behind parts).upward disk
      have twins := alike disk approach approachOther rfl
      have still := alike _ (approach.of_grows grown) (approachOther.of_grows (same ▸ grown))
        grown.working
      rw [Path.behind_concat, Path.behind_concat] at twins still ⊢
      rw [Path.upward_join_name nonempty isName, Path.upward_join_name nonemptyOther isName]
      exact twins.makeDirectories_cons (ih areNamesBefore fitsBefore fitsBeforeOther) still

/-- The directories above names behind two paths to one location are made alike. -/
theorem makeDirectories_above_join (approach : Approach first disk)
    (approachOther : Approach second disk)
    (same : first.location disk.working = second.location disk.working) (nonempty : parts ≠ [])
    (areNames : ∀ part ∈ parts, IsName part) (fits : (first.join (ofNames parts)).Fits)
    (fitsOther : (second.join (ofNames parts)).Fits) :
    makeDirectories (m := StateM Disk) (first.join (ofNames parts)).above disk
      = makeDirectories (m := StateM Disk) (second.join (ofNames parts)).above disk := by
  rcases (List.eq_nil_or_concat parts).resolve_left nonempty with ⟨front, name, rfl⟩
  rw [List.concat_eq_append] at areNames nonempty fits fitsOther ⊢
  have areNamesBefore : ∀ other ∈ front, IsName other :=
    fun other member => areNames other (List.mem_append_left _ member)
  have isName : IsName name := areNames name (by simp)
  have relative : (ofNames [name]).isAbsolute = false :=
    Path.isAbsolute_ofNames (by simpa using isName)
  have front_ne := Path.text_behind_ne_nil approach.direct.nonempty areNamesBefore
  have front_ne_other := Path.text_behind_ne_nil approachOther.direct.nonempty areNamesBefore
  rw [Path.join_ofNames_eq_behind approach.direct.nonempty nonempty areNames,
    Path.behind_concat] at fits ⊢
  rw [Path.join_ofNames_eq_behind approachOther.direct.nonempty nonempty areNames,
    Path.behind_concat] at fitsOther ⊢
  rw [Path.above_join_name front_ne isName, Path.above_join_name front_ne_other isName]
  exact approach.makeDirectories_behind approachOther same areNamesBefore
    (Path.fits_of_join front_ne relative fits) (Path.fits_of_join front_ne_other relative fitsOther)

/-- Files at names behind two paths to one location are written alike. -/
theorem writeFile_join (approach : Approach first disk) (approachOther : Approach second disk)
    (same : first.location disk.working = second.location disk.working) (nonempty : parts ≠ [])
    (areNames : ∀ part ∈ parts, IsName part) (fits : (first.join (ofNames parts)).Fits)
    (fitsOther : (second.join (ofNames parts)).Fits) (text : Text) :
    writeFile (m := StateM Disk) (first.join (ofNames parts)) text disk
      = writeFile (m := StateM Disk) (second.join (ofNames parts)) text disk := by
  have grown := (keeps_grows (first.location disk.working)).makeDirectories
    (first.join (ofNames parts)).above disk
  have here := approach.of_grows grown
  have there := approachOther.of_grows (same ▸ grown)
  have twins := here.twins there (by rw [grown.working, same]) nonempty areNames fits fitsOther
  rw [writeFile_run, writeFile_run,
    ← approach.makeDirectories_above_join approachOther same nonempty areNames fits fitsOther]
  generalize makeDirectories (m := StateM Disk) (first.join (ofNames parts)).above disk = result
    at twins ⊢
  rcases result with ⟨answer, middle⟩
  cases answer with
  | error fault => rfl
  | ok _ => exact twins.write text

/-- Writing behind a path puts no file in its way. -/
theorem grows_of_writeFile (path : Path) (disk : Disk) (nonempty : parts ≠ [])
    (areNames : ∀ part ∈ parts, IsName part) (text : Text) :
    Grows (path.location disk.working) disk
      (writeFile (m := StateM Disk) (path.join (ofNames parts)) text disk).2 := by
  have keeps := keeps_grows (path.location disk.working)
  have grown := keeps.makeDirectories (path.join (ofNames parts)).above disk
  rw [writeFile_run]
  generalize makeDirectories (m := StateM Disk) (path.join (ofNames parts)).above disk = result
    at grown ⊢
  rcases result with ⟨answer, middle⟩
  cases answer with
  | error fault => exact grown
  | ok _ =>
      refine keeps.trans grown ?_
      simp only [write_run]
      cases written : middle.write (path.join (ofNames parts)) text with
      | error fault => exact keeps.refl middle
      | ok after =>
          refine grows_of_write ?_ written
          rw [grown.working, Path.location_join_ofNames _ nonempty areNames]
          exact not_prefix_above nonempty

end Approach
end Disk
end TypedRoutes
