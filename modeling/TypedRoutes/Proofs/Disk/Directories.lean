import TypedRoutes.Proofs.Disk.Program
import TypedRoutes.Proofs.Disk.Request
import TypedRoutes.Proofs.Disk.Trouble

namespace TypedRoutes

/-!
# Making directories

Making the directories above a path succeeds exactly where no file is in the way and every name and
path fits, and then it adds the directories that were missing and nothing else.  A success on a disk
in trouble is the success that the disk would have had without it.
-/

namespace Disk

open FileSystem
open TypedRoutes.Path (names)

variable {disk : Disk} {path : Path} {location : Location}

theorem makeDirectory_run (path : Path) (disk : Disk) :
    FileSystem.makeDirectory (m := StateM Disk) path disk = disk.attempt (disk.makeDirectory path) :=
  rfl

theorem write_run (path : Path) (text : Text) (disk : Disk) :
    FileSystem.write (m := StateM Disk) path text disk = disk.attempt (disk.write path text) := rfl

/-! ## Settling for a directory that is there -/

/-- Whether a path leads to a directory; asking changes nothing. -/
theorem isDirectory_run (path : Path) (disk : Disk) :
    ∃ answer, isDirectory (m := StateM Disk) path disk = (answer, disk) ∧
      (answer = true ↔ ∃ location, disk.locate path = .ok location ∧
        disk.entryAt? location = some .directory) := by
  rw [FileSystem.isDirectory_run]
  have looked : isDirectory? (m := StateM Disk) path disk =
      ((disk.find path).map (·.2.isDirectory), disk) := rfl
  rw [looked]
  have directories : ∀ location, (∃ entries, disk.find path = .ok (location, .directory entries)) ↔
      disk.locate path = .ok location ∧ disk.entryAt? location = some .directory :=
    fun _ => find_eq_ok_directory_iff
  simp only [← directories]
  cases disk.find path with
  | error fault => exact ⟨false, rfl, by simp⟩
  | ok found =>
      rcases found with ⟨location, node⟩
      cases node with
      | file text => exact ⟨false, rfl, by simp⟩
      | directory entries => exact ⟨true, rfl, by simp⟩

theorem settle_of_directory (located : disk.locate path = .ok location)
    (directory : disk.entryAt? location = some .directory) (fault : Fault) :
    makeDirectories.settle (m := StateM Disk) path fault disk = (.ok (), disk) := by
  rcases isDirectory_run path disk with ⟨answer, run, isTrue⟩
  rw [settle_run, run, isTrue.2 ⟨location, located, directory⟩]
  rfl

theorem settle_eq_ok {fault : Fault} {after : Disk}
    (settled : makeDirectories.settle (m := StateM Disk) path fault disk = (.ok (), after)) :
    after = disk ∧ ∃ location, disk.locate path = .ok location ∧
      disk.entryAt? location = some .directory := by
  rcases isDirectory_run path disk with ⟨answer, run, isTrue⟩
  rw [settle_run, run] at settled
  cases answer with
  | false => cases settled
  | true => exact ⟨(Prod.mk.inj settled).2.symm, isTrue.1 rfl⟩

/-! ## What making directories does -/

/-- One disk has the directories along names from a place, and otherwise shows what another does. -/
structure MadeAlong (start : Location) (parts : List Text) (before after : Disk) : Prop where
  working : after.working = before.working
  along : ∀ way, way ≠ [] → way <+: parts → after.entryAt? (start ++ way) = some .directory
  kept : ∀ place entry, before.entryAt? place = some entry → after.entryAt? place = some entry
  elsewhere : ∀ place, (∀ way, way ≠ [] → way <+: parts → place ≠ start ++ way) →
    after.entryAt? place = before.entryAt? place

namespace MadeAlong

variable {start : Location} {parts more : List Text} {first second third : Disk}

theorem refl (disk : Disk) : MadeAlong start [] disk disk where
  working := rfl
  along _ nonempty isWay := absurd (List.prefix_nil.1 isWay) nonempty
  kept _ _ shown := shown
  elsewhere _ _ := rfl

theorem trans (fewer : parts <+: more) (made : MadeAlong start parts first second)
    (madeMore : MadeAlong start more second third) : MadeAlong start more first third where
  working := madeMore.working.trans made.working
  along := madeMore.along
  kept place entry shown := madeMore.kept place entry (made.kept place entry shown)
  elsewhere place outside := by
    rw [madeMore.elsewhere place outside]
    exact made.elsewhere place fun way nonempty isWay => outside way nonempty (isWay.trans fewer)

end MadeAlong

theorem madeAlong_of_directory (straight : .up ∉ path.steps)
    (located : disk.locate path = .ok location)
    (directory : disk.entryAt? location = some .directory) :
    MadeAlong (path.start disk.working) (names path.steps) disk disk where
  working := rfl
  along _ _ isWay :=
    directories_of_walk straight (locate_eq_ok_iff.1 located).2.2.2 directory isWay
  kept _ _ shown := shown
  elsewhere _ _ := rfl

theorem madeAlong_of_makeDirectory {changed : Disk} (straight : .up ∉ path.steps)
    (made : disk.makeDirectory path = .ok changed) :
    MadeAlong (path.start disk.working) (names path.steps) disk changed := by
  have shows := entryAt?_of_makeDirectory made
  have place := Path.location_eq_start_append straight disk.working
  rcases makeDirectory_eq_ok made with ⟨before, name, shape, location, located, missing, -⟩
  have isLocation := eq_location_of_locate located
  have kept : ∀ place entry, disk.entryAt? place = some entry →
      changed.entryAt? place = some entry := by
    intro place entry shown
    rw [shows, if_neg, shown]
    rintro rfl
    rw [← isLocation, missing] at shown
    cases shown
  refine ⟨working_of_makeDirectory made, fun way _ isWay => ?_, kept, fun other outside => ?_⟩
  · by_cases whole : way = names path.steps
    · rw [shows, if_pos (by rw [place, whole])]
    · have straightBefore : .up ∉ before := fun member => straight (by rw [shape]; simp [member])
      have walked := (locate_eq_ok_iff.1 located).2.2.2
      rw [shape] at walked
      rcases walk_concat_name_eq_ok_iff.1 walked with ⟨parent, walkedBefore, directory, -, -⟩
      refine kept _ _ (directories_of_walk straightBefore walkedBefore directory ?_)
      rw [shape, Path.names_append] at isWay whole
      exact (List.prefix_concat_iff.1 isWay).resolve_left whole
  · have nonempty : names path.steps ≠ [] := by rw [shape, Path.names_append]; simp
    rw [shows, if_neg (place ▸ outside _ nonempty List.prefix_rfl)]

/-! ## Making all directories along a path -/

/-- A directory is there after a request for it: it was made, or it was there before. -/
def Provided (path : Path) (before after : Disk) : Prop :=
  before.makeDirectory path = .ok after ∨
    (after = before ∧ ∃ location, before.locate path = .ok location ∧
      before.entryAt? location = some .directory)

theorem Provided.madeAlong {before after : Disk} (provided : Provided path before after)
    (straight : .up ∉ path.steps) :
    MadeAlong (path.start before.working) (names path.steps) before after := by
  rcases provided with made | ⟨rfl, location, located, directory⟩
  · exact madeAlong_of_makeDirectory straight made
  · exact madeAlong_of_directory straight located directory

theorem Provided.locate_ne {before after : Disk} {fault : Fault}
    (provided : Provided path before after) : before.locate path ≠ .error fault := by
  intro failed
  rcases provided with made | ⟨-, location, located, -⟩
  · rw [makeDirectory_of_locate_error failed] at made
    cases made
  · rw [failed] at located
    cases located

theorem provide_eq_ok_iff {after : Disk} :
    provide path disk = (.ok (), after) ↔ Provided path disk after := by
  unfold provide
  rw [makeDirectory_run]
  cases made : disk.makeDirectory path with
  | ok changed =>
      simp only [attempt, Prod.mk.injEq, true_and, Provided, made, Except.ok.injEq]
      refine ⟨.inl, fun provided => provided.resolve_right ?_⟩
      rintro ⟨-, location, located, directory⟩
      rw [makeDirectory_of_directory located directory] at made
      cases made
  | error fault =>
      simp only [attempt, Provided, made, reduceCtorEq, false_or]
      refine ⟨settle_eq_ok, ?_⟩
      rintro ⟨rfl, location, located, directory⟩
      exact settle_of_directory located directory fault

theorem makeDirectory_eq_notFound (failed : disk.makeDirectory path = .error .notFound) :
    disk.locate path = .error .notFound := by
  cases located : disk.locate path with
  | error fault =>
      rw [makeDirectory_of_locate_error located] at failed
      rw [Except.error.inj failed]
  | ok location =>
      simp only [makeDirectory, located] at failed
      split at failed <;> cases failed

/-- A success comes from the directory itself, or from those above it and then itself. -/
theorem makeDirectories_cons_eq_ok_iff {above : List Path} {after : Disk} :
    makeDirectories (m := StateM Disk) (path :: above) disk = (.ok (), after) ↔
      Provided path disk after ∨
        (disk.locate path = .error .notFound ∧
          ∃ middle, makeDirectories (m := StateM Disk) above disk = (.ok (), middle) ∧
            Provided path middle after) := by
  by_cases missing : disk.locate path = .error .notFound
  · have failed : FileSystem.makeDirectory (m := StateM Disk) path disk = (.error .notFound, disk) := by
      rw [makeDirectory_run, makeDirectory_of_locate_error missing]
      rfl
    rw [makeDirectories_cons_of_notFound failed]
    generalize makeDirectories (m := StateM Disk) above disk = result
    rcases result with ⟨answer, middle⟩
    have notProvided : ¬ Provided path disk after := fun provided => provided.locate_ne missing
    simp only [missing, notProvided, false_or, true_and]
    cases answer with
    | error fault =>
        constructor
        · intro failed
          cases failed
        · rintro ⟨other, failed, -⟩
          cases failed
    | ok _ =>
        rw [provide_eq_ok_iff]
        constructor
        · exact fun provided => ⟨middle, rfl, provided⟩
        · rintro ⟨other, same, provided⟩
          cases same
          exact provided
  · have standing : (FileSystem.makeDirectory (m := StateM Disk) path disk).1 ≠ .error .notFound := by
      rw [makeDirectory_run]
      cases made : disk.makeDirectory path with
      | ok changed => simp [attempt]
      | error fault =>
          simp only [attempt, ne_eq, Except.error.injEq]
          rintro rfl
          exact missing (makeDirectory_eq_notFound made)
    rw [makeDirectories_cons_of_ne_notFound standing, provide_eq_ok_iff]
    simp [missing]

/-- Where making directories succeeds, it adds the missing ones along the path. -/
theorem madeAlong_of_makeDirectories {absolute : Bool} {pieces : List Text} {after : Disk}
    (isBody : Path.IsBody absolute pieces.reverse) (straight : .up ∉ Path.stepsOf pieces)
    (made : makeDirectories (m := StateM Disk)
      ((Path.beginnings absolute pieces).map (Path.ofReversed absolute)) disk = (.ok (), after)) :
    MadeAlong (if absolute then [] else disk.working) (names (Path.stepsOf pieces)) disk after := by
  induction pieces generalizing after with
  | nil =>
      have same : disk = after := (Prod.mk.inj made).2
      exact same ▸ MadeAlong.refl disk
  | cons piece before ih =>
      have inner := fun middle => @ih middle isBody.init (Path.straight_init straight)
      rw [Path.beginnings] at made
      split at made
      · rename_i blank
        rw [Path.names_stepsOf_of_blank blank]
        exact inner after made
      · have steps := isBody.steps_ofReversed (List.cons_ne_nil piece before)
        have fewer := Path.names_stepsOf_init piece before
        rw [← steps] at straight fewer ⊢
        rw [← isBody.start_ofReversed] at inner ⊢
        rcases makeDirectories_cons_eq_ok_iff.1 made with
          provided | ⟨-, middle, madeAbove, provided⟩
        · exact provided.madeAlong straight
        · have madeBefore := inner middle madeAbove
          have last := provided.madeAlong straight
          rw [Path.start, madeBefore.working] at last
          exact madeBefore.trans fewer last

theorem locate_of_fits (fits : path.Fits) (nonempty : path.text ≠ []) :
    disk.locate path = disk.walk (path.start disk.working) path.steps := by
  unfold locate
  rw [if_neg fits.nul_free, if_neg nonempty, if_neg (Nat.not_lt.2 fits.short)]
  rfl

/-- No file stands at a location that names lead to from a place. -/
def Open (disk : Disk) (start : Location) (parts : List Text) : Prop :=
  ∀ way text, way <+: parts → disk.entryAt? (start ++ way) ≠ some (.file text)

theorem MadeAlong.open_of {start : Location} {parts more : List Text} {before after : Disk}
    (made : MadeAlong start parts before after) (free : before.Open start more) :
    after.Open start more := by
  intro way text isWay shown
  by_cases along : way ≠ [] ∧ way <+: parts
  · rw [made.along way along.1 along.2] at shown
    cases shown
  · apply free way text isWay
    rw [← shown, made.elsewhere]
    intro other nonempty isOther same
    exact along (List.append_cancel_left same ▸ ⟨nonempty, isOther⟩)

/-- A directory is provided where its path leads and no file stands. -/
theorem exists_provided_of_locate (straight : .up ∉ path.steps)
    (located : disk.locate path = .ok location)
    (start : disk.entryAt? (path.start disk.working) = some .directory)
    (free : disk.Open (path.start disk.working) (names path.steps)) :
    ∃ after, Provided path disk after := by
  have isLocation := eq_location_of_locate located
  rw [Path.location_eq_start_append straight] at isLocation
  cases shown : disk.entryAt? location with
  | some entry =>
      cases entry with
      | directory => exact ⟨disk, .inr ⟨rfl, location, located, shown⟩⟩
      | file text => exact absurd (isLocation ▸ shown) (free _ text List.prefix_rfl)
  | none =>
      rcases List.eq_nil_or_concat path.steps with none | ⟨before, step, shape⟩
      · rw [isLocation, none, Path.names_nil, List.append_nil, start] at shown
        cases shown
      · rw [List.concat_eq_append] at shape
        cases step with
        | name name => exact ⟨_, .inl (makeDirectory_of_none shape located shown)⟩
        | up => exact absurd (by rw [shape]; simp) straight
        | here =>
            have walked := (locate_eq_ok_iff.1 located).2.2.2
            rw [shape, walk_append_eq_ok_iff] at walked
            rcases walked with ⟨middle, -, last⟩
            rcases walk_cons_eq_ok_iff.1 last with ⟨directory, -, reached⟩
            rw [← Except.ok.inj reached, Path.Step.apply, directory] at shown
            cases shown

theorem locate_of_madeAlong {start : Location} {before : List Path.Step} {name : Text}
    {earlier : Disk} (made : MadeAlong start (names before) earlier disk)
    (directory : earlier.entryAt? start = some .directory) (isStart : path.start disk.working = start)
    (shape : path.steps = before ++ [.name name]) (straight : .up ∉ before)
    (fits : path.Fits) (nonempty : path.text ≠ []) :
    disk.locate path = .ok (start ++ names before ++ [name]) := by
  have short : ∀ other ∈ names before ++ [name], Text.utf8Length other ≤ nameLimit := by
    have namesShort := fits.names_short
    rwa [shape, Path.names_append] at namesShort
  have directories : ∀ way, way <+: names before → disk.entryAt? (start ++ way) = some .directory := by
    intro way isWay
    by_cases here : way = []
    · rw [here, List.append_nil]
      exact made.kept _ _ directory
    · exact made.along way here isWay
  rw [locate_of_fits fits nonempty, isStart, shape]
  refine walk_concat_name_eq_ok_iff.2 ⟨_, ?_, directories _ List.prefix_rfl, short name (by simp), rfl⟩
  exact walk_of_directories straight (fun other member => short other (by simp [member])) directories

/-- Making directories succeeds where the start is one, the names fit and no file is in the way. -/
theorem exists_makeDirectories {absolute : Bool} {pieces : List Text}
    (isBody : Path.IsBody absolute pieces.reverse) (straight : .up ∉ Path.stepsOf pieces)
    (fits : pieces ≠ [] → (Path.ofReversed absolute pieces).Fits)
    (start : disk.entryAt? (if absolute then [] else disk.working) = some .directory)
    (free : disk.Open (if absolute then [] else disk.working) (names (Path.stepsOf pieces))) :
    ∃ after, makeDirectories (m := StateM Disk)
      ((Path.beginnings absolute pieces).map (Path.ofReversed absolute)) disk = (.ok (), after) := by
  induction pieces with
  | nil => exact ⟨disk, rfl⟩
  | cons piece before ih =>
      have fewer := Path.names_stepsOf_init piece before
      have fitsAll := fits (List.cons_ne_nil piece before)
      obtain ⟨middle, madeAbove⟩ := ih isBody.init (Path.straight_init straight)
        (fun nonempty => Path.fits_init nonempty isBody fitsAll)
        (fun way text isWay => free way text (isWay.trans fewer))
      rw [Path.beginnings]
      split
      · exact ⟨middle, madeAbove⟩
      · rename_i notBlank
        rw [Bool.not_eq_true] at notBlank
        have nonempty := Path.text_ofReversed_ne_nil notBlank
        have steps := isBody.steps_ofReversed (List.cons_ne_nil piece before)
        have isStart := isBody.start_ofReversed
        have straightPath : .up ∉ (Path.ofReversed absolute (piece :: before)).steps := steps ▸ straight
        have made := madeAlong_of_makeDirectories isBody.init (Path.straight_init straight) madeAbove
        rw [List.map_cons]
        rw [← steps, ← isStart] at free
        rw [← isStart] at start
        have located := walk_of_no_file straightPath fitsAll.names_short free
        rw [← locate_of_fits fitsAll nonempty] at located
        rcases located with ⟨reached, located⟩ | missing
        · rcases exists_provided_of_locate straightPath located start free with ⟨after, provided⟩
          exact ⟨after, makeDirectories_cons_eq_ok_iff.2 (.inl provided)⟩
        · rw [← isStart] at made
          rcases Path.name_or_here_of_not_blank notBlank straight with shape | ⟨-, -, shape⟩
          · have located := locate_of_madeAlong made start (by rw [Path.start, made.working]; rfl)
              (steps.trans shape) (Path.straight_init straight) fitsAll nonempty
            obtain ⟨after, provided⟩ := exists_provided_of_locate straightPath located
              (by rw [made.working]; exact made.kept _ _ start)
              (by rw [made.working]; exact made.open_of free)
            exact ⟨after, makeDirectories_cons_eq_ok_iff.2 (.inr ⟨missing, middle, madeAbove, provided⟩)⟩
          · rw [locate_of_fits fitsAll nonempty, steps.trans shape,
              walk_cons_of_directory start short_here] at missing
            cases missing

end Disk
end TypedRoutes
