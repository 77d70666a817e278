import TypedRoutes.Proofs.Disk.Directories
import TypedRoutes.Proofs.Disk.Trail

namespace TypedRoutes

/-!
# Opening a location

Making the directories of a direct path adds those that are missing above its location, from the top
down, and none of those that the path only comes by.  So what it does to a disk depends on the
location and not on the path.
-/

namespace Disk

open FileSystem
open TypedRoutes.Path (names trail)

/-- Making the directories that are missing above a location, and its own, from the top down. -/
inductive Opens : Location → Disk → Disk → Prop where
  | standing {location : Location} {disk : Disk}
      (directory : disk.entryAt? location = some .directory) : Opens location disk disk
  | made {parent location : Location} {name : Text} {disk middle : Disk}
      (shape : location = parent ++ [name]) (missing : disk.entryAt? location = none)
      (above : Opens parent disk middle) :
      Opens location disk (middle.put location .emptyDirectory)

namespace Opens

variable {location place : Location} {disk after other : Disk}

theorem working (opens : Opens location disk after) : after.working = disk.working := by
  induction opens with
  | standing _ => rfl
  | made _ _ _ ih => exact ih

/-- What lies above an opened location is a directory, and the rest is as it was. -/
theorem entryAt? (opens : Opens location disk after) (place : Location) :
    after.entryAt? place = if place <+: location then some .directory else disk.entryAt? place := by
  induction opens generalizing place with
  | standing directory =>
      split
      case isTrue above => exact directory_above above directory
      case isFalse => rfl
  | @made parent location name disk middle shape missing above ih =>
      subst shape
      have here : ¬ parent ++ [name] <+: parent := not_prefix_above (List.cons_ne_nil name [])
      have parentDirectory : middle.entryAt? parent = some .directory := by
        rw [ih, if_pos List.prefix_rfl]
      have notYet : middle.entryAt? (parent ++ [name]) ≠ some .directory := by
        rw [ih, if_neg here, missing]
        simp
      rw [entryAt?_put_leaf (hasParent_append_name parentDirectory) notYet
        entryAt?_emptyDirectory_below, ih]
      by_cases same : place = parent ++ [name]
      · rw [if_pos same, if_pos (same ▸ List.prefix_rfl)]
        rfl
      · simp only [same, if_false, List.prefix_concat_iff, false_or]

/-- The directories after opening a location: those above it, and those from before. -/
theorem directory_iff (opens : Opens location disk after) :
    after.entryAt? place = some .directory ↔
      place <+: location ∨ disk.entryAt? place = some .directory := by
  rw [opens.entryAt?]
  split
  case isTrue above => simp [above]
  case isFalse apart => simp [apart]

theorem eq_of_directory (opens : Opens location disk after)
    (directory : disk.entryAt? location = some .directory) : after = disk := by
  cases opens with
  | standing _ => rfl
  | made _ missing _ =>
      rw [missing] at directory
      cases directory

/-- A location below the opened one is open as well, if it was a directory or is the same. -/
theorem of_passed (opens : Opens location disk after) (towards : location <+: place)
    (passed : place <+: location ∨ disk.entryAt? place = some .directory) :
    Opens place disk after := by
  rcases passed with above | directory
  · rwa [above.eq_of_length (Nat.le_antisymm above.length_le towards.length_le)]
  · rw [opens.eq_of_directory (directory_above towards directory)]
    exact .standing directory

/-- There is one way to open a location. -/
theorem unique (opens : Opens location disk after) (opensAgain : Opens location disk other) :
    after = other := by
  induction opens generalizing other with
  | standing directory => exact (opensAgain.eq_of_directory directory).symm
  | made shape missing above ih =>
      cases opensAgain with
      | standing directory =>
          rw [missing] at directory
          cases directory
      | made shapeAgain _ aboveAgain =>
          have sameParent := (List.append_inj' (shape.symm.trans shapeAgain) rfl).1
          rw [← sameParent] at aboveAgain
          rw [ih aboveAgain]

end Opens

/-! ## Making the directories along a trail -/

section Along

variable {disk middle : Disk} {path : Path} {goal opened : Location} {before : List Path.Step}
  {step : Path.Step}

/-- The directories along a trail have been made: a location above the goal is open, and every place
of the trail lies above it or was a directory before. -/
structure OpenAlong (goal start : Location) (steps : List Path.Step) (disk after : Disk)
    (opened : Location) : Prop where
  opens : Opens opened disk after
  towards : opened <+: goal
  passed : ∀ place ∈ trail start steps,
    place <+: opened ∨ disk.entryAt? place = some .directory

/-- Where the directories along the trail before the last step have been made, the trail leads to its
end. -/
theorem OpenAlong.locate (along : OpenAlong goal (path.start disk.working) before disk middle opened)
    (shape : path.steps = before ++ [step]) (fits : path.Fits) (nonempty : path.text ≠ []) :
    middle.locate path
      = .ok (step.apply (before.foldl Path.Step.apply (path.start disk.working))) := by
  have start : path.start middle.working = path.start disk.working := by rw [along.opens.working]
  rw [locate_of_fits fits nonempty, start, shape]
  exact walk_concat_of_trail (shape ▸ fits.names_short) fun place member =>
    along.opens.directory_iff.2 (along.passed place member)

/-- The next directory on a trail: it is there, or it is the next one to open above the goal. -/
theorem OpenAlong.exists_provided
    (along : OpenAlong goal (path.start disk.working) before disk middle opened)
    (free : ∀ place text, place <+: goal → disk.entryAt? place ≠ some (.file text))
    (last : step.apply (before.foldl Path.Step.apply (path.start disk.working)) <+: goal ∨
      disk.entryAt? (step.apply (before.foldl Path.Step.apply (path.start disk.working)))
        = some .directory)
    (shape : path.steps = before ++ [step]) (fits : path.Fits) (nonempty : path.text ≠ []) :
    ∃ openedNext after, Provided path middle after ∧
      OpenAlong goal (path.start disk.working) (before ++ [step]) disk after openedNext := by
  have located := along.locate shape fits nonempty
  have standsIn := Path.foldl_mem_trail (path.start disk.working) before
  have nextTrail := Path.trail_concat (path.start disk.working) before step
  rcases along with ⟨opens, towards, passed⟩
  generalize before.foldl Path.Step.apply (path.start disk.working) = stand
    at last located standsIn nextTrail
  by_cases there : middle.entryAt? (step.apply stand) = some .directory
  · refine ⟨opened, middle, .inr ⟨rfl, _, located, there⟩, opens, towards, ?_⟩
    intro place member
    rw [nextTrail] at member
    rcases List.mem_append.1 member with earlier | isLast
    · exact passed place earlier
    · rw [List.mem_singleton.1 isLast]
      exact opens.directory_iff.1 there
  · have notOpened : ¬ step.apply stand <+: opened :=
      fun above => there (opens.directory_iff.2 (.inl above))
    have same : middle.entryAt? (step.apply stand) = disk.entryAt? (step.apply stand) := by
      rw [opens.entryAt?, if_neg notOpened]
    rw [same] at there
    have inGoal : step.apply stand <+: goal := last.resolve_right there
    have missing : disk.entryAt? (step.apply stand) = none := by
      cases shown : disk.entryAt? (step.apply stand) with
      | none => rfl
      | some entry =>
          cases entry with
          | file text => exact absurd shown (free _ text inGoal)
          | directory => exact absurd shown there
    -- Only a name leads from a directory to nothing.
    obtain ⟨part, rfl⟩ : ∃ part, step = .name part := by
      have standing := opens.directory_iff.2 (passed stand standsIn)
      rw [← same] at there
      cases step with
      | name part => exact ⟨part, rfl⟩
      | here => exact absurd standing there
      | up => exact absurd (directory_above (List.dropLast_prefix _) standing) there
    have leads : opened <+: stand ++ [part] :=
      (List.prefix_or_prefix_of_prefix towards inGoal).resolve_right notOpened
    have above : opened <+: stand := by
      rcases List.prefix_concat_iff.1 leads with whole | above
      · exact absurd (whole ▸ List.prefix_rfl) notOpened
      · exact above
    refine ⟨stand ++ [part], _, .inl (makeDirectory_of_none shape located (same.trans missing)),
      .made rfl missing (opens.of_passed above (passed stand standsIn)), inGoal, ?_⟩
    intro place member
    rw [nextTrail] at member
    rcases List.mem_append.1 member with earlier | isLast
    · exact (passed place earlier).imp_left fun above => above.trans leads
    · rw [List.mem_singleton.1 isLast]
      exact .inl List.prefix_rfl

/-- Where the trail comes by no file, a walk fails for want of a directory only. -/
theorem walk_eq_notFound {start : Location} {steps : List Path.Step}
    (short : ∀ name ∈ names steps, Text.utf8Length name ≤ nameLimit)
    (free : ∀ place ∈ trail start steps, ∀ text, disk.entryAt? place ≠ some (.file text))
    (fails : ∀ reached, disk.walk start steps ≠ .ok reached) :
    disk.walk start steps = .error .notFound := by
  cases walked : disk.walk start steps with
  | ok reached => exact absurd walked (fails reached)
  | error fault =>
      rcases exists_stop_of_walk short walked with ⟨stop, passed, -, cause⟩
      rcases cause with ⟨rfl, -⟩ | ⟨-, text, file⟩
      · rfl
      · exact absurd file (free stop passed text)

/-- A path comes to nothing that no file is in the way of but not all of whose trail is there. -/
theorem locate_eq_notFound
    (free : ∀ place text, place <+: goal → disk.entryAt? place ≠ some (.file text))
    (way : ∀ place ∈ trail (path.start disk.working) (before ++ [step]),
      place <+: goal ∨ disk.entryAt? place = some .directory)
    (missing : ¬ ∀ place ∈ trail (path.start disk.working) before,
      disk.entryAt? place = some .directory)
    (shape : path.steps = before ++ [step]) (fits : path.Fits) (nonempty : path.text ≠ []) :
    disk.locate path = .error .notFound := by
  rw [locate_of_fits fits nonempty]
  apply walk_eq_notFound fits.names_short
  · intro place member text file
    rw [shape] at member
    rcases way place member with above | directory
    · exact free place text above file
    · rw [directory] at file
      cases file
  · intro reached walked
    rw [shape] at walked
    exact missing (directories_of_walk_concat walked)

end Along

section Beginnings

variable {disk : Disk} {goal start : Location} {absolute : Bool} {pieces : List Text}

theorem exists_step_of_not_blank {piece : Text} {before : List Text}
    (notBlank : Path.isBlank absolute before piece = false) :
    ∃ step, Path.Step.ofPiece? piece = some step := by
  have nonempty : piece ≠ [] := by
    rintro rfl
    simp [Path.isBlank] at notBlank
  unfold Path.Step.ofPiece?
  rw [if_neg nonempty]
  split
  · exact ⟨_, rfl⟩
  · split <;> exact ⟨_, rfl⟩

/-- A piece that adds nothing leads to no new place. -/
theorem mem_trail_of_blank {piece : Text} {before : List Text} {place : Location}
    (blank : Path.isBlank absolute before piece = true)
    (passed : place ∈ trail start (Path.stepsOf (piece :: before))) :
    place ∈ trail start (Path.stepsOf before) := by
  have noName : piece = [] ∨ piece = ['.'] := by
    simp only [Path.isBlank, Bool.or_eq_true, Bool.and_eq_true, decide_eq_true_eq] at blank
    exact blank.imp_right And.left
  rw [Path.stepsOf_cons] at passed
  rcases noName with rfl | rfl
  · simpa [Path.Step.ofPiece?] using passed
  · rw [show (Path.Step.ofPiece? ['.']).toList = [.here] from rfl, Path.trail_concat] at passed
    rcases List.mem_append.1 passed with earlier | last
    · exact earlier
    · rw [List.mem_singleton.1 last]
      exact Path.foldl_mem_trail start _

theorem mem_trail_cons {piece : Text} {before : List Text} {place : Location}
    (passed : place ∈ trail start (Path.stepsOf before)) :
    place ∈ trail start (Path.stepsOf (piece :: before)) := by
  rw [Path.stepsOf_cons]
  cases Path.Step.ofPiece? piece with
  | none => rwa [Option.toList_none, List.append_nil]
  | some step =>
      rw [Option.toList_some, Path.trail_concat]
      exact List.mem_append_left _ passed

/-- Making the directories along pieces opens a location above the goal, which has every place that
the pieces lead by above it or finds a directory there. -/
theorem exists_opens_of_beginnings (isBody : Path.IsBody absolute pieces.reverse)
    (fits : pieces ≠ [] → (Path.ofReversed absolute pieces).Fits)
    (standing : disk.entryAt? (if absolute then [] else disk.working) = some .directory)
    (free : ∀ place text, place <+: goal → disk.entryAt? place ≠ some (.file text))
    (way : ∀ place ∈ trail (if absolute then [] else disk.working) (Path.stepsOf pieces),
      place <+: goal ∨ disk.entryAt? place = some .directory) :
    ∃ opened after, makeDirectories (m := StateM Disk)
        ((Path.beginnings absolute pieces).map (Path.ofReversed absolute)) disk = (.ok (), after) ∧
      OpenAlong goal (if absolute then [] else disk.working) (Path.stepsOf pieces) disk after
        opened := by
  -- A trail of directories asks for nothing to be opened.
  have ofDirectories : ∀ start steps,
      (∀ place ∈ trail start steps, disk.entryAt? place = some .directory) →
        OpenAlong goal start steps disk disk [] := fun start steps directories =>
    { opens := .standing (directory_above List.nil_prefix standing)
      towards := List.nil_prefix
      passed := fun place member => .inr (directories place member) }
  induction pieces with
  | nil =>
      refine ⟨[], disk, rfl, ofDirectories _ _ fun place passed => ?_⟩
      rw [List.mem_singleton.1 passed]
      exact standing
  | cons piece before ih =>
      have fitsAll := fits (List.cons_ne_nil piece before)
      obtain ⟨opened, middle, madeAbove, along⟩ := ih isBody.init
        (fun nonempty => Path.fits_init nonempty isBody fitsAll)
        (fun place member => way place (mem_trail_cons member))
      rw [Path.beginnings]
      split
      case isTrue blank =>
        exact ⟨opened, middle, madeAbove, along.opens, along.towards,
          fun place member => along.passed place (mem_trail_of_blank blank member)⟩
      case isFalse notBlank =>
        rw [Bool.not_eq_true] at notBlank
        have nonempty := Path.text_ofReversed_ne_nil notBlank
        obtain ⟨step, isStep⟩ := exists_step_of_not_blank notBlank
        have shape : Path.stepsOf (piece :: before) = Path.stepsOf before ++ [step] := by
          rw [Path.stepsOf_cons, isStep]
          rfl
        have steps := isBody.steps_ofReversed (List.cons_ne_nil piece before)
        have isStart := isBody.start_ofReversed disk.working
        rw [shape] at steps way ⊢
        rw [← isStart] at way along ⊢
        have last := way _ (Path.foldl_mem_trail _ _)
        rw [List.foldl_append, List.foldl_cons, List.foldl_nil] at last
        rw [List.map_cons]
        by_cases directories : ∀ place ∈
            trail ((Path.ofReversed absolute (piece :: before)).start disk.working)
              (Path.stepsOf before), disk.entryAt? place = some .directory
        · rcases (ofDirectories _ _ directories).exists_provided free last steps fitsAll nonempty with
            ⟨openedNext, after, provided, alongNext⟩
          exact ⟨openedNext, after, makeDirectories_cons_eq_ok_iff.2 (.inl provided), alongNext⟩
        · have missing := locate_eq_notFound free way directories steps fitsAll nonempty
          rcases along.exists_provided free last steps fitsAll nonempty with
            ⟨openedNext, after, provided, alongNext⟩
          exact ⟨openedNext, after, makeDirectories_cons_eq_ok_iff.2
            (.inr ⟨missing, middle, madeAbove, provided⟩), alongNext⟩

/-- Making the directories along a direct path opens its location, if no file is in the way. -/
theorem exists_opens_of_direct {path : Path} (direct : path.Direct disk) (fits : path.Fits)
    (free : ∀ place text, place <+: path.location disk.working →
      disk.entryAt? place ≠ some (.file text)) :
    ∃ after, makeDirectories (m := StateM Disk) path.upward disk = (.ok (), after) ∧
      Opens (path.location disk.working) disk after := by
  have isBody : Path.IsBody path.isAbsolute path.body.reverse.reverse := by
    rw [List.reverse_reverse]
    exact Path.isBody_body direct.nonempty
  have way := direct.way
  rw [Path.steps_eq_stepsOf] at way
  rcases exists_opens_of_beginnings isBody (fun _ => (Path.ofReversed_body path).symm ▸ fits)
    direct.start free (fun place passed => (way place passed).imp_right And.left) with
    ⟨opened, after, made, along⟩
  refine ⟨after, made, ?_⟩
  have isLast : path.location disk.working
      ∈ trail (path.start disk.working) (Path.stepsOf path.body.reverse) := by
    rw [← Path.steps_eq_stepsOf]
    exact Path.foldl_mem_trail _ _
  exact along.opens.of_passed along.towards (along.passed _ isLast)

end Beginnings

end Disk
end TypedRoutes
