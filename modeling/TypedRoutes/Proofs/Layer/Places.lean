import TypedRoutes.Proofs.Layer.Finding

namespace TypedRoutes

/-!
# The file that counts

A layer has the text of one file: the one that its path leads to from the working directory, or for a
relative path that leads to none there, the one that it leads to from the nearest directory above.
Nothing else on a disk makes a difference.  An absolute path has no directories above to be looked for
in, so its own file is all that counts.
-/

/-- What a file system accepts of a longer path it accepts of the path behind its base. -/
theorem Path.fits_of_join_right {base rest : Path} (nonempty : base.text ≠ [])
    (relative : rest.isAbsolute = false) (fits : (base.join rest).Fits) : rest.Fits := by
  rcases exists_text_join base with ⟨front, text⟩
  have joined := text rest relative
  have nulFree := fits.nul_free
  have short := fits.short
  have namesShort := fits.names_short
  rw [joined, List.mem_append, not_or] at nulFree
  rw [joined, Text.utf8Length_append] at short
  rw [steps_join nonempty relative, names_append] at namesShort
  exact ⟨nulFree.2, by omega, fun name member => namesShort name (List.mem_append_right _ member)⟩

theorem Path.endsInSlash_join_empty {base rest : Path} (nonempty : base.text ≠ [])
    (empty : rest.text = []) : (base.join rest).endsInSlash = true := by
  rcases rest with ⟨text⟩
  subst empty
  unfold join
  rw [if_neg (by decide)]
  split
  case isTrue ends => simpa using ends.resolve_left nonempty
  case isFalse => simp [endsInSlash]

namespace Disk

open TypedRoutes.Path (IsName)

variable {disk : Disk} {path : Path} {text : Text}

/-! ## Files along paths -/

/-- The text of the file that a path leads to, if it leads to a file. -/
def fileText? (disk : Disk) (path : Path) : Option Text := (disk.read path).toOption

theorem located_of_find {location : Location} (found : disk.find path = .ok (location, .file text)) :
    disk.locate path = .ok location ∧ disk.entryAt? location = some (.file text) ∧
      path.endsInSlash = false := by
  unfold find at found
  split at found
  · cases found
  case h_2 reached located =>
    split at found
    · cases found
    · cases found
    case h_3 other isFile =>
      split at found
      case isTrue => cases found
      case isFalse noSlash =>
        cases found
        exact ⟨located, congrArg (Option.map Node.entry) isFile, by simpa using noSlash⟩

theorem fileText?_eq_some_iff : disk.fileText? path = some text ↔
    ∃ location, disk.find path = .ok (location, .file text) := by
  unfold fileText? read
  cases disk.find path with
  | error fault => simp [Except.toOption]
  | ok found =>
      rcases found with ⟨location, node⟩
      cases node with
      | file other => simp [Except.toOption]
      | directory entries => simp [Except.toOption]

theorem read_of_fileText? (found : disk.fileText? path = some text) : disk.read path = .ok text := by
  rcases fileText?_eq_some_iff.1 found with ⟨location, isFile⟩
  rw [read, isFile]

theorem fileText?_of_locate {location : Location} (located : disk.locate path = .ok location)
    (shows : disk.entryAt? location = some (.file text)) (noSlash : path.endsInSlash = false) :
    disk.fileText? path = some text :=
  fileText?_eq_some_iff.2 ⟨location, find_of_located located shows noSlash⟩

/-- A file that was written is at its path. -/
theorem fileText?_of_write {changed : Disk} (written : disk.write path text = .ok changed) :
    changed.fileText? path = some text := by
  rcases written_file written with ⟨located, shows⟩
  exact fileText?_of_locate located shows (endsInSlash_of_write written)

/-- Another file keeps its place when one is written. -/
theorem fileText?_of_write_elsewhere {changed : Disk} {other : Path} {more : Text}
    (written : disk.write other more = .ok changed) (found : disk.fileText? path = some text)
    (apart : path.location disk.working ≠ other.location disk.working) :
    changed.fileText? path = some text := by
  rcases fileText?_eq_some_iff.1 found with ⟨location, isFile⟩
  rcases located_of_find isFile with ⟨located, shows, noSlash⟩
  refine fileText?_of_locate (locate_of_write written located) ?_ noSlash
  rw [entryAt?_of_write written, if_neg, shows]
  rw [eq_location_of_locate located]
  exact apart

/-- Where a relative path leads from the working directory, written out from the top. -/
theorem walk_from_working {steps : List Path.Step} {reached : Location}
    (areNames : ∀ name ∈ disk.working, IsName name)
    (walked : disk.walk [] ((Path.ofLocation disk.working).steps ++ steps) = .ok reached) :
    disk.walk disk.working steps = .ok reached := by
  rcases walk_append_eq_ok_iff.1 walked with ⟨middle, toWorking, onward⟩
  have isWorking : middle = disk.working := by
    rw [eq_foldl_of_walk toWorking]
    exact Path.location_ofLocation areNames []
  rwa [isWorking] at onward

/-- A file that is found along the path written out from the top is found along the path. -/
theorem fileText?_of_joined (areNames : ∀ name ∈ disk.working, IsName name)
    (relative : path.isAbsolute = false)
    (found : disk.fileText? ((Path.ofLocation disk.working).join path) = some text) :
    disk.fileText? path = some text := by
  have top : (Path.ofLocation disk.working).text ≠ [] := List.cons_ne_nil _ _
  rcases fileText?_eq_some_iff.1 found with ⟨location, isFile⟩
  rcases located_of_find isFile with ⟨located, shows, noSlash⟩
  have nonempty : path.text ≠ [] := by
    intro empty
    rw [Path.endsInSlash_join_empty top empty] at noSlash
    cases noSlash
  have walked := (locate_eq_ok_iff.1 located).2.2.2
  rw [Path.start, Path.isAbsolute_join top relative, Path.steps_join top relative] at walked
  have fits := Path.fits_of_join_right top relative (fits_of_locate located)
  have locatedHere : disk.locate path = .ok location := by
    rw [locate_of_fits fits nonempty, Path.start, relative]
    exact walk_from_working areNames walked
  rw [Path.endsInSlash_join _ relative nonempty] at noSlash
  exact fileText?_of_locate locatedHere shows noSlash

/-- A file that is found along a path is found along the path written out from the top, if that is
not too long. -/
theorem fileText?_joined (areNames : ∀ name ∈ disk.working, IsName name)
    (relative : path.isAbsolute = false) (found : disk.fileText? path = some text)
    (fits : ((Path.ofLocation disk.working).join path).Fits) :
    disk.fileText? ((Path.ofLocation disk.working).join path) = some text := by
  rcases fileText?_eq_some_iff.1 found with ⟨location, isFile⟩
  rcases located_of_find isFile with ⟨located, shows, noSlash⟩
  have nonempty := (locate_eq_ok_iff.1 located).2.1
  have hasSteps := Path.steps_ne_nil_of_relative nonempty relative
  have locatedThere := locate_from_working areNames relative hasSteps fits located
  rw [← Path.endsInSlash_join (Path.ofLocation disk.working) relative nonempty] at noSlash
  exact fileText?_of_locate locatedThere shows noSlash

/-- Disks that agree on the file along a path agree on it along the path written out from the top. -/
theorem fileText?_joined_congr {first second : Disk} (working : first.working = second.working)
    (areNames : ∀ name ∈ first.working, IsName name) (relative : path.isAbsolute = false)
    (same : first.fileText? path = second.fileText? path) :
    first.fileText? ((Path.ofLocation first.working).join path) =
      second.fileText? ((Path.ofLocation first.working).join path) := by
  -- Whether the longer path fits does not depend on the disk.
  have onward {one other : Disk} (working : one.working = other.working)
      (areNames : ∀ name ∈ one.working, IsName name)
      (same : one.fileText? path = other.fileText? path) {text : Text}
      (found : one.fileText? ((Path.ofLocation one.working).join path) = some text) :
      other.fileText? ((Path.ofLocation one.working).join path) = some text := by
    rcases fileText?_eq_some_iff.1 found with ⟨location, isFile⟩
    have fits := fits_of_locate (located_of_find isFile).1
    have here := fileText?_of_joined areNames relative found
    rw [same] at here
    rw [working] at areNames fits ⊢
    exact fileText?_joined areNames relative here fits
  ext text
  constructor
  · exact onward working areNames same
  · rw [working] at areNames ⊢
    exact onward working.symm areNames same.symm

end Disk

namespace Layer

open FileSystem

variable {disk other : Disk} {path : Path}

/-! ## The places of a path -/

/-- The first file of some places, with the directory that it is looked for from. -/
def fileAmong? (disk : Disk) (places : List (Location × Path)) : Option (Location × Text) :=
  places.findSome? fun place => (disk.fileText? place.2).map (place.1, ·)

/-- The file that a path leads to from the nearest directory above the working directory. -/
def fileAbove? (disk : Disk) (path : Path) : Option (Location × Text) :=
  fileAmong? disk (candidates disk.working path).tail

/-- The layer of the file that was found for a path. -/
def ofFound (working : Location) (path : Path) : Option (Location × Text) → Except ConfigError Value
  | none => .ok (.table (.file path.text) [])
  | some (start, text) => ofText (shown working (piecesFrom start path)) text

theorem isFile_run (path : Path) (disk : Disk) :
    isFile (m := StateM Disk) path disk = ((disk.fileText? path).isSome, disk) := by
  have looked : isDirectory? (m := StateM Disk) path disk =
      ((disk.find path).map (·.2.isDirectory), disk) := rfl
  rw [isFile, bind_run, looked]
  unfold Disk.fileText? Disk.read
  cases disk.find path with
  | error fault => rfl
  | ok found =>
      rcases found with ⟨location, node⟩
      cases node with
      | file text => rfl
      | directory entries => rfl

theorem firstFile?_run (places : List (Location × Path)) (disk : Disk) :
    firstFile? (m := StateM Disk) places disk =
      (places.find? fun place => (disk.fileText? place.2).isSome, disk) := by
  induction places with
  | nil => rfl
  | cons place rest ih =>
      rw [firstFile?, bind_run, isFile_run, List.find?_cons]
      cases (disk.fileText? place.2).isSome with
      | true => rfl
      | false => exact ih

theorem fileAmong?_eq_bind (disk : Disk) (places : List (Location × Path)) :
    fileAmong? disk places = (places.find? fun place => (disk.fileText? place.2).isSome).bind
      fun place => (disk.fileText? place.2).map (place.1, ·) := by
  induction places with
  | nil => rfl
  | cons place rest ih =>
      rw [fileAmong?, List.findSome?_cons, List.find?_cons]
      cases found : disk.fileText? place.2 with
      | none => exact ih
      | some text => simp [found]

/-- A layer is that of the first file at the places of its path. -/
theorem ofFile_run (path : Path) (disk : Disk) : ofFile (m := StateM Disk) path disk =
    (ofFound disk.working path (fileAmong? disk (candidates disk.working path)), disk) := by
  have working : workingDirectory (m := StateM Disk) disk = (disk.working, disk) := rfl
  rw [ofFile, bind_run, working, bind_run, firstFile?_run, fileAmong?_eq_bind]
  cases isFirst : (candidates disk.working path).find? fun place => (disk.fileText? place.2).isSome with
  | none => rfl
  | some place =>
      have there := List.find?_some isFirst
      rcases Option.isSome_iff_exists.1 there with ⟨text, found⟩
      have reads : read (m := StateM Disk) place.2 disk = (.ok text, disk) := by
        change (disk.read _, disk) = _
        rw [Disk.read_of_fileText? found]
      change (read (m := StateM Disk) place.2 >>= _) disk = _
      rw [bind_run, reads, Option.bind_some, found]
      rfl

theorem candidates_eq_cons (working : Location) (path : Path) : candidates working path =
    (path.start working, nearest working path) :: (candidates working path).tail := by
  unfold candidates nearest Path.start
  cases path.isAbsolute with
  | true => rfl
  | false =>
      rcases exists_andAbove working with ⟨above, eq⟩
      rw [eq]
      rfl

/-- The nearest place of a path comes first. -/
theorem fileAmong?_candidates (disk : Disk) (path : Path) :
    fileAmong? disk (candidates disk.working path) =
      ((disk.fileText? (nearest disk.working path)).map (path.start disk.working, ·)).or
        (fileAbove? disk path) := by
  rw [candidates_eq_cons, fileAmong?, List.findSome?_cons, fileAbove?]
  cases disk.fileText? (nearest disk.working path) <;> rfl

/-- An absolute path is looked for in one place. -/
theorem fileAbove?_of_absolute (absolute : path.isAbsolute = true) : fileAbove? disk path = none := by
  rw [fileAbove?, candidates, if_pos absolute]
  rfl

/-! ## The nearest place -/

theorem nearest_of_absolute (absolute : path.isAbsolute = true) (working : Location) :
    nearest working path = path := if_pos absolute

theorem nearest_of_relative (relative : path.isAbsolute = false) (working : Location) :
    nearest working path = (Path.ofLocation working).join path := by
  rw [nearest, relative]
  rfl

/-- Disks that agree on the file at a path agree on the one at its nearest place. -/
theorem fileText?_nearest_congr (areNames : ∀ name ∈ disk.working, Path.IsName name)
    (working : disk.working = other.working) (same : disk.fileText? path = other.fileText? path) :
    disk.fileText? (nearest disk.working path) = other.fileText? (nearest other.working path) := by
  rw [← working]
  cases absolute : path.isAbsolute with
  | true => rwa [nearest_of_absolute absolute]
  | false =>
      rw [nearest_of_relative absolute]
      exact Disk.fileText?_joined_congr working areNames absolute same

/-- Where a path leads to no file, there is none at its nearest place. -/
theorem fileText?_nearest_of_none (areNames : ∀ name ∈ disk.working, Path.IsName name)
    (missing : disk.fileText? path = none) : disk.fileText? (nearest disk.working path) = none := by
  cases absolute : path.isAbsolute with
  | true => rwa [nearest_of_absolute absolute]
  | false =>
      rw [nearest_of_relative absolute]
      apply Option.eq_none_iff_forall_not_mem.2
      intro text found
      rw [Disk.fileText?_of_joined areNames absolute found] at missing
      cases missing

/-- A file that its path leads to is the one of the layer. -/
theorem ofFile_of_fileText? {text : Text} (found : disk.fileText? path = some text)
    (reachable : Reachable disk.working path) :
    ∃ shown, ofFile (m := StateM Disk) path disk = (ofText shown text, disk) := by
  have atNearest : disk.fileText? (nearest disk.working path) = some text := by
    cases absolute : path.isAbsolute with
    | true => rwa [nearest_of_absolute absolute]
    | false =>
        rcases reachable.resolve_left (by simp [absolute]) with ⟨areNames, fits⟩
        rw [nearest_of_relative absolute]
        exact Disk.fileText?_joined areNames absolute found fits
  rw [ofFile_run, fileAmong?_candidates, atNearest]
  exact ⟨_, rfl⟩

end Layer
end TypedRoutes
