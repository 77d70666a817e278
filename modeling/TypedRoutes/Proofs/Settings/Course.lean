import TypedRoutes.Proofs.Disk.Beside
import TypedRoutes.Proofs.Output.Protection
import TypedRoutes.Proofs.Settings.Saving
import TypedRoutes.Proofs.Source.Loading

namespace TypedRoutes

/-!
# How setting up a project goes

Setting up a project looks for its settings file, writes one, looks for a route config, and writes one.
Each of these can come to nothing; the steps that did not are steps that a disk without trouble would
have made, except that a write which is broken off writes less.
-/

/-! ## Looking and writing in trouble -/

namespace FaultyDisk

open FileSystem

variable {path : Path} {faulty after : FaultyDisk}

theorem onlyReads_exists? (path : Path) : OnlyReads (exists? (m := StateM FaultyDisk) path) := by
  apply (onlyReads_isDirectory? path).bind
  intro answer
  cases answer with
  | ok _ => exact onlyReads_pure _
  | error _ => exact onlyReads_pure _

/-- What a look finds in spite of trouble is there. -/
theorem exists_find_of_exists? (there : (exists? (m := StateM FaultyDisk) path faulty).1 = true) :
    ∃ found, faulty.disk.find path = .ok found := by
  have sound := sound_isDirectory? path faulty
  rw [exists?_run] at there
  generalize isDirectory? (m := StateM FaultyDisk) path faulty = result at there sound
  rcases result with ⟨answer, looked⟩
  cases answer with
  | error fault => cases there
  | ok value =>
      have answered : (faulty.disk.find path).map (·.2.isDirectory) = .ok value :=
        congrArg Prod.fst (sound value rfl)
      cases isFound : faulty.disk.find path with
      | ok found => exact ⟨found, rfl⟩
      | error fault =>
          rw [isFound] at answered
          cases answered

/-- A look that meets no trouble finds what is there. -/
theorem exists?_of_clear (clear : faulty.Clear) (found : ∃ found, faulty.disk.find path = .ok found) :
    (exists? (m := StateM FaultyDisk) path faulty).1 = true := by
  rcases found with ⟨found, isFound⟩
  have looked : isDirectory? (m := StateM FaultyDisk) path faulty =
      (.ok found.2.isDirectory, ⟨faulty.disk, faulty.ahead.tail⟩) := by
    refine (request_of_clear clear _ _).trans ?_
    change (((faulty.disk.find path).map (·.2.isDirectory)), _) = _
    rw [isFound]
    rfl
  rw [exists?_run, looked]

/-- A write leaves the disk as it is, or does what a write of some text does without trouble. -/
theorem write_cases {text : Text} {answer : Except Fault Unit}
    (run : write (m := StateM FaultyDisk) path text faulty = (answer, after)) :
    (after.disk = faulty.disk ∧ answer ≠ .ok ()) ∨
      ∃ written, faulty.disk.write path written = .ok after.disk ∧
        (answer = .ok () → written = text) := by
  cases answer with
  | ok _ =>
      have sound := sound_write path text faulty ()
      rw [run] at sound
      exact .inr ⟨text, Disk.write_eq_ok_of_run (sound rfl), fun _ => rfl⟩
  | error fault =>
      rcases write_error run with same | ⟨words, count, -, written⟩
      · exact .inl ⟨same, by simp⟩
      · exact .inr ⟨_, written, fun failed => by cases failed⟩

end FaultyDisk

namespace Disk

open FileSystem
open TypedRoutes.Path (IsName ofNames)

variable {disk after : Disk} {base : Path} {name other text : Text}

/-- A file that was written with the directories above it is where its path leads. -/
theorem locate_of_writeFile {path : Path}
    (run : writeFile (m := StateM Disk) path text disk = (.ok (), after)) :
    after.working = disk.working ∧ after.locate path = .ok (path.location disk.working) ∧
      after.fileText? path = some text := by
  rcases writeFile_eq_ok run with ⟨middle, made, written⟩
  have working := (elsewhere_of_makeDirectories made).1
  rw [← working]
  exact ⟨working_of_write written, (written_file written).1, fileText?_of_write written⟩

/-- A file in a firm directory is found where it can be written. -/
theorem exists_find_of_firm (isName : IsName name) (firm : base.Firm disk)
    (shown : disk.entryAt? (base.location disk.working ++ [name]) ≠ none)
    (run : writeFile (m := StateM Disk) (base.join (ofNames [name])) text disk = (.ok (), after)) :
    ∃ found, disk.find (base.join (ofNames [name])) = .ok found := by
  have fits := fits_of_locate (locate_of_writeFile run).2.1
  have located := (locate_join_name_iff isName).2 ⟨fits, firm.directories shown, rfl⟩
  exact (exists_find_iff (Path.endsInSlash_join_name base isName)).2 ⟨_, located, shown⟩

/-- Writing a file of a directory makes way for a shorter one beside it. -/
theorem locate_beside_of_writeFile (isName : IsName name) (isOther : IsName other)
    (nulFree : '\x00' ∉ other) (shorter : Text.utf8Length other ≤ Text.utf8Length name)
    (run : writeFile (m := StateM Disk) (base.join (ofNames [name])) text disk = (.ok (), after)) :
    after.locate (base.join (ofNames [other])) = .ok (base.location disk.working ++ [other]) := by
  rcases locate_of_writeFile run with ⟨working, located, -⟩
  rcases (locate_join_name_iff isName).1 located with ⟨fits, directories, -⟩
  rw [← working]
  exact (locate_join_name_iff isOther).2 ⟨fits.beside base isName isOther nulFree shorter, directories, rfl⟩

/-- Writing a file of a firm directory makes nothing beside it. -/
theorem entryAt?_beside_of_writeFile (isName : IsName name) (firm : base.Firm disk)
    (apart : other ≠ name)
    (missing : disk.entryAt? (base.location disk.working ++ [other]) = none)
    (run : writeFile (m := StateM Disk) (base.join (ofNames [name])) text disk = (.ok (), after)) :
    after.entryAt? (base.location disk.working ++ [other]) = none := by
  rcases writeFile_eq_ok run with ⟨middle, made, written⟩
  have off : base.location disk.working ++ [other] ∉
      Path.trail (base.start disk.working) base.steps := firm.not_mem_trail (by simp [missing])
  rw [entryAt?_of_write written, (elsewhere_of_makeDirectories made).1,
    Path.location_join_name base isName, if_neg (by simpa using apart),
    entryAt?_of_makeDirectories_above isName made off, missing]

end Disk

namespace Settings

open FileSystem

variable {root : Path} {force : Bool} {start : FaultyDisk}

/-! ## The two files -/

theorem isName_fileName : Path.IsName fileName.text := by decide

theorem isName_routeConfig : Path.IsName builtIn.routeConfig.text := by decide

/-- The place of the settings file of a project. -/
def filePlace (root : Path) (working : Location) : Location := root.location working ++ [fileName.text]

/-- The place of the route config of a project. -/
def routesPlace (root : Path) (working : Location) : Location :=
  root.location working ++ [builtIn.routeConfig.text]

theorem filePlace_ne_routesPlace (root : Path) (working : Location) :
    filePlace root working ≠ routesPlace root working := by
  intro same
  have sameName := List.append_cancel_left same
  revert sameName
  decide

theorem location_routeConfigOf (root : Path) (working : Location) :
    (builtIn.routeConfigOf root).location working = routesPlace root working :=
  Path.location_join_name root isName_routeConfig working

/-! ## How it goes -/

/-- The look at the settings file, which force leaves out. -/
def looked (root : Path) (force : Bool) (start : FaultyDisk) : Bool × FaultyDisk :=
  if force then (false, start) else exists? (m := StateM FaultyDisk) (fileOf root) start

theorem disk_looked (root : Path) (force : Bool) (start : FaultyDisk) :
    (looked root force start).2.disk = start.disk := by
  cases force with
  | true => rfl
  | false => exact FaultyDisk.onlyReads_exists? (fileOf root) start

/-- The disk of the look at the route config: it comes after the settings have been saved. -/
def afterSave (root : Path) (force : Bool) (start : FaultyDisk) : FaultyDisk :=
  (builtIn.save (m := StateM FaultyDisk) (fileOf root) (looked root force start).2).2

/-- On a disk without trouble the look at the route config meets none. -/
theorem clear_afterSave (root : Path) (force : Bool) (disk : Disk) :
    (afterSave root force ⟨disk, []⟩).Clear := by
  obtain ⟨state, look⟩ : ∃ state, (looked root force ⟨disk, []⟩).2 = ⟨state, []⟩ := by
    cases force with
    | true => exact ⟨disk, rfl⟩
    | false => exact ⟨_, congrArg Prod.snd (FaultyDisk.untroubled_exists? (fileOf root) disk)⟩
  have saved := FaultyDisk.untroubled_writeFile (fileOf root) builtIn.toToml state
  change (writeFile (m := StateM FaultyDisk) (fileOf root) builtIn.toToml _).2.Clear
  rw [look, saved]
  exact FaultyDisk.clear_of_nil _

theorem untroubled_writeStarter (path : Path) :
    FaultyDisk.Untroubled (writeStarter (m := StateM FaultyDisk) path)
      (writeStarter (m := StateM Disk) path) := by
  apply (FaultyDisk.untroubled_exists? path).bind
  intro there
  cases there with
  | true => exact FaultyDisk.untroubled_pure _
  | false =>
      apply FaultyDisk.Untroubled.bind (FaultyDisk.request_untroubled _ _)
      intro answer
      cases answer with
      | ok _ => exact FaultyDisk.untroubled_pure _
      | error fault => exact FaultyDisk.untroubled_pure _

/-- With no trouble ahead, a project is set up as on a disk. -/
theorem untroubled_init (root : Path) (force : Bool) :
    FaultyDisk.Untroubled (init (m := StateM FaultyDisk) root force)
      (init (m := StateM Disk) root force) := by
  cases force
  case' true => apply (FaultyDisk.untroubled_pure false).bind
  case' false => apply (FaultyDisk.untroubled_exists? (fileOf root)).bind
  all_goals
    intro taken
    cases taken with
    | true => exact FaultyDisk.untroubled_pure _
    | false =>
        apply (FaultyDisk.untroubled_writeFile (fileOf root) builtIn.toToml).bind
        intro answer
        cases answer with
        | error fault => exact FaultyDisk.untroubled_pure _
        | ok _ =>
            apply (untroubled_writeStarter (builtIn.routeConfigOf root)).bind
            intro answer
            cases answer with
            | error error => exact FaultyDisk.untroubled_pure _
            | ok _ => exact FaultyDisk.untroubled_pure _

/-- Setting up a project is refused, or it comes to nothing with the settings, or it goes on to the
routes. -/
inductive Course (root : Path) (force : Bool) (start : FaultyDisk) :
    Except InitError Path → FaultyDisk → Prop where
  | refused (taken : (looked root force start).1 = true) :
      Course root force start (.error .alreadyThere) (looked root force start).2
  | unsaved {fault : Fault} {after : FaultyDisk} (free : (looked root force start).1 = false)
      (failed : builtIn.save (m := StateM FaultyDisk) (fileOf root) (looked root force start).2 =
        (.error fault, after)) :
      Course root force start (.error (.fault fault)) after
  | saved {saved after : FaultyDisk} {answer : Except InitError Unit}
      (free : (looked root force start).1 = false)
      (isSaved : builtIn.save (m := StateM FaultyDisk) (fileOf root) (looked root force start).2 =
        (.ok (), saved))
      (started : writeStarter (m := StateM FaultyDisk) (builtIn.routeConfigOf root) saved =
        (answer, after)) :
      Course root force start (answer.map fun _ => fileOf root) after

theorem course_init (root : Path) (force : Bool) (start : FaultyDisk) :
    Course root force start (init (m := StateM FaultyDisk) root force start).1
      (init (m := StateM FaultyDisk) root force start).2 := by
  have refused := @Course.refused root force start
  have unsaved := @Course.unsaved root force start
  have saved := @Course.saved root force start
  have forced : (pure false : StateM FaultyDisk Bool) start = looked root true start := rfl
  have unforced : exists? (m := StateM FaultyDisk) (fileOf root) start = looked root false start := rfl
  unfold init
  cases force
  case' true => rw [if_pos rfl, bind_run, forced]
  case' false => rw [if_neg Bool.false_ne_true, bind_run, unforced]
  all_goals
    clear forced unforced
    generalize looked root _ start = look at refused unsaved saved ⊢
    rcases look with ⟨taken, state⟩
    cases taken with
    | true => exact refused rfl
    | false =>
        simp only [if_neg Bool.false_ne_true, bind_run]
        cases isSaved : builtIn.save (m := StateM FaultyDisk) (fileOf root) state with
        | mk answer middle =>
            cases answer with
            | error fault => exact unsaved rfl isSaved
            | ok _ =>
                simp only [bind_run]
                cases started : writeStarter (m := StateM FaultyDisk) (builtIn.routeConfigOf root)
                  middle with
                | mk answer after =>
                    have course := saved rfl isSaved started
                    cases answer <;> exact course

/-- The starter route config is written where nothing is seen, and otherwise nothing happens. -/
theorem writeStarter_cases {path : Path} {faulty after : FaultyDisk} {answer : Except InitError Unit}
    (run : writeStarter (m := StateM FaultyDisk) path faulty = (answer, after)) :
    (after.disk = faulty.disk ∧
        (answer = .ok () → ∃ found, faulty.disk.find path = .ok found)) ∨
      ((exists? (m := StateM FaultyDisk) path faulty).1 = false ∧
        ∃ written, faulty.disk.write path written = .ok after.disk ∧
          (answer = .ok () → written = starterRoutes)) := by
  have same := FaultyDisk.onlyReads_exists? path faulty
  have there := @FaultyDisk.exists_find_of_exists? path faulty
  rw [writeStarter, bind_run] at run
  generalize exists? (m := StateM FaultyDisk) path faulty = result at run same there
  rcases result with ⟨seen, middle⟩
  cases seen with
  | true =>
      cases run
      exact .inl ⟨same, fun _ => there rfl⟩
  | false =>
      simp only [if_neg Bool.false_ne_true, bind_run] at run
      cases wrote : write (m := StateM FaultyDisk) path starterRoutes middle with
      | mk outcome last =>
          rw [wrote] at run
          change middle.disk = faulty.disk at same
          rw [← same]
          rcases FaultyDisk.write_cases wrote with ⟨unchanged, failed⟩ | ⟨written, isWritten, whole⟩
          · cases outcome with
            | ok _ => exact absurd rfl failed
            | error fault =>
                cases run
                exact .inl ⟨unchanged, fun succeeded => by cases succeeded⟩
          · refine .inr ⟨rfl, written, ?_, fun succeeded => ?_⟩
            · cases outcome <;> cases run <;> exact isWritten
            · cases outcome with
              | ok _ => exact whole rfl
              | error fault =>
                  cases run
                  cases succeeded

end Settings
end TypedRoutes
