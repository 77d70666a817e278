import TypedRoutes.Proofs.Settings.Course
import TypedRoutes.Proofs.Source.Starter

namespace TypedRoutes

/-!
# Setting up a project

Setting up a project can change two files and spares all others, whatever goes wrong.  A route config
that is there is spared as well, and without force so is the settings file, as long as the looks at
what is there meet no trouble.  There is one way around the look at the settings file: it comes before
the directories of the root are made, and on a detour such as `new/..` the file can be seen only after
that.  What was set up can be loaded.
-/

namespace Settings

open FileSystem

variable {root : Path} {force : Bool} {start after : FaultyDisk} {disk changed : Disk}
  {answer : Except InitError Path} {place : Location} {text : Text}

/-! ## What the two files leave alone -/

theorem textAt?_of_writeFile_fileOf
    (run : writeFile (m := StateM Disk) (fileOf root) text disk = (.ok (), changed))
    (notFile : place ≠ filePlace root disk.working) : changed.textAt? place = disk.textAt? place := by
  apply (Disk.laid_of_writeFile run).elsewhere
  intro file member
  rw [List.mem_singleton.1 member, location_fileOf]
  exact notFile

theorem textAt?_of_write_routeConfigOf
    (written : disk.write (builtIn.routeConfigOf root) text = .ok changed)
    (notRoutes : place ≠ routesPlace root disk.working) :
    changed.textAt? place = disk.textAt? place := by
  apply (Disk.laid_of_write written).elsewhere
  intro file member
  rw [List.mem_singleton.1 member, location_routeConfigOf]
  exact notRoutes

/-- Where the settings file has been written, the route config is found if something is there. -/
theorem exists_find_routeConfigOf
    (run : writeFile (m := StateM Disk) (fileOf root) text disk = (.ok (), changed)) :
    (∃ found, changed.find (builtIn.routeConfigOf root) = .ok found) ↔
      changed.entryAt? (routesPlace root disk.working) ≠ none := by
  have located : changed.locate (builtIn.routeConfigOf root) = .ok (routesPlace root disk.working) :=
    Disk.locate_beside_of_writeFile isName_fileName isName_routeConfig (by decide) (by decide) run
  have noSlash : (builtIn.routeConfigOf root).endsInSlash = false :=
    Path.endsInSlash_join_name root isName_routeConfig
  rw [Disk.exists_find_iff noSlash]
  constructor
  · rintro ⟨reached, isReached, shown⟩
    rw [located] at isReached
    cases isReached
    exact shown
  · exact fun shown => ⟨_, located, shown⟩

theorem writeFile_of_save {settings : Settings} {path : Path} {faulty saved : FaultyDisk}
    (isSaved : settings.save (m := StateM FaultyDisk) path faulty = (.ok (), saved)) :
    writeFile (m := StateM Disk) path settings.toToml faulty.disk = (.ok (), saved.disk) := by
  have sound := FaultyDisk.sound_writeFile path settings.toToml faulty ()
  change writeFile (m := StateM FaultyDisk) path settings.toToml faulty = _ at isSaved
  rw [isSaved] at sound
  exact sound rfl

namespace Course

/-- Setting up a project spares every other file. -/
theorem spares (course : Course root force start answer after)
    (notFile : place ≠ filePlace root start.disk.working)
    (notRoutes : place ≠ routesPlace root start.disk.working) :
    after.disk.textAt? place = start.disk.textAt? place := by
  rw [← disk_looked root force start] at notFile notRoutes ⊢
  cases course with
  | refused => rfl
  | unsaved free failed =>
      rcases FaultyDisk.exists_part_of_writeFile_error failed with same | ⟨_, _, -, part⟩
      · exact same.texts place
      · exact textAt?_of_writeFile_fileOf part notFile
  | saved free isSaved started =>
      have run := writeFile_of_save isSaved
      have kept := textAt?_of_writeFile_fileOf run notFile
      rcases writeStarter_cases started with ⟨same, -⟩ | ⟨-, text, written, -⟩
      · rw [same, kept]
      · rw [← (Disk.locate_of_writeFile run).1] at notRoutes
        rw [textAt?_of_write_routeConfigOf written notRoutes, kept]

/-- A route config that is there is kept, if the look at it meets no trouble. -/
theorem keepsRoutes (course : Course root force start answer after)
    (clear : (afterSave root force start).Clear)
    (there : start.disk.textAt? (routesPlace root start.disk.working) = some text) :
    after.disk.textAt? (routesPlace root start.disk.working) = some text := by
  have apart := (filePlace_ne_routesPlace root start.disk.working).symm
  unfold afterSave at clear
  rw [← disk_looked root force start] at there apart ⊢
  cases course with
  | refused => exact there
  | unsaved free failed =>
      rcases FaultyDisk.exists_part_of_writeFile_error failed with same | ⟨_, _, -, part⟩
      · rw [same.texts, there]
      · rw [textAt?_of_writeFile_fileOf part apart, there]
  | saved free isSaved started =>
      have run := writeFile_of_save isSaved
      have kept := textAt?_of_writeFile_fileOf run apart
      rw [there] at kept
      rcases writeStarter_cases started with ⟨same, -⟩ | ⟨unseen, -⟩
      · rw [same, kept]
      · rw [isSaved] at clear
        have shown := Disk.textAt?_eq_some_iff.1 kept
        have found := (exists_find_routeConfigOf run).2 (by rw [shown]; exact Option.some_ne_none _)
        rw [FaultyDisk.exists?_of_clear clear found] at unseen
        cases unseen

/-- The settings file of a firm root is kept without force, if the look at it meets no trouble. -/
theorem keepsFile (course : Course root false start answer after) (clear : start.Clear)
    (firm : root.Firm start.disk)
    (there : start.disk.textAt? (filePlace root start.disk.working) = some text) :
    after.disk.textAt? (filePlace root start.disk.working) = some text := by
  have same := disk_looked root false start
  have shown : start.disk.entryAt? (filePlace root start.disk.working) ≠ none := by
    rw [Disk.textAt?_eq_some_iff.1 there]
    exact Option.some_ne_none _
  -- Where the file can be written, the look has found it.
  have taken : ∀ written changed,
      writeFile (m := StateM Disk) (fileOf root) written start.disk = (.ok (), changed) →
        (looked root false start).1 = true := fun written changed run =>
    FaultyDisk.exists?_of_clear clear (Disk.exists_find_of_firm isName_fileName firm shown run)
  cases course with
  | refused => rw [same, there]
  | unsaved free failed =>
      rcases FaultyDisk.exists_part_of_writeFile_error failed with unchanged | ⟨_, _, -, part⟩
      · rw [unchanged.texts, same, there]
      · rw [same] at part
        rw [taken _ _ part] at free
        cases free
  | saved free isSaved started =>
      have run := writeFile_of_save isSaved
      rw [same] at run
      rw [taken _ _ run] at free
      cases free

/-- After a success the settings have been saved, and then the routes have been looked after. -/
theorem exists_of_ok {path : Path} (course : Course root force start (.ok path) after) :
    path = fileOf root ∧ ∃ saved : FaultyDisk,
      writeFile (m := StateM Disk) (fileOf root) builtIn.toToml start.disk = (.ok (), saved.disk) ∧
        writeStarter (m := StateM FaultyDisk) (builtIn.routeConfigOf root) saved = (.ok (), after) := by
  have same := disk_looked root force start
  generalize isAnswer : (Except.ok path : Except InitError Path) = answer at course
  cases course with
  | refused => cases isAnswer
  | unsaved => cases isAnswer
  | @saved saved after answer free isSaved started =>
      cases answer with
      | error error => cases isAnswer
      | ok _ =>
          cases isAnswer
          have run := writeFile_of_save isSaved
          rw [same] at run
          exact ⟨rfl, saved, run, started⟩

/-- Built-in settings can be read after a success. -/
theorem fileText?_file {path : Path} (course : Course root force start (.ok path) after) :
    after.disk.working = start.disk.working ∧
      after.disk.fileText? (fileOf root) = some builtIn.toToml := by
  rcases course.exists_of_ok with ⟨-, saved, run, started⟩
  rcases Disk.locate_of_writeFile run with ⟨working, -, found⟩
  rcases writeStarter_cases started with ⟨unchanged, -⟩ | ⟨-, text, written, -⟩
  · rw [unchanged]
    exact ⟨working, found⟩
  · refine ⟨(Disk.working_of_write written).trans working, ?_⟩
    apply Disk.fileText?_of_write_elsewhere written found
    rw [location_fileOf, location_routeConfigOf]
    exact filePlace_ne_routesPlace root _

/-- A starter route config can be read after a success, if a firm root had none. -/
theorem fileText?_routes {path : Path} (course : Course root force start (.ok path) after)
    (firm : root.Firm start.disk)
    (missing : start.disk.entryAt? (routesPlace root start.disk.working) = none) :
    after.disk.fileText? (builtIn.routeConfigOf root) = some starterRoutes := by
  rcases course.exists_of_ok with ⟨-, saved, run, started⟩
  have stillMissing := Disk.entryAt?_beside_of_writeFile isName_fileName firm (by decide) missing run
  rcases writeStarter_cases started with ⟨-, seen⟩ | ⟨-, text, written, whole⟩
  · exact absurd stillMissing ((exists_find_routeConfigOf run).1 (seen rfl))
  · rw [whole rfl] at written
    exact Disk.fileText?_of_write written

end Course

/-! ## Setting up -/

/-- What setting up a project does where it gives an answer and leaves a disk. -/
structure SetsUp (root : Path) (force : Bool) (start : FaultyDisk) (answer : Except InitError Path)
    (after : FaultyDisk) : Prop where
  /-- Without force a settings file that is found is refused, and nothing changes. -/
  refuses : force = false → start.Clear → (∃ found, start.disk.find (fileOf root) = .ok found) →
    answer = .error .alreadyThere ∧ after.disk = start.disk
  /-- Whatever goes wrong, no text changes but those of the two files of the project. -/
  spares : ∀ place, place ≠ filePlace root start.disk.working →
    place ≠ routesPlace root start.disk.working →
      after.disk.textAt? place = start.disk.textAt? place
  /-- A route config that is there is kept, even by force. -/
  keepsRoutes : (afterSave root force start).Clear → ∀ text,
    start.disk.textAt? (routesPlace root start.disk.working) = some text →
      after.disk.textAt? (routesPlace root start.disk.working) = some text
  /-- Without force every text is kept. -/
  keeps : force = false → start.Clear → (afterSave root force start).Clear → root.Firm start.disk →
    ∀ place text, start.disk.textAt? place = some text → after.disk.textAt? place = some text
  /-- After a success the settings are the built-in ones. -/
  loads : ∀ path, answer = .ok path → path = fileOf root ∧
    ∀ environment, SetsNothing environment → Layer.Reachable start.disk.working path →
      (loadFrom (m := StateM Disk) environment path after.disk).1 = .ok builtIn
  /-- After a success the project can be loaded for every mode, if it had no route config. -/
  starts : ∀ path, answer = .ok path → root.Firm start.disk →
    start.disk.entryAt? (routesPlace root start.disk.working) = none →
      Layer.Reachable start.disk.working (builtIn.routeConfigOf root) → ∀ mode,
        (Snapshot.load (m := StateM Disk) (builtIn.routeConfigOf root) mode after.disk).1 =
          .ok (.starter mode)

/-- Setting up a project refuses what it finds, spares what it does not write, and leaves a project
that can be loaded. -/
theorem setsUp_init (root : Path) (force : Bool) (start : FaultyDisk) :
    SetsUp root force start (init (m := StateM FaultyDisk) root force start).1
      (init (m := StateM FaultyDisk) root force start).2 := by
  have course := course_init root force start
  generalize init (m := StateM FaultyDisk) root force start = result at course ⊢
  rcases result with ⟨answer, after⟩
  constructor
  case refuses =>
    rintro rfl clear found
    have taken : (looked root false start).1 = true := FaultyDisk.exists?_of_clear clear found
    cases course with
    | refused => exact ⟨rfl, disk_looked root false start⟩
    | unsaved free =>
        rw [taken] at free
        cases free
    | saved free =>
        rw [taken] at free
        cases free
  case spares => exact fun place => course.spares
  case keepsRoutes => exact fun clear text => course.keepsRoutes clear
  case keeps =>
    rintro rfl clear clearAfter firm place text there
    by_cases isRoutes : place = routesPlace root start.disk.working
    · rw [isRoutes] at there ⊢
      exact course.keepsRoutes clearAfter there
    · by_cases isFile : place = filePlace root start.disk.working
      · rw [isFile] at there ⊢
        exact course.keepsFile clear firm there
      · rw [course.spares isFile isRoutes, there]
  case loads =>
    intro path isAnswer
    change answer = .ok path at isAnswer
    rw [isAnswer] at course
    have isFile := course.exists_of_ok.1
    rcases course.fileText?_file with ⟨working, found⟩
    refine ⟨isFile, fun environment unset reachable => ?_⟩
    rw [isFile, ← working] at reachable
    rw [isFile, loadFrom_of_fileText? (.refl _) found reachable unset]
    rfl
  case starts =>
    intro path isAnswer firm missing reachable mode
    change answer = .ok path at isAnswer
    rw [isAnswer] at course
    have working := course.fileText?_file.1
    rw [← working] at reachable
    rw [Snapshot.load_starterRoutes (course.fileText?_routes firm missing) reachable]

/-- A new project is set up beside a file that stays.  To set it up again is refused, and force keeps
its routes. -/
theorem setsUp_init_again :
    let disk : Disk := ⟨.directory [("p", .directory [("notes", .file "n")])], ["p"]⟩
    let first := init (m := StateM Disk) "new" false disk
    let again := init (m := StateM Disk) "new" false first.2
    let forced := init (m := StateM Disk) "new" true first.2
    first.1 = .ok "new/typegen.toml" ∧
      first.2.textAt? ["p", "notes"] = some "n" ∧
      (loadFrom (m := StateM Disk) [] "new/typegen.toml" first.2).1 = .ok builtIn ∧
      (Snapshot.load (m := StateM Disk) "new/routes.toml" "production" first.2).1 =
        .ok (.starter "production") ∧
      again.1 = .error .alreadyThere ∧ again.2 = first.2 ∧
      forced.2.textAt? ["p", "new", "routes.toml"] = some starterRoutes := by
  intro disk first again forced
  have isFirst : first.1 = .ok "new/typegen.toml" := by decide +kernel
  have areNames : ∀ name ∈ ["p".toList], Path.IsName name := by
    intro name member
    rw [List.mem_singleton.1 member]
    decide
  have firm : Path.Firm "new" disk := Path.firm_of_straight (by decide) disk
  have isRouteConfig : builtIn.routeConfigOf "new" = "new/routes.toml" := by decide +kernel
  have found : first.2.fileText? (fileOf "new") = some builtIn.toToml := by decide +kernel
  have isPlace : routesPlace "new" first.2.working = (["p", "new", "routes.toml"] : Location) := by
    decide +kernel
  have routes : first.2.textAt? ["p", "new", "routes.toml"] = some starterRoutes := by decide +kernel
  have setUp := setsUp_init "new" false ⟨disk, []⟩
  have setUpAgain := setsUp_init "new" false ⟨first.2, []⟩
  have setUpForced := setsUp_init "new" true ⟨first.2, []⟩
  have clearAfter := clear_afterSave "new" false disk
  have clearForced := clear_afterSave "new" true first.2
  rw [untroubled_init] at setUp setUpAgain setUpForced
  -- From here on the runs are named and not computed.
  obtain ⟨isRun, isRunAgain, isRunForced⟩ : init (m := StateM Disk) "new" false disk = first ∧
      init (m := StateM Disk) "new" false first.2 = again ∧
      init (m := StateM Disk) "new" true first.2 = forced := ⟨rfl, rfl, rfl⟩
  rw [isRun] at setUp
  rw [isRunAgain] at setUpAgain
  rw [isRunForced] at setUpForced
  clear_value first again forced
  rcases Disk.fileText?_eq_some_iff.1 found with ⟨location, isFound⟩
  have refused := setUpAgain.refuses rfl (FaultyDisk.clear_of_nil first.2) ⟨_, isFound⟩
  refine ⟨isFirst, ?_, ?_, ?_, refused.1, refused.2, ?_⟩
  · exact setUp.keeps rfl (FaultyDisk.clear_of_nil disk) clearAfter firm _ _ (by decide +kernel)
  · refine (setUp.loads _ isFirst).2 [] (fun _ _ none => absurd none List.not_mem_nil) ?_
    exact .inr ⟨areNames, by decide +kernel⟩
  · have loaded := setUp.starts _ isFirst firm (by decide +kernel)
    rw [isRouteConfig] at loaded
    exact loaded (.inr ⟨areNames, by decide +kernel⟩) "production"
  · rw [← isPlace] at routes ⊢
    exact setUpForced.keepsRoutes clearForced starterRoutes routes

/-- The settings file of this directory is overwritten without force along a path that makes a
directory on its way. -/
theorem init_overwrites_unforced :
    let disk : Disk := ⟨.directory [("typegen.toml", .file "version = 7\n")], []⟩
    let result := init (m := StateM Disk) "missing/.." false disk
    result.1 = .ok "missing/../typegen.toml" ∧
      disk.textAt? ["typegen.toml"] = some "version = 7\n" ∧
      result.2.textAt? ["typegen.toml"] = some builtIn.toToml ∧
      builtIn.toToml ≠ "version = 7\n" := by
  intro disk result
  refine ⟨?_, ?_, ?_, ?_⟩
  all_goals decide +kernel

end Settings
end TypedRoutes
