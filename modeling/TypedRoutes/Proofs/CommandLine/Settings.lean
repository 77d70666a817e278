import TypedRoutes.CommandLine.Run
import TypedRoutes.Proofs.Output.Protection
import TypedRoutes.Proofs.Source.Loading

namespace TypedRoutes

/-!
# The settings file in a run

A run that makes the output once reads its settings from the file that the command line names, or
else from the one that belongs to the project; a relative path is also looked for in the directories
above.  The guard on the output directory knows the project's own settings file, wherever the settings
were read.  So the project's own file survives every run; another file that the settings were read from
survives where the output directory that they name is apart from it, and is not safe inside.
-/

namespace CommandLine

open FaultyDisk FileSystem

variable {environment : List (Text × Text)} {words : List Text} {invocation : Invocation}
variable {root : Path} {settings : Settings} {mode : Text} {start : FaultyDisk}

/-! ## What a run does in order -/

theorem onlyReads_settingsOf (environment : List (Text × Text)) (invocation : Invocation) :
    OnlyReads (settingsOf (m := StateM FaultyDisk) environment invocation) := by
  unfold settingsOf
  split
  · exact Settings.onlyReads_loadFrom _ _
  · exact Settings.onlyReads_loadFrom _ _

/-- How a pass is reported. -/
def passReport (target : Target) : Except PassError Pass.Summary → Report
  | .error error => .failure (failureLine (error.message :: causesOfPass error))
  | .ok summary =>
      { output := "Generated types for " ++ Text.ofNat summary.routes ++ " routes ("
          ++ Text.ofNat summary.files ++ " files) in " ++ target.output.text ++ "\n" }

/-- Output is made by one pass of the snapshot that loads. -/
theorem generateOnce_of_load {snapshot : Snapshot} {state : FaultyDisk}
    (loads : Snapshot.load (m := StateM FaultyDisk) (settings.routeConfigOf root) mode start =
      (.ok snapshot, state)) :
    generateOnce (m := StateM FaultyDisk) root settings mode start =
      (passReport (.ofSettings root settings)
          (Pass.run (m := StateM FaultyDisk) (.ofSettings root settings) snapshot state).1,
        (Pass.run (m := StateM FaultyDisk) (.ofSettings root settings) snapshot state).2) := by
  unfold generateOnce
  simp only [bind_run, loads]
  generalize Pass.run (m := StateM FaultyDisk) (.ofSettings root settings) snapshot state = result
  rcases result with ⟨answer, after⟩
  cases answer <;> rfl

/-- Where nothing loads, nothing happens. -/
theorem generateOnce_of_load_error {error : LoadError} {state : FaultyDisk}
    (fails : Snapshot.load (m := StateM FaultyDisk) (settings.routeConfigOf root) mode start =
      (.error error, state)) :
    (generateOnce (m := StateM FaultyDisk) root settings mode start).2 = state := by
  unfold generateOnce
  simp only [bind_run, fails]
  rfl

/-- Making the output leaves the disk as it is, or spares what is outside of an output directory
that was accepted. -/
theorem generateOnce_spares (root : Path) (settings : Settings) (mode : Text) (start : FaultyDisk) :
    (generateOnce (m := StateM FaultyDisk) root settings mode start).2.disk = start.disk ∨
      ((Target.ofSettings root settings).firstCovered? start.disk.working = none ∧
        Disk.Spares ((Target.ofSettings root settings).output.location start.disk.working)
          start.disk (generateOnce (m := StateM FaultyDisk) root settings mode start).2.disk) := by
  have reads := Snapshot.onlyReads_load (settings.routeConfigOf root) mode start
  generalize loads : Snapshot.load (m := StateM FaultyDisk) (settings.routeConfigOf root) mode start =
    result at reads
  rcases result with ⟨answer, state⟩
  cases answer with
  | error error => exact .inl (by rw [generateOnce_of_load_error loads, reads])
  | ok snapshot =>
      rw [generateOnce_of_load loads, ← reads]
      rcases Pass.run_spares (.ofSettings root settings) snapshot state with nothing | spares
      · exact .inl (by rw [nothing])
      · exact .inr spares

theorem run_of_settings (asked : Invocation.ofWords environment words = .ok invocation)
    (once : invocation.command = .typegen mode false) {state : FaultyDisk}
    (reads : settingsOf (m := StateM FaultyDisk) environment invocation start =
      (.ok settings, state)) :
    run (m := StateM FaultyDisk) environment words start =
      ((Outcome.done (generateOnce (m := StateM FaultyDisk) invocation.root settings mode
          state).1).warning (filterWarnings settings),
        (generateOnce (m := StateM FaultyDisk) invocation.root settings mode state).2) := by
  unfold run
  rw [asked]
  simp only [runInvocation, once, withSettings, bind_run, reads, typegen]
  rfl

theorem run_of_settings_error (asked : Invocation.ofWords environment words = .ok invocation)
    (once : invocation.command = .typegen mode false) {error : Layer.ConfigError}
    {state : FaultyDisk}
    (fails : settingsOf (m := StateM FaultyDisk) environment invocation start =
      (.error error, state)) :
    (run (m := StateM FaultyDisk) environment words start).2 = state := by
  unfold run
  rw [asked]
  simp only [runInvocation, once, withSettings, bind_run, fails]
  rfl

/-- A run leaves the disk as it is, or spares what is outside of the output directory that the
settings name. -/
theorem run_spares (asked : Invocation.ofWords environment words = .ok invocation)
    (once : invocation.command = .typegen mode false) (start : FaultyDisk) :
    (run (m := StateM FaultyDisk) environment words start).2.disk = start.disk ∨
      ∃ settings, (settingsOf (m := StateM FaultyDisk) environment invocation start).1 =
          .ok settings ∧
        (Target.ofSettings invocation.root settings).firstCovered? start.disk.working = none ∧
        Disk.Spares ((Target.ofSettings invocation.root settings).output.location start.disk.working)
          start.disk (run (m := StateM FaultyDisk) environment words start).2.disk := by
  have kept := onlyReads_settingsOf environment invocation start
  generalize reads : settingsOf (m := StateM FaultyDisk) environment invocation start = result
    at kept
  rcases result with ⟨answer, state⟩
  cases answer with
  | error error => exact .inl (by rw [run_of_settings_error asked once reads, kept])
  | ok settings =>
      rw [run_of_settings asked once reads, ← kept]
      rcases generateOnce_spares invocation.root settings mode state with nothing | spares
      · exact .inl nothing
      · exact .inr ⟨settings, rfl, spares⟩

/-! ## An output directory over the project's settings file -/

/-- An output directory that is the project's settings file, or lies above it, is refused. -/
theorem exists_plan_eq_error {working : Location} (snapshot : Snapshot)
    (above : (Target.ofSettings root settings).output.location working <+:
      (Settings.fileOf root).location working) :
    ∃ guarded ∈ (Target.ofSettings root settings).kept,
      Pass.plan working (.ofSettings root settings) snapshot =
        .error (.unsafeOutput (Target.ofSettings root settings).output guarded) := by
  cases covered : (Target.ofSettings root settings).firstCovered? working with
  | none => exact absurd above (Target.guarded_outside covered (by simp))
  | some guarded =>
      refine ⟨guarded, List.mem_of_find?_eq_some covered, ?_⟩
      rw [Pass.plan, covered]

theorem generateOnce_refuses {snapshot : Snapshot} {state : FaultyDisk}
    (loads : Snapshot.load (m := StateM FaultyDisk) (settings.routeConfigOf root) mode start =
      (.ok snapshot, state))
    (above : (Target.ofSettings root settings).output.location start.disk.working <+:
      (Settings.fileOf root).location start.disk.working) :
    ∃ guarded ∈ (Target.ofSettings root settings).kept,
      generateOnce (m := StateM FaultyDisk) root settings mode start =
        (.failure (failureLine
          [(PassError.unsafeOutput (Target.ofSettings root settings).output guarded).message]),
          state) := by
  have reads := Snapshot.onlyReads_load (settings.routeConfigOf root) mode start
  rw [loads] at reads
  rcases exists_plan_eq_error snapshot above with ⟨guarded, member, refused⟩
  refine ⟨guarded, member, ?_⟩
  rw [generateOnce_of_load loads, Pass.run_faulty, reads, refused]
  rfl

/-! ## Settings files -/

/-- What a run that makes the output once does with the files that settings are read from. -/
structure SparesSettings (environment : List (Text × Text)) (invocation : Invocation) (mode : Text)
    (start : FaultyDisk) (result : Outcome × FaultyDisk) : Prop where
  /-- The project's own settings file keeps its text, or stays missing, whatever the settings
  are and wherever they were read. -/
  own : result.2.disk.textAt? ((Settings.fileOf invocation.root).location start.disk.working) =
    start.disk.textAt? ((Settings.fileOf invocation.root).location start.disk.working)
  /-- Every other file, the one that the command line names among them, keeps its text where the
  output directory is not that file and does not lie above it. -/
  apart : ∀ file : Path,
    (∀ settings, (settingsOf (m := StateM FaultyDisk) environment invocation start).1 =
        .ok settings →
      ¬ (Target.ofSettings invocation.root settings).output.location start.disk.working <+:
        file.location start.disk.working) →
    result.2.disk.textAt? (file.location start.disk.working) =
      start.disk.textAt? (file.location start.disk.working)
  /-- An output directory that is the project's own settings file, or lies above it, is refused as
  soon as the route config is loaded, and nothing has happened. -/
  refuses : ∀ settings state snapshot later,
    settingsOf (m := StateM FaultyDisk) environment invocation start = (.ok settings, state) →
    Snapshot.load (m := StateM FaultyDisk) (settings.routeConfigOf invocation.root) mode state =
      (.ok snapshot, later) →
    (Target.ofSettings invocation.root settings).output.location start.disk.working <+:
      (Settings.fileOf invocation.root).location start.disk.working →
    result.2.disk = start.disk ∧
      ∃ guarded ∈ (Target.ofSettings invocation.root settings).kept,
        result.1 = .done ((Report.failure (failureLine [(PassError.unsafeOutput
          (Target.ofSettings invocation.root settings).output guarded).message])).warning
            (filterWarnings settings))

/-- The guard covers the project's own settings file, and no other file that the settings were
read from. -/
theorem run_sparesSettings (asked : Invocation.ofWords environment words = .ok invocation)
    (once : invocation.command = .typegen mode false) (start : FaultyDisk) :
    SparesSettings environment invocation mode start
      (run (m := StateM FaultyDisk) environment words start) where
  own := by
    rcases run_spares asked once start with nothing | ⟨settings, -, accepted, spares⟩
    · rw [nothing]
    · exact spares.textAt? (Target.guarded_outside accepted (by simp))
  apart file outside := by
    rcases run_spares asked once start with nothing | ⟨settings, reads, -, spares⟩
    · rw [nothing]
    · exact spares.textAt? (outside settings reads)
  refuses settings state snapshot later reads loads above := by
    have keptSettings := onlyReads_settingsOf environment invocation start
    have keptSnapshot := Snapshot.onlyReads_load (settings.routeConfigOf invocation.root) mode state
    rw [reads] at keptSettings
    rw [loads] at keptSnapshot
    rw [← keptSettings] at above
    rcases generateOnce_refuses loads above with ⟨guarded, member, refused⟩
    rw [run_of_settings asked once reads, refused]
    exact ⟨keptSnapshot.trans keptSettings, guarded, member, rfl⟩

end CommandLine

/-- A disk with a project `p` that has settings of its own, and other settings in its output
directory `t`. -/
def Disk.configured : Disk where
  root := .directory
    [(['p'], .directory
      [(['t'], .directory [(['s'], .file "output_dir=\"t\"\nroute_config=\"c\"\n")]),
        (['c'], .file "[[routes]]\nid=\"root\"\n"),
        (Settings.fileName.text, .file "version=1\n")])]
  working := []

/-- A run in the project with the other settings. -/
def CommandLine.Invocation.elsewhere : Invocation where
  config := some "p/t/s"
  root := "p"
  command := .typegen "production" false

namespace CommandLine

/-- The project's own settings file survives a run with other settings. -/
theorem run_sparesSettings_elsewhere :
    Invocation.ofWords [] ["typegen", "p", "--config", "p/t/s"] = .ok .elsewhere ∧
      (run (m := StateM FaultyDisk) [] ["typegen", "p", "--config", "p/t/s"]
        ⟨.configured, []⟩).2.disk.textAt? [['p'], Settings.fileName.text] =
          some "version=1\n" := by
  have asked : Invocation.ofWords [] ["typegen", "p", "--config", "p/t/s"] = .ok .elsewhere := by
    decide +kernel
  exact ⟨asked, (run_sparesSettings asked rfl ⟨.configured, []⟩).own.trans (by decide +kernel)⟩

/-- The other settings do not: they name the directory that they lie in, which is not refused, and
the run deletes the file that it read them from. -/
theorem run_deletes_settings :
    (settingsOf (m := StateM Disk) [] .elsewhere .configured).1.toOption =
        some { outputDir := "t", routeConfig := "c" } ∧
      Disk.configured.textAt? [['p'], ['t'], ['s']] ≠ none ∧
      (run (m := StateM Disk) [] ["typegen", "p", "--config", "p/t/s"]
        .configured).2.textAt? [['p'], ['t'], ['s']] = none := by
  refine ⟨?_, ?_, ?_⟩
  · decide +kernel
  · decide +kernel
  · decide +kernel

end CommandLine
end TypedRoutes
