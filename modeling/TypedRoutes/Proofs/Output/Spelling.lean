import TypedRoutes.Proofs.Output.Replacement
import TypedRoutes.Proofs.Output.Separation

namespace TypedRoutes

/-!
# How the output directory is spelled

Two direct paths to one location are the same output directory: a pass through the one does to the
disk what a pass through the other does, and answers the same in the words of its own spelling.  The
plain absolute path of the location is one of the two, so a direct path keeps everything that is known
of plain ones: a success leaves no stale file and a directory that cannot be cleared stays as it was.
A path that is not direct keeps neither.
-/

namespace Disk

variable {disk : Disk} {first second : Path}

/-! ## Clearing -/

/-- Clearing through two direct paths to one location comes to the same. -/
theorem clear_respelled (direct : first.Direct disk) (directOther : second.Direct disk)
    (same : first.location disk.working = second.location disk.working) (fits : first.Fits)
    (fitsOther : second.Fits) :
    (∃ cleared, Pass.clear (m := StateM Disk) first disk = (.ok (), cleared) ∧
        Pass.clear (m := StateM Disk) second disk = (.ok (), cleared) ∧
        cleared.working = disk.working ∧ Approach first cleared ∧ Approach second cleared) ∨
      (Pass.clear (m := StateM Disk) first disk = (.error (.clear first .notDirectory), disk) ∧
        Pass.clear (m := StateM Disk) second disk = (.error (.clear second .notDirectory), disk)) := by
  by_cases blocked : ∃ place text, place <+: first.location disk.working ∧
      disk.entryAt? place = some (.file text)
  case pos =>
    right
    rcases blocked with ⟨place, text, above, file⟩
    exact ⟨clear_of_file direct fits above file, clear_of_file directOther fitsOther (same ▸ above) file⟩
  case neg =>
    left
    have free : ∀ place text, place <+: first.location disk.working →
        disk.entryAt? place ≠ some (.file text) :=
      fun place text above file => blocked ⟨place, text, above, file⟩
    have approach : Approach first disk := ⟨direct, free⟩
    have approachOther : Approach second disk := ⟨directOther, same ▸ free⟩
    by_cases directory : disk.entryAt? (first.location disk.working) = some .directory
    · have directoryOther := same ▸ directory
      have clears := clear_of_directory directOther fitsOther directoryOther
      have still := approachOther.of_cleared (cleared_erase directOther directoryOther)
      rw [← same] at clears still
      exact ⟨_, clear_of_directory direct fits directory, clears, rfl,
        approach.of_cleared (cleared_erase direct directory), still⟩
    · exact ⟨disk, clear_of_nothing approach fits directory,
        clear_of_nothing approachOther fitsOther (same ▸ directory), rfl, approach, approachOther⟩

end Disk

/-- The target with its output directory in the plain spelling. -/
def Target.normalized (working : Location) (target : Target) : Target :=
  { target with output := target.output.normalized working }

namespace Pass

open TypedRoutes.Path (IsName ofNames Direct)
open Disk (Approach)

/-! ## Answers in two spellings -/

/-- The same error about one output directory in two spellings. -/
inductive Respelled (first second : Path) : PassError → PassError → Prop where
  | tree (error : TreeError) : Respelled first second (.tree error) (.tree error)
  | placeTaken (place one other : Text) :
      Respelled first second (.placeTaken place one other) (.placeTaken place one other)
  | unsafeOutput (guarded : Path) :
      Respelled first second (.unsafeOutput first guarded) (.unsafeOutput second guarded)
  | clear (fault : Fault) : Respelled first second (.clear first fault) (.clear second fault)
  | write (below : Location) (fault : Fault) :
      Respelled first second (.write (first.join (ofNames below)) fault)
        (.write (second.join (ofNames below)) fault)

/-- One disk in the end, and one answer in two spellings. -/
inductive SameEnd {α : Type} (first second : Path) :
    Except PassError α × Disk → Except PassError α × Disk → Prop where
  | done (value : α) (after : Disk) : SameEnd first second (.ok value, after) (.ok value, after)
  | failed {error other : PassError} (respelled : Respelled first second error other)
      (after : Disk) : SameEnd first second (.error error, after) (.error other, after)

variable {target : Target} {snapshot : Snapshot} {disk : Disk} {first second output : Path}

/-! ## Plans and files -/

/-- The files of routes are planned alike in two spellings. -/
theorem routeFiles_respelled (first second : Path) (target : Target) (snapshot : Snapshot)
    (owners : List (Text × Text)) (routes : List Route) :
    (∃ own, List.Forall₂ (fun route content =>
          routeContent target.frameworkModule snapshot route = .ok content) routes own ∧
        ∀ output, routeFiles { target with output } snapshot owners routes
          = .ok (own.map (fileOf output))) ∨
      ∃ error, Respelled first second error error ∧
        ∀ output, routeFiles { target with output } snapshot owners routes = .error error := by
  induction routes generalizing owners with
  | nil => exact .inl ⟨[], .nil, fun _ => rfl⟩
  | cons route rest ih =>
      simp only [routeFiles]
      cases owners.lookup (Placement.path snapshot.appDirectory route.id) with
      | some owner => exact .inr ⟨_, .placeTaken _ _ _, fun _ => rfl⟩
      | none =>
          cases made : Declaration.routeFile target.frameworkModule snapshot route with
          | error error => exact .inr ⟨_, .tree error, fun _ => rfl⟩
          | ok text =>
              rcases ih ((Placement.path snapshot.appDirectory route.id, route.id) :: owners) with
                ⟨own, each, planned⟩ | ⟨error, respelled, refused⟩
              · refine .inl ⟨(Placement.components snapshot.appDirectory route.id, text) :: own,
                  .cons (routeContent_eq_ok_iff.2 ⟨rfl, made⟩) each, fun output => ?_⟩
                simp only [planned]
                rfl
              · refine .inr ⟨error, respelled, fun output => ?_⟩
                simp only [refused]
                rfl

/-- A pass has the same plan in two spellings of one output directory. -/
theorem plan_respelled (snapshot : Snapshot) {working : Location} (nonempty : target.output.text ≠ [])
    (nonemptyOther : output.text ≠ [])
    (same : target.output.location working = output.location working) :
    (∃ all, contents target.frameworkModule snapshot = .ok all ∧
        plan working target snapshot = .ok (all.map (fileOf target.output)) ∧
        plan working { target with output } snapshot = .ok (all.map (fileOf output))) ∨
      ∃ error other, Respelled target.output output error other ∧
        plan working target snapshot = .error error ∧
        plan working { target with output } snapshot = .error other := by
  have covered : ({ target with output } : Target).firstCovered? working
      = target.firstCovered? working := by
    simp only [Target.firstCovered?, Target.kept, Path.resolve?_eq_location nonempty,
      Path.resolve?_eq_location nonemptyOther, same]
  simp only [plan, covered]
  cases target.firstCovered? working with
  | some guarded => exact .inr ⟨_, _, .unsafeOutput guarded, rfl, rfl⟩
  | none =>
      simp only [outputFiles, sharedFiles]
      rcases routeFiles_respelled target.output output target snapshot [] snapshot.routes with
        ⟨own, each, planned⟩ | ⟨error, respelled, refused⟩
      · have planned_target := planned target.output
        cases registered : Declaration.register target.frameworkModule snapshot with
        | error error =>
            right
            refine ⟨_, _, .tree error, ?_, ?_⟩
            · rw [planned_target]
              rfl
            · rw [planned output]
              rfl
        | ok register =>
            left
            refine ⟨_, contents_eq_ok_iff.2 ⟨own, register, each, registered, rfl⟩, ?_, ?_⟩
            · rw [planned_target, List.map_append]
              rfl
            · rw [planned output, List.map_append]
              rfl
      · right
        refine ⟨error, error, respelled, ?_, ?_⟩
        · rw [show routeFiles target snapshot [] snapshot.routes = .error error from
            refused target.output]
          rfl
        · rw [refused output]
          rfl

/-- Files below one output directory in two spellings are written alike. -/
theorem writeFiles_respelled {all : List (Location × Text)} (approach : Approach first disk)
    (approachOther : Approach second disk)
    (same : first.location disk.working = second.location disk.working)
    (names : ∀ content ∈ all, content.1 ≠ [] ∧ ∀ part ∈ content.1, IsName part)
    (fits : ∀ content ∈ all, (first.join (ofNames content.1)).Fits)
    (fitsOther : ∀ content ∈ all, (second.join (ofNames content.1)).Fits) :
    SameEnd first second (writeFiles (m := StateM Disk) (all.map (fileOf first)) disk)
      (writeFiles (m := StateM Disk) (all.map (fileOf second)) disk) := by
  induction all generalizing disk with
  | nil => exact .done () disk
  | cons content rest ih =>
      rcases names content List.mem_cons_self with ⟨nonempty, areNames⟩
      have alike := approach.writeFile_join approachOther same nonempty areNames
        (fits content List.mem_cons_self) (fitsOther content List.mem_cons_self) content.2
      have grown := Approach.grows_of_writeFile first disk nonempty areNames content.2
      rw [List.map_cons, List.map_cons, fileOf, fileOf, writeFiles_cons_run, writeFiles_cons_run,
        ← alike]
      generalize FileSystem.writeFile (m := StateM Disk) (first.join (ofNames content.1)) content.2
        disk = result at grown ⊢
      rcases result with ⟨answer, middle⟩
      cases answer with
      | error fault => exact .failed (.write content.1 fault) middle
      | ok _ =>
          refine ih (approach.of_grows grown) (approachOther.of_grows (same ▸ grown)) ?_
            (fun other member => names other (List.mem_cons_of_mem _ member))
            (fun other member => fits other (List.mem_cons_of_mem _ member))
            (fun other member => fitsOther other (List.mem_cons_of_mem _ member))
          rw [grown.working, same]

/-- A pass through two direct paths to one output directory comes to the same. -/
theorem run_respelled (direct : target.output.Direct disk) (directOther : output.Direct disk)
    (same : target.output.location disk.working = output.location disk.working)
    (fits : ∀ place ∈ snapshot.places, (target.output.join (ofNames place)).Fits)
    (fitsOther : ∀ place ∈ snapshot.places, (output.join (ofNames place)).Fits) :
    SameEnd target.output output (run (m := StateM Disk) target snapshot disk)
      (run (m := StateM Disk) { target with output } snapshot disk) := by
  rw [run_disk, run_disk]
  rcases plan_respelled snapshot direct.nonempty directOther.nonempty same with
    ⟨all, made, planned, plannedOther⟩ | ⟨error, other, respelled, refused, refusedOther⟩
  · have isPlace : ∀ content ∈ all, content.1 ∈ snapshot.places := by
      intro content member
      rw [← places_of_contents made]
      exact List.mem_map_of_mem member
    rw [planned, plannedOther]
    simp only [replace]
    rcases Disk.clear_respelled direct directOther same
        (Snapshot.fits_of_places direct.nonempty fits)
        (Snapshot.fits_of_places directOther.nonempty fitsOther) with
      ⟨cleared, clears, clearsOther, working, approach, approachOther⟩ | ⟨failed, failedOther⟩
    · have writes := writeFiles_respelled approach approachOther (by rw [working, same])
        (fun _ member => names_of_mem_contents made member)
        (fun content member => fits _ (isPlace content member))
        (fun content member => fitsOther _ (isPlace content member))
      rw [clears, clearsOther]
      simp only [List.length_map]
      generalize writeFiles (m := StateM Disk) (all.map (fileOf target.output)) cleared = result
        at writes ⊢
      generalize writeFiles (m := StateM Disk) (all.map (fileOf output)) cleared = resultOther
        at writes ⊢
      cases writes with
      | done _ after => exact .done _ after
      | failed respelled after => exact .failed respelled after
    · rw [failed, failedOther]
      exact .failed (.clear .notDirectory) disk
  · rw [refused, refusedOther]
    exact .failed respelled disk

/-! ## The plain spelling -/

theorem normalized_endsInName (direct : output.Direct disk)
    (named : ∀ name ∈ disk.working, IsName name) :
    (output.normalized disk.working).EndsInName where
  nonempty := List.cons_ne_nil _ _
  straight := Path.straight_ofLocation (Path.isName_of_mem_location named)
  last := by
    rw [Path.normalized, Path.steps_ofLocation (Path.isName_of_mem_location named)]
    rcases (List.eq_nil_or_concat _).resolve_left (Disk.location_ne_nil direct) with
      ⟨front, name, shape⟩
    rw [shape, List.concat_eq_append, List.map_append]
    exact ⟨front.map .name, name, rfl⟩

theorem direct_normalized (direct : output.Direct disk)
    (named : ∀ name ∈ disk.working, IsName name) :
    (output.normalized disk.working).Direct disk := by
  have ends := normalized_endsInName direct named
  exact .of_straight ends.straight ends.last (Disk.directory_above List.nil_prefix direct.start)

/-- The output directory is spelled so that it cannot be told from its plain spelling: the path is
direct, and no path to a file is too long in either spelling. -/
structure Faithful (target : Target) (snapshot : Snapshot) (disk : Disk) : Prop where
  direct : target.output.Direct disk
  named : ∀ name ∈ disk.working, IsName name
  fits : ∀ place ∈ snapshot.places, (target.output.join (ofNames place)).Fits
  fitsPlain : ∀ place ∈ snapshot.places,
    ((target.normalized disk.working).output.join (ofNames place)).Fits

/-- A pass through a direct path to its output directory comes to the same as one through the plain
path.  So a success leaves the output of the snapshot and no stale file, and a directory that cannot
be cleared stays as it was. -/
theorem run_normalized (faithful : Faithful target snapshot disk) :
    SameEnd target.output (target.normalized disk.working).output
        (run (m := StateM Disk) target snapshot disk)
        (run (m := StateM Disk) (target.normalized disk.working) snapshot disk) ∧
      (∀ summary after, run (m := StateM Disk) target snapshot disk = (.ok summary, after) →
        target.Holds snapshot after) ∧
      ∀ path fault after,
        run (m := StateM Disk) target snapshot disk = (.error (.clear path fault), after) →
          after = disk := by
  have direct := faithful.direct
  have isLocation : (target.normalized disk.working).output.location disk.working
      = target.output.location disk.working :=
    Path.location_ofLocation (Path.isName_of_mem_location faithful.named) _
  have ends := normalized_endsInName direct faithful.named
  have same : SameEnd target.output (target.normalized disk.working).output _
      (run (m := StateM Disk) (target.normalized disk.working) snapshot disk) :=
    run_respelled direct (direct_normalized direct faithful.named) isLocation.symm
      faithful.fits faithful.fitsPlain
  have ending : Outcome (target.normalized disk.working) snapshot disk _ :=
    outcome_of_endsInName snapshot disk fun _ => ends
  refine ⟨same, ?_, ?_⟩
  · intro summary after succeeded
    rw [succeeded] at same
    generalize run (m := StateM Disk) _ snapshot disk = result at same ending
    cases same with
    | done _ _ =>
        cases ending with
        | complete planned planning clears wrote laid =>
            refine (holds_of_laid planned.made clears laid).of_location ?_
            rw [laid.working, clears.working]
            exact isLocation
  · intro path fault after failed
    rw [failed] at same
    generalize run (m := StateM Disk) _ snapshot disk = result at same ending
    cases same with
    | failed respelled _ =>
        cases respelled with
        | clear _ =>
            cases ending with
            | refused _ => rfl
            | kept _ => rfl

end Pass

/-- The small project with a spelling that goes round by a directory. -/
def Target.roundabout : Target := .new ⟨['p']⟩ "d/.././/t/" ['m']

/-- The small project and that directory. -/
def Disk.roundabout : Disk := Disk.small.put [['p'], ['d']] .emptyDirectory

/-- Where the directory is there, the spelling makes no difference. -/
theorem Pass.run_normalized_roundabout :
    ∃ after, run (m := StateM Disk) .roundabout (.rootOnly ['a']) .roundabout
        = (.ok ⟨1, 3⟩, after) ∧
      SameEnd Target.roundabout.output
        (Target.roundabout.normalized Disk.roundabout.working).output (.ok ⟨1, 3⟩, after)
        (run (m := StateM Disk) (Target.roundabout.normalized Disk.roundabout.working)
          (.rootOnly ['a']) .roundabout) ∧
      Target.roundabout.Holds (.rootOnly ['a']) after := by
  have direct : Target.roundabout.output.Direct .roundabout :=
    { last := ⟨[.name ['p'], .name ['d'], .up, .here], ['t'], by decide +kernel⟩
      start := by decide +kernel
      outside := by decide +kernel
      way := by decide +kernel }
  have faithful : Faithful .roundabout (.rootOnly ['a']) .roundabout :=
    { direct
      named := fun _ none => absurd none List.not_mem_nil
      fits := by decide +kernel
      fitsPlain := by decide +kernel }
  have facts := run_normalized faithful
  have answer : (run (m := StateM Disk) .roundabout (.rootOnly ['a']) .roundabout).1
      = .ok ⟨1, 3⟩ := by decide +kernel
  generalize run (m := StateM Disk) .roundabout (.rootOnly ['a']) .roundabout = result
    at facts answer ⊢
  rcases result with ⟨_, after⟩
  cases answer
  exact ⟨after, rfl, facts.1, facts.2.1 _ _ rfl⟩

/-- The small project with a spelling by a directory that is missing. -/
def Target.detour : Target := .new ⟨['p']⟩ "n/../t" ['m']

/-- The small project with a spelling that ends in `.`. -/
def Target.dotted : Target := .new ⟨['p']⟩ "t/." ['m']

/-- Not every accepted spelling can do without.  By way of a missing directory a pass succeeds and
leaves a stale file where the new output is; with `.` at its end it deletes the old output and then
fails to clear.  In the plain spelling both passes replace the output. -/
theorem Pass.run_differs_by_spelling :
    Disk.small.textAt? [['p'], ['t'], ['o']] = some ['x'] ∧
      (Target.detour.firstCovered? [] = none ∧
        (run (m := StateM Disk) .detour (.rootOnly ['a']) .small).1 = .ok ⟨1, 3⟩ ∧
        (run (m := StateM Disk) .detour (.rootOnly ['a']) .small).2.textAt? [['p'], ['t'], ['o']]
          = some ['x'] ∧
        (run (m := StateM Disk) (Target.detour.normalized []) (.rootOnly ['a']) .small).1
          = .ok ⟨1, 3⟩ ∧
        (run (m := StateM Disk) (Target.detour.normalized []) (.rootOnly ['a']) .small).2.textAt?
          [['p'], ['t'], ['o']] = none) ∧
      Target.dotted.firstCovered? [] = none ∧
        (run (m := StateM Disk) .dotted (.rootOnly ['a']) .small).1
          = .error (.clear Target.dotted.output .invalidArgument) ∧
        (run (m := StateM Disk) .dotted (.rootOnly ['a']) .small).2.textAt? [['p'], ['t'], ['o']]
          = none ∧
        (run (m := StateM Disk) (Target.dotted.normalized []) (.rootOnly ['a']) .small).1
          = .ok ⟨1, 3⟩ := by decide +kernel

end TypedRoutes
