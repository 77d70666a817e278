import TypedRoutes.Proofs.Output.Writing

namespace TypedRoutes

/-!
# How a pass can end

On a disk without trouble a pass ends in one of four ways: it is refused, it cannot clear its
directory, it stops at a file, or it is complete.  Each way tells what is below the output directory
in the end and what the rest of the disk shows.
-/

namespace Pass

open TypedRoutes.Path (IsName)

variable {target : Target} {snapshot : Snapshot} {output : Path}
variable {all written : List (Location × Text)} {before cleared after : Disk}

/-! ## Texts below the output directory -/

theorem location_fileOf {content : Location × Text}
    (names : content.1 ≠ [] ∧ ∀ part ∈ content.1, IsName part) (working : Location) :
    (fileOf output content).1.location working = output.location working ++ content.1 :=
  Path.location_join_ofNames _ names.1 names.2 working

/-- Different places below a directory are different places. -/
theorem nodup_locations (output : Path)
    (names : ∀ content ∈ all, content.1 ≠ [] ∧ ∀ part ∈ content.1, IsName part)
    (nodup : (all.map (·.1)).Nodup) (working : Location) :
    ((all.map (fileOf output)).map fun file => file.1.location working).Nodup := by
  have places : (all.map (fileOf output)).map (fun file => file.1.location working) =
      (all.map (·.1)).map (output.location working ++ ·) := by
    rw [List.map_map, List.map_map]
    exact List.map_congr_left fun content member => location_fileOf (names content member) _
  rw [places]
  exact nodup.map (List.append_right_injective _)

/-- Files laid in a cleared directory are all the files in it. -/
theorem textAt?_of_laid
    (names : ∀ content ∈ written, content.1 ≠ [] ∧ ∀ part ∈ content.1, IsName part)
    (clears : Disk.Cleared (output.location before.working) before cleared)
    (laid : Disk.Laid (written.map (fileOf output)) cleared after) :
    (∀ below text, after.textAt? (output.location before.working ++ below) = some text ↔
        (below, text) ∈ written) ∧
      ∀ place, ¬ output.location before.working <+: place →
        after.textAt? place = before.textAt? place := by
  have laidTexts := laid.texts
  have laidElsewhere := laid.elsewhere
  rw [clears.working] at laidTexts laidElsewhere
  simp only [List.forall_mem_map] at laidTexts laidElsewhere
  refine ⟨fun below text => ⟨fun shown => ?_, fun member => ?_⟩, fun place outside => ?_⟩
  · by_cases isPlace : ∃ content ∈ written, content.1 = below
    · rcases isPlace with ⟨content, member, rfl⟩
      have shownContent := laidTexts content member
      rw [location_fileOf (names content member), shown, Option.some.injEq] at shownContent
      rw [shownContent]
      exact member
    · rw [laidElsewhere, Disk.textAt?, clears.gone] at shown
      · cases shown
      · intro content member same
        rw [location_fileOf (names content member)] at same
        exact isPlace ⟨content, member, (List.append_cancel_left same).symm⟩
  · have shownContent := laidTexts _ member
    rwa [location_fileOf (names _ member)] at shownContent
  · rw [laidElsewhere, Disk.textAt?, clears.elsewhere place outside]
    · rfl
    · rintro content member rfl
      rw [location_fileOf (names content member)] at outside
      exact outside (List.prefix_append _ _)

/-! ## The four ways -/

/-- The contents that a pass is going to write. -/
structure Planned (working : Location) (target : Target) (snapshot : Snapshot)
    (all : List (Location × Text)) : Prop where
  accepted : target.firstCovered? working = none
  made : contents target.frameworkModule snapshot = .ok all
  nodup : (all.map (·.1)).Nodup

theorem Planned.names {working : Location} (planned : Planned working target snapshot all) :
    ∀ content ∈ all, content.1 ≠ [] ∧ ∀ part ∈ content.1, IsName part :=
  fun _ member => names_of_mem_contents planned.made member

/-- How a pass ends, and what it leaves. -/
inductive Outcome (target : Target) (snapshot : Snapshot) (disk : Disk) :
    Except PassError Summary × Disk → Prop where
  /-- Nothing was planned, and nothing has happened. -/
  | refused {error : PassError} (refused : plan disk.working target snapshot = .error error) :
      Outcome target snapshot disk (.error error, disk)
  /-- The directory could not be cleared, and nothing has happened. -/
  | kept {all : List (Location × Text)} {fault : Fault}
      (planned : Planned disk.working target snapshot all) :
      Outcome target snapshot disk (.error (.clear target.output fault), disk)
  /-- One file could not be written, and those before it were. -/
  | stopped {written rest : List (Location × Text)} {content : Location × Text} {fault : Fault}
      {cleared after : Disk}
      (planned : Planned disk.working target snapshot (written ++ content :: rest))
      (clears : Disk.Cleared (target.output.location disk.working) disk cleared)
      (laid : Disk.Laid (written.map (fileOf target.output)) cleared after) :
      Outcome target snapshot disk
        (.error (.write (fileOf target.output content).1 fault), after)
  /-- All files were written. -/
  | complete {all : List (Location × Text)} {cleared after : Disk}
      (planned : Planned disk.working target snapshot all)
      (planning : plan disk.working target snapshot = .ok (all.map (fileOf target.output)))
      (clears : Disk.Cleared (target.output.location disk.working) disk cleared)
      (wrote : writeFiles (m := StateM Disk) (all.map (fileOf target.output)) cleared =
        (.ok (), after))
      (laid : Disk.Laid (all.map (fileOf target.output)) cleared after) :
      Outcome target snapshot disk (.ok ⟨snapshot.routes.length, all.length⟩, after)

/-- A pass on a disk ends in one of the four ways, if an accepted directory is an entry. -/
theorem outcome_of_endsInName (snapshot : Snapshot) (disk : Disk)
    (ends : target.firstCovered? disk.working = none → target.output.EndsInName) :
    Outcome target snapshot disk (run (m := StateM Disk) target snapshot disk) := by
  rw [run_disk]
  cases planning : plan disk.working target snapshot with
  | error error => exact .refused planning
  | ok files =>
      rcases plan_eq_ok planning with ⟨accepted, all, made, rfl, nodup⟩
      have planned : Planned disk.working target snapshot all := ⟨accepted, made, nodup⟩
      simp only [replace]
      rcases Disk.clear_cases (ends accepted) disk with ⟨cleared, run, clears⟩ | ⟨fault, run⟩
      · rw [run]
        have places := nodup_locations target.output planned.names nodup cleared.working
        rcases Disk.writeFiles_cases places with ⟨after, wrote, laid⟩ |
          ⟨written, path, text, rest, fault, after, eq, wrote, laid⟩
        · simp only [wrote, List.length_map]
          exact .complete planned planning clears wrote laid
        · rcases List.map_eq_append_iff.1 eq with ⟨first, more, rfl, rfl, isRest⟩
          rcases List.map_eq_cons_iff.1 isRest with ⟨content, later, rfl, isFile, -⟩
          simp only [wrote]
          rw [show path = (fileOf target.output content).1 by rw [isFile]]
          exact .stopped planned clears laid
      · rw [run]
        exact .kept planned

/-- A pass on a disk ends in one of the four ways. -/
theorem outcome (snapshot : Snapshot) (rooted : target.root.text ≠ []) (plain : target.output.IsPlain)
    (disk : Disk) : Outcome target snapshot disk (run (m := StateM Disk) target snapshot disk) :=
  outcome_of_endsInName snapshot disk (target.output_endsInName rooted plain)

end Pass
end TypedRoutes
