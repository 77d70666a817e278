import TypedRoutes.Proofs.Output.Built
import TypedRoutes.Proofs.Path.Reading
import Mathlib.Data.List.Find

namespace TypedRoutes

/-!
# What the output directory is kept away from

Clearing a directory deletes what leads to it or to something below it.  A pass asks which of its kept
paths is the first that clearing its output directory deletes, the root of the project before the
guarded paths, and it stops for that one.

A root that is not written is the working directory, but it resolves to nothing, so it is not seen
below an output directory that is written.  This is the only case in which the answer is not the right
one; it is then the answer for the guarded paths alone.
-/

namespace Path

/-- A joined path is not written only if neither part is. -/
theorem text_join_eq_nil_iff {base rest : Path} :
    (base.join rest).text = [] ↔ base.text = [] ∧ rest.text = [] := by
  rw [join]
  split
  case isTrue absolute =>
    have written : rest.text ≠ [] := by
      intro empty
      simp [isAbsolute, empty] at absolute
    exact iff_of_false written fun empty => written empty.2
  case isFalse =>
    split
    case isTrue => exact List.append_eq_nil_iff
    case isFalse between =>
      exact iff_of_false (by simp) fun empty => between (.inl empty.1)

end Path

namespace Target

variable {target : Target} {working : Location} {path : Path} {paths : List Path}
  {answer : Option Path}

/-! ## The first path that is deleted -/

/-- Clearing the output directory deletes what a path leads to. -/
def Deletes (target : Target) (working : Location) (path : Path) : Prop :=
  ∃ place below, Path.LeadsTo working target.output place ∧ Path.LeadsTo working path (place ++ below)

theorem deletes_iff :
    target.Deletes working path ↔ target.output.location working <+: path.location working := by
  unfold Deletes
  simp only [Path.leadsTo_iff]
  constructor
  · rintro ⟨place, below, rfl, leads⟩
    exact ⟨below, leads.symm⟩
  · rintro ⟨below, leads⟩
    exact ⟨_, below, rfl, leads.symm⟩

instance : DecidablePred (target.Deletes working) := fun _ => decidable_of_iff _ deletes_iff.symm

/-- The first of some paths that clearing the output directory deletes, if it deletes one of them. -/
inductive FirstDeleted (target : Target) (working : Location) : List Path → Option Path → Prop where
  | none {paths : List Path} (spared : ∀ path ∈ paths, ¬ target.Deletes working path) :
      FirstDeleted target working paths none
  | some {before after : List Path} {path : Path}
      (spared : ∀ earlier ∈ before, ¬ target.Deletes working earlier)
      (deleted : target.Deletes working path) :
      FirstDeleted target working (before ++ path :: after) (some path)

/-- Paths have one first that is deleted. -/
theorem firstDeleted_iff :
    target.FirstDeleted working paths answer ↔
      paths.find? (fun path => decide (target.Deletes working path)) = answer := by
  constructor
  · rintro (⟨spared⟩ | ⟨spared, deleted⟩)
    · rw [List.find?_eq_none]
      simpa using spared
    · rw [List.find?_eq_some_iff_append]
      exact ⟨decide_eq_true deleted, _, _, rfl, by simpa using spared⟩
  · intro found
    cases answer with
    | none => exact .none (by simpa [List.find?_eq_none] using found)
    | some path =>
        rcases List.find?_eq_some_iff_append.1 found with ⟨deleted, before, after, rfl, spared⟩
        exact .some (by simpa using spared) (of_decide_eq_true deleted)

/-- Either the first of some paths is deleted, or it does not matter. -/
theorem firstDeleted_cons_iff :
    target.FirstDeleted working (path :: paths) answer ↔
      if target.Deletes working path then answer = some path
      else target.FirstDeleted working paths answer := by
  simp only [firstDeleted_iff, List.find?_cons]
  by_cases deleted : target.Deletes working path
  · simp [deleted, eq_comm]
  · simp [deleted]

/-! ## What the check finds -/

/-- Either the check finds the root, or the root does not matter to it. -/
theorem firstCovered?_eq (target : Target) (working : Location) :
    target.firstCovered? working =
      if Path.covers (target.output.resolve? working) (target.root.resolve? working) then
        some target.root
      else target.guarded.find? fun path =>
        Path.covers (target.output.resolve? working) (path.resolve? working) := by
  rw [firstCovered?, kept, List.find?_cons]
  split
  case h_1 covered => rw [if_pos covered]
  case h_2 apart => rw [if_neg (by simp [apart])]

section Written

variable (outputWritten : target.output.text ≠ [])

include outputWritten

theorem covers_eq_deletes (written : path.text ≠ []) :
    Path.covers (target.output.resolve? working) (path.resolve? working) =
      decide (target.Deletes working path) := by
  rw [Bool.eq_iff_iff, decide_eq_true_iff, deletes_iff, Path.covers_iff]
  simp [outputWritten, written]

/-- Among written paths the check finds the first that is deleted. -/
theorem firstDeleted_of_written (written : ∀ path ∈ paths, path.text ≠ []) :
    target.FirstDeleted working paths (paths.find? fun path =>
      Path.covers (target.output.resolve? working) (path.resolve? working)) :=
  firstDeleted_iff.2 (List.find?_congr fun path member =>
    covers_eq_deletes outputWritten (written path member)).symm

/-- A root that is not written is passed over. -/
theorem firstDeleted_of_unwritten (rootEmpty : target.root.text = [])
    (written : ∀ path ∈ target.guarded, path.text ≠ []) :
    target.FirstDeleted working target.guarded (target.firstCovered? working) := by
  have unseen : ¬ Path.covers (target.output.resolve? working) (target.root.resolve? working) := by
    rw [Path.covers_iff]
    simp [outputWritten, rootEmpty]
  rw [firstCovered?_eq, if_neg unseen]
  exact firstDeleted_of_written outputWritten written

end Written

/-- The project is in danger and the check does not see it: its root is not written, and the output
directory is written and holds the working directory. -/
def Overlooks (target : Target) (working : Location) : Prop :=
  target.root.text = [] ∧ target.output.text ≠ [] ∧ target.Deletes working target.root

/-- Where neither the root nor the output directory is written, both are the working directory. -/
theorem firstDeleted_kept_of_nothing_written (rootEmpty : target.root.text = [])
    (outputEmpty : target.output.text = []) :
    target.FirstDeleted working target.kept (target.firstCovered? working) := by
  have same : target.root.location working = target.output.location working :=
    (Path.location_of_empty rootEmpty working).trans (Path.location_of_empty outputEmpty working).symm
  have deleted : target.Deletes working target.root := deletes_iff.2 (same ▸ List.prefix_rfl)
  rw [kept, firstDeleted_cons_iff, if_pos deleted, firstCovered?_eq,
    if_pos (Path.covers_iff.2 (.inl outputEmpty))]

/-- A root that is passed over had better not be deleted: the answer is a guarded path, if it is one. -/
theorem firstDeleted_kept_iff_of_unwritten (outputWritten : target.output.text ≠ [])
    (rootEmpty : target.root.text = []) (written : ∀ path ∈ target.guarded, path.text ≠ []) :
    target.FirstDeleted working target.kept (target.firstCovered? working) ↔
      ¬ target.Deletes working target.root := by
  have found : target.FirstDeleted working target.guarded (target.firstCovered? working) :=
    firstDeleted_of_unwritten outputWritten rootEmpty written
  rw [kept, firstDeleted_cons_iff]
  by_cases deleted : target.Deletes working target.root
  · rw [if_pos deleted]
    refine iff_of_false (fun isRoot => ?_) (not_not_intro deleted)
    rw [firstDeleted_iff, isRoot] at found
    exact written _ (List.mem_of_find?_eq_some found) rootEmpty
  · rw [if_neg deleted]
    exact iff_of_true found deleted

/-- The answer is right unless the root is overlooked. -/
theorem firstDeleted_kept_iff (outputWritten : target.root.text ≠ [] → target.output.text ≠ [])
    (written : ∀ path ∈ target.guarded, path.text ≠ []) :
    target.FirstDeleted working target.kept (target.firstCovered? working) ↔
      ¬ target.Overlooks working := by
  unfold Overlooks
  by_cases rootEmpty : target.root.text = []
  · by_cases outputEmpty : target.output.text = []
    · exact iff_of_true (firstDeleted_kept_of_nothing_written rootEmpty outputEmpty)
        fun overlooks => overlooks.2.1 outputEmpty
    · rw [firstDeleted_kept_iff_of_unwritten outputEmpty rootEmpty written]
      simp [rootEmpty, outputEmpty]
  · have allWritten : ∀ path ∈ target.kept, path.text ≠ [] :=
      List.forall_mem_cons.2 ⟨rootEmpty, written⟩
    exact iff_of_true (firstDeleted_of_written (outputWritten rootEmpty) allWritten)
      fun overlooks => rootEmpty overlooks.1

/-- Guarded paths stand in the order in which they are added. -/
theorem foldl_guarding (target : Target) (paths : List Path) :
    paths.foldl guarding target = { target with guarded := target.guarded ++ paths } := by
  induction paths generalizing target with
  | nil => simp
  | cons path rest ih => rw [List.foldl_cons, ih, guarding, List.append_assoc, List.singleton_append]

end Target

/-! ## What a pass makes of it -/

namespace Pass

variable {target : Target} {snapshot : Snapshot}

/-- Files of routes are refused for the tree or for a place that is taken. -/
theorem routeFiles_refused {owners : List (Text × Text)} {routes : List Route} {error : PassError}
    (refused : routeFiles target snapshot owners routes = .error error) :
    (∃ other, error = .tree other) ∨ ∃ place first second, error = .placeTaken place first second := by
  induction routes generalizing owners with
  | nil => cases refused
  | cons route rest ih =>
      unfold routeFiles at refused
      simp only at refused
      split at refused
      · cases refused
        exact .inr ⟨_, _, _, rfl⟩
      · split at refused
        · cases refused
          exact .inl ⟨_, rfl⟩
        · generalize plannedRest : routeFiles target snapshot _ rest = result at refused
          cases result with
          | ok files => cases refused
          | error other =>
              cases refused
              exact ih plannedRest

theorem outputFiles_refused {error : PassError}
    (refused : outputFiles target snapshot = .error error) :
    (∃ other, error = .tree other) ∨ ∃ place first second, error = .placeTaken place first second := by
  unfold outputFiles at refused
  generalize planned : routeFiles target snapshot [] snapshot.routes = own at refused
  cases own with
  | error other =>
      cases refused
      exact routeFiles_refused planned
  | ok files =>
      unfold sharedFiles at refused
      cases registered : Declaration.register target.frameworkModule snapshot with
      | error other =>
          rw [registered] at refused
          cases refused
          exact .inl ⟨other, rfl⟩
      | ok register =>
          rw [registered] at refused
          cases refused

/-- A pass stops for the path that its check finds and for no other, and then it changes nothing. -/
theorem run_unsafeOutput_iff (target : Target) (snapshot : Snapshot) (start : FaultyDisk) (path : Path) :
    (run (m := StateM FaultyDisk) target snapshot start).1 =
        .error (.unsafeOutput target.output path) ↔
      target.firstCovered? start.disk.working = some path := by
  rw [run_faulty, plan]
  cases covered : target.firstCovered? start.disk.working with
  | some other => simp
  | none =>
      refine iff_of_false ?_ nofun
      cases planned : outputFiles target snapshot with
      | error error =>
          intro failed
          cases failed
          rcases outputFiles_refused planned with ⟨_, other⟩ | ⟨_, _, _, other⟩
          · cases other
          · cases other
      | ok files =>
          intro failed
          rcases replace_eq_error (Prod.ext failed rfl) with ⟨_, other⟩ | ⟨_, _, other⟩
          · cases other
          · cases other

theorem run_of_covered {start : FaultyDisk} {path : Path}
    (covered : target.firstCovered? start.disk.working = some path) (snapshot : Snapshot) :
    run (m := StateM FaultyDisk) target snapshot start =
      (.error (.unsafeOutput target.output path), start) := by
  rw [run_faulty, plan, covered]

end Pass

namespace Target

/-- The check of a target that guards written paths answers with the first kept path that clearing the
output directory deletes, unless it overlooks the root; then it answers with the first guarded one.  A
pass stops exactly for this answer, and it changes nothing then. -/
theorem firstCovered?_first_deleted (root output : Path) (frameworkModule : Text) {guarded : List Path}
    (written : ∀ path ∈ guarded, path.text ≠ []) (snapshot : Snapshot) (start : FaultyDisk) :
    let target : Target := guarded.foldl guarding (.new root output frameworkModule)
    let working := start.disk.working
    let answer := target.firstCovered? working
    let result := Pass.run (m := StateM FaultyDisk) target snapshot start
    (target.FirstDeleted working (root :: guarded) answer ↔ ¬ target.Overlooks working) ∧
      (target.Overlooks working → target.FirstDeleted working guarded answer) ∧
      ∀ path, (result.1 = .error (.unsafeOutput target.output path) ↔ answer = some path) ∧
        (answer = some path → result.2 = start) := by
  intro target working answer result
  have shape : target = { new root output frameworkModule with guarded } := foldl_guarding _ _
  have outputWritten : root.text ≠ [] → target.output.text ≠ [] := by
    intro rootWritten empty
    rw [shape] at empty
    exact rootWritten (Path.text_join_eq_nil_iff.1 empty).1
  have isGuarded : target.guarded = guarded := by rw [shape]
  have isRoot : target.root = root := by rw [shape]; rfl
  rw [← isGuarded] at written ⊢
  rw [← isRoot] at outputWritten ⊢
  refine ⟨firstDeleted_kept_iff outputWritten written, fun overlooks => ?_, fun path => ⟨?_, ?_⟩⟩
  · exact firstDeleted_of_unwritten overlooks.2.1 overlooks.1 written
  · exact Pass.run_unsafeOutput_iff target snapshot start path
  · intro covered
    exact congrArg Prod.snd (Pass.run_of_covered covered snapshot)

/-- The output directory of the project `p` comes to be `p/c` by a roundabout way.  A guarded path beside
it is fine, and the first one in it is named. -/
theorem firstCovered?_first_deleted_roundabout :
    let guarded : List Path := ["p/d", "p//./c/../c/r", "p/c"]
    let target : Target := guarded.foldl guarding (.new "./p/" "t/../../p/c/." "m")
    (∀ path ∈ guarded, path.text ≠ []) ∧ ¬ target.Overlooks [] ∧
      target.FirstDeleted [] ("./p/" :: guarded) (some "p//./c/../c/r") ∧
      Pass.run (m := StateM FaultyDisk) target (.rootOnly ['a']) ⟨.small, []⟩ =
        (.error (.unsafeOutput "./p/t/../../p/c/." "p//./c/../c/r"), ⟨.small, []⟩) := by
  intro guarded target
  have written : ∀ path ∈ guarded, path.text ≠ [] := by decide
  have seen : ¬ target.Overlooks [] := fun overlooks => absurd overlooks.1 (by decide)
  have named : target.firstCovered? [] = some "p//./c/../c/r" := by decide +kernel
  rcases firstCovered?_first_deleted "./p/" "t/../../p/c/." "m" written (.rootOnly ['a'])
    ⟨.small, []⟩ with ⟨rightly, -, stops⟩
  rcases stops "p//./c/../c/r" with ⟨stops_iff, unchanged⟩
  refine ⟨written, seen, ?_, Prod.ext (stops_iff.2 named) (unchanged named)⟩
  have first := rightly.2 seen
  rwa [show Disk.small.working = [] from rfl, named] at first

/-- A root that is not written, and the directory in which it stands as output directory.  The check
finds nothing, and the pass deletes the route config. -/
theorem firstCovered?_overlooks_root :
    let target : Target := .new ⟨[]⟩ "." "m"
    let disk : Disk := { Disk.small with working := [['p']] }
    target.Deletes disk.working target.root ∧ target.firstCovered? disk.working = none ∧
      ¬ target.FirstDeleted disk.working [target.root] (target.firstCovered? disk.working) ∧
      disk.textAt? [['p'], ['c']] = some ['y'] ∧
      (Pass.run (m := StateM FaultyDisk) target (.rootOnly ['a']) ⟨disk, []⟩).2.disk.textAt?
        [['p'], ['c']] = none := by
  intro target disk
  have deleted : target.Deletes disk.working target.root := by decide +kernel
  have found : target.firstCovered? disk.working = none := by decide +kernel
  refine ⟨deleted, found, fun first => ?_, by decide +kernel, by decide +kernel⟩
  rw [found, firstDeleted_cons_iff, if_pos deleted] at first
  cases first

end Target
end TypedRoutes
