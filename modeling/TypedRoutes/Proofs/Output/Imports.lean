import TypedRoutes.Proofs.Declaration.Lines
import TypedRoutes.Proofs.Declaration.Specifier
import TypedRoutes.Proofs.Output.Outcome
import TypedRoutes.Proofs.Route.Ascent

namespace TypedRoutes

/-!
# Imports lead to the files of the ancestors

After a pass that succeeds, the declaration file of every route imports the declarations of exactly its
ancestors, the root first, and every import leads to the file that the same pass made for that
ancestor.  Nothing is assumed of the target, and nothing of the tree: that the pass succeeded
already says that no two routes share a place and that every route has a lineage.
-/

/-- A route's declaration file is on the disk, with the text that was made for it. -/
structure Target.Shows (target : Target) (snapshot : Snapshot) (disk : Disk) (route : Route)
    (text : Text) : Prop where
  made : Declaration.routeFile target.frameworkModule snapshot route = .ok text
  shown : disk.textAt? (target.output.location disk.working ++
    Placement.components snapshot.appDirectory route.id) = some text

/-- The file of a route imports the files of its ancestors, one by one and in order. -/
structure Target.ImportsAncestors (target : Target) (snapshot : Snapshot) (disk : Disk)
    (route : Route) (ancestors : List Route) (specifiers : List Text) (file : Text) : Prop where
  lineage : snapshot.tree.lineage route.id = .ok (ancestors ++ [route])
  shows : target.Shows snapshot disk route file
  /-- There is one import for every specifier, which binds the name of its position. -/
  imports : Text.linesFrom Declaration.importBeginning file = Declaration.importLines 0 specifiers
  /-- The names stand in the tuple of the parents in the same order. -/
  parents : Text.linesFrom Declaration.parentsBeginning file =
    [Declaration.parentsLine ancestors.length]
  /-- Each specifier leads from the directory of the file to the file of its ancestor, without
  leaving the output directory. -/
  resolve : List.Forall₂ (fun ancestor specifier =>
    Specifier.resolve? (Placement.components snapshot.appDirectory route.id).dropLast specifier =
        some (Placement.components snapshot.appDirectory ancestor.id) ∧
      ∃ text, target.Shows snapshot disk ancestor text) ancestors specifiers

namespace Pass

variable {target : Target} {snapshot : Snapshot} {summary : Summary} {disk after : Disk}

/-- A pass that succeeds shows all contents below its output directory, and no two in one place. -/
theorem shows_contents_of_run
    (succeeded : run (m := StateM Disk) target snapshot disk = (.ok summary, after)) :
    ∃ all, contents target.frameworkModule snapshot = .ok all ∧ (all.map (·.1)).Nodup ∧
      ∀ content ∈ all,
        after.textAt? (target.output.location after.working ++ content.1) = some content.2 := by
  rw [run_disk] at succeeded
  cases planned : plan disk.working target snapshot with
  | error error =>
      rw [planned] at succeeded
      cases succeeded
  | ok files =>
      rw [planned] at succeeded
      rcases plan_eq_ok planned with ⟨accepted, all, made, rfl, nodup⟩
      rcases replace_eq_ok succeeded with ⟨-, cleared, clears, wrote⟩
      have nonempty := (target.outside_of_accepted accepted List.mem_cons_self).1
      have names : ∀ content ∈ all, content.1 ≠ [] ∧ ∀ part ∈ content.1, Path.IsName part :=
        fun _ member => names_of_mem_contents made member
      refine ⟨all, made, nodup, fun content member => ?_⟩
      rcases Disk.writeFiles_cases (nodup_locations target.output names nodup cleared.working) with
        ⟨last, run, laid⟩ | ⟨_, _, _, _, _, _, _, failed, -⟩
      · cases run.symm.trans wrote
        have shown := laid.texts _ (List.mem_map_of_mem member)
        rwa [location_fileOf (names content member), ← laid.working] at shown
      · cases failed.symm.trans wrote

/-- A pass that succeeds shows the declaration file of every route. -/
theorem shows_of_run
    (succeeded : run (m := StateM Disk) target snapshot disk = (.ok summary, after)) {route : Route}
    (declared : route ∈ snapshot.routes) : ∃ text, target.Shows snapshot after route text := by
  rcases shows_contents_of_run succeeded with ⟨all, made, -, shows⟩
  rcases exists_routeFile_of_contents made declared with ⟨text, makes⟩
  exact ⟨text, makes,
    shows _ ((mem_contents_iff made).2 (.inl ⟨route, declared, rfl, makes⟩))⟩

/-- Where a pass succeeds, the file of a declared route imports those of its ancestors. -/
theorem importsAncestors_of_run
    (succeeded : run (m := StateM Disk) target snapshot disk = (.ok summary, after)) {route : Route}
    (declared : route ∈ snapshot.routes) :
    ∃ ancestors specifiers file,
      target.ImportsAncestors snapshot after route ancestors specifiers file := by
  rcases shows_of_run succeeded declared with ⟨file, shows⟩
  rcases map_eq_ok_iff.1 shows.made with ⟨lineage, isLineage, rfl⟩
  have ascent := (RouteTree.lineage_eq_ok_iff declared).1 isLineage
  rcases RouteTree.exists_ancestors declared isLineage with ⟨ancestors, rfl⟩
  refine ⟨ancestors, Declaration.parentSpecifiers snapshot route ancestors, _, isLineage,
    shows, ?_, ?_, ?_⟩
  · rw [Declaration.linesFrom_import_routeFileOf, List.dropLast_concat]
  · rw [Declaration.linesFrom_parents_routeFileOf, List.dropLast_concat]
  · rw [Declaration.parentSpecifiers, List.forall₂_map_right_iff, List.forall₂_same]
    intro ancestor member
    have passed := ascent.declared declared ancestor (by simp [member])
    exact ⟨Placement.resolve?_relative_components _ _ _, shows_of_run succeeded passed⟩

/-- Whatever the target, the snapshot, the disk and its troubles are: after a pass that succeeds, no
file's import dangles, and none leads to another file than that of the ancestor it stands for. -/
theorem run_importsAncestors {start finish : FaultyDisk}
    (succeeded : run (m := StateM FaultyDisk) target snapshot start = (.ok summary, finish)) :
    ∀ route ∈ snapshot.routes, ∃ ancestors specifiers file,
      target.ImportsAncestors snapshot finish.disk route ancestors specifiers file := by
  intro route declared
  have healthy := sound_run target snapshot start summary (by rw [succeeded])
  rw [succeeded] at healthy
  exact importsAncestors_of_run healthy declared

end Pass

/-- Three routes, one below the other, the deepest declared first. -/
def Snapshot.nested : Snapshot :=
  { appDirectory := ['a'], mode := [], future := {},
    tree := ⟨['r'], [{ id := ['b', '/', 'c'] }, { id := ['b'] }, { id := ['r'] }], _, _, rfl, rfl⟩ }

/-- In the small project, the deepest of three routes imports the two above it. -/
theorem Pass.run_importsAncestors_nested :
    ∃ finish, run (m := StateM FaultyDisk) .small .nested ⟨.small, []⟩ = (.ok ⟨3, 5⟩, finish) ∧
      ∀ route ∈ Snapshot.nested.routes, ∃ ancestors specifiers file,
        Target.small.ImportsAncestors .nested finish.disk route ancestors specifiers file := by
  have answer : (run (m := StateM FaultyDisk) .small .nested ⟨.small, []⟩).1 = .ok ⟨3, 5⟩ := by
    rfl
  exact ⟨_, Prod.ext answer rfl, run_importsAncestors (Prod.ext answer rfl)⟩

end TypedRoutes
