import Mathlib.Data.List.Induction
import TypedRoutes.Output.Pass
import TypedRoutes.Proofs.Source.Loading
import TypedRoutes.Proofs.Watch.Changes

namespace TypedRoutes

/-!
# What a source has seen

Others edit the route config as they like, and a source is asked for its configuration and for reloads
in any order.  Both load the file as it is by then, both write the same memory, and only a load that
succeeds does.  So a reload is told apart from the last snapshot that any of them has loaded, and
where it reports no change, that snapshot generates the same files.
-/

namespace ConfigSource

open FaultyDisk

/-! ## Histories -/

/-- What happens to a source and its disk. -/
inductive Act where
  /-- Others leave the disk like this. -/
  | edit (disk : FaultyDisk)
  | get
  | reload

def Act.edited? : Act → Option FaultyDisk
  | .edit disk => some disk
  | .get => none
  | .reload => none

/-- What comes of an act. -/
inductive Event where
  | edited
  | got (answer : Except LoadError Snapshot)
  | reloaded (change : Change)

/-- The snapshot that an event has brought. -/
def Event.snapshot? : Event → Option Snapshot
  | .edited => none
  | .got answer => answer.toOption
  | .reloaded change => change.result.toOption

/-- What comes of one act, and the source and the disk after it. -/
def act : ConfigSource × FaultyDisk → Act → Event × ConfigSource × FaultyDisk
  | (source, _), .edit disk => (.edited, source, disk)
  | (source, disk), .get =>
      let result := source.get (m := StateM FaultyDisk) disk
      (.got result.1.1, result.1.2, result.2)
  | (source, disk), .reload =>
      let result := source.reload (m := StateM FaultyDisk) disk
      (.reloaded result.1.1, result.1.2, result.2)

/-- What comes of the acts of a history, in order. -/
def trace : ConfigSource × FaultyDisk → List Act → List Event
  | _, [] => []
  | now, first :: rest => (act now first).1 :: trace (act now first).2 rest

/-- The source and the disk after the acts of a history. -/
def after (now : ConfigSource × FaultyDisk) (acts : List Act) : ConfigSource × FaultyDisk :=
  acts.foldl (fun now next => (act now next).2) now

variable {source : ConfigSource} {disk : FaultyDisk}

theorem trace_concat (now : ConfigSource × FaultyDisk) (acts : List Act) (last : Act) :
    trace now (acts ++ [last]) = trace now acts ++ [(act (after now acts) last).1] := by
  induction acts generalizing now with
  | nil => rfl
  | cons first rest ih => exact congrArg _ (ih _)

theorem after_concat (now : ConfigSource × FaultyDisk) (acts : List Act) (last : Act) :
    after now (acts ++ [last]) = (act (after now acts) last).2 := by
  rw [after, List.foldl_append]
  rfl

/-! ## One act -/

theorem path_remember (source : ConfigSource) (loaded : Except LoadError Snapshot) :
    (source.remember loaded).path = source.path ∧ (source.remember loaded).mode = source.mode := by
  cases loaded <;> exact ⟨rfl, rfl⟩

theorem reload_run (source : ConfigSource) (disk : FaultyDisk) :
    source.reload (m := StateM FaultyDisk) disk =
      ((source.classify (Snapshot.load (m := StateM FaultyDisk) source.path source.mode disk).1,
          source.remember (Snapshot.load (m := StateM FaultyDisk) source.path source.mode disk).1),
        (Snapshot.load (m := StateM FaultyDisk) source.path source.mode disk).2) := rfl

theorem result_classify (source : ConfigSource) (loaded : Except LoadError Snapshot) :
    (source.classify loaded).result.toOption = loaded.toOption := by
  cases loaded with
  | error error => rfl
  | ok new => cases remembered : source.last <;> simp only [classify, remembered] <;> rfl

theorem last_remember_eq (source : ConfigSource) (loaded : Except LoadError Snapshot) :
    (source.remember loaded).last = loaded.toOption.or source.last := by
  cases loaded <;> rfl

theorem path_act (now : ConfigSource × FaultyDisk) (next : Act) :
    (act now next).2.1.path = now.1.path ∧ (act now next).2.1.mode = now.1.mode := by
  cases next with
  | edit disk => exact ⟨rfl, rfl⟩
  | get => exact path_remember _ _
  | reload => exact path_remember _ _

/-- An act writes the memory exactly if it brings a snapshot. -/
theorem last_act (now : ConfigSource × FaultyDisk) (next : Act) :
    (act now next).2.1.last = (act now next).1.snapshot?.or now.1.last := by
  cases next with
  | edit disk => rfl
  | get => exact last_remember_eq _ _
  | reload =>
      have sameSnapshot : (act now .reload).1.snapshot? =
          (Snapshot.load (m := StateM FaultyDisk) now.1.path now.1.mode now.2).1.toOption :=
        result_classify _ _
      rw [sameSnapshot]
      exact last_remember_eq _ _

/-- Only an edit changes the disk. -/
theorem disk_act (now : ConfigSource × FaultyDisk) (next : Act) :
    (act now next).2.2.disk = (next.edited?.getD now.2).disk := by
  cases next with
  | edit disk => rfl
  | get => exact Snapshot.onlyReads_load _ _ _
  | reload => exact Snapshot.onlyReads_load _ _ _

/-! ## Whole histories -/

/-- A source watches the same file for the same mode all along. -/
theorem path_after (now : ConfigSource × FaultyDisk) (acts : List Act) :
    (after now acts).1.path = now.1.path ∧ (after now acts).1.mode = now.1.mode := by
  induction acts using List.reverseRecOn with
  | nil => exact ⟨rfl, rfl⟩
  | append_singleton acts last ih =>
      rw [after_concat]
      have same := path_act (after now acts) last
      exact ⟨same.1.trans ih.1, same.2.trans ih.2⟩

/-- What a source remembers is the last snapshot that any act has brought. -/
theorem last_after (now : ConfigSource × FaultyDisk) (acts : List Act) :
    (after now acts).1.last = ((trace now acts).filterMap Event.snapshot?).getLast?.or now.1.last := by
  induction acts using List.reverseRecOn with
  | nil => rfl
  | append_singleton acts last ih =>
      rw [after_concat, last_act, ih, trace_concat, List.filterMap_append]
      cases brought : (act (after now acts) last).1.snapshot? <;> simp [brought]

theorem disk_after (now : ConfigSource × FaultyDisk) (acts : List Act) :
    (after now acts).2.disk = ((acts.filterMap Act.edited?).getLast?.getD now.2).disk := by
  induction acts using List.reverseRecOn with
  | nil => rfl
  | append_singleton acts last ih =>
      rw [after_concat, disk_act, List.filterMap_append]
      cases edited : last.edited? <;> simp [edited, ih]

/-! ## Reloads -/

/-- What a reload reports of a load, where `earlier` are the snapshots that have been loaded before,
in order. -/
structure Reports (loaded : Except LoadError Snapshot) (earlier : List Snapshot) (change : Change) :
    Prop where
  failed_iff : (∃ message, change.result = .error message) ↔ ∃ error, loaded = .error error
  failed : ∀ {error}, loaded = .error error →
    change.result = .error error.message ∧ change.generalChanged = false ∧
      change.routesChanged = false
  succeeded : ∀ {new}, loaded = .ok new → change.result = .ok new
  first : ∀ {new}, loaded = .ok new → earlier = [] →
    change.generalChanged = true ∧ change.routesChanged = true
  general_iff : ∀ {new old}, loaded = .ok new → earlier.getLast? = some old →
    (change.generalChanged = true ↔ old.appDirectory ≠ new.appDirectory ∨ old.mode ≠ new.mode ∨
      old.future ≠ new.future)
  routes_iff : ∀ {new old}, loaded = .ok new → earlier.getLast? = some old →
    (change.routesChanged = true ↔
      old.tree.rootId ≠ new.tree.rootId ∨ old.tree.routes ≠ new.tree.routes)
  /-- Where nothing has changed, both snapshots generate the same files with the same texts, and a
  pass of one does what a pass of the other does. -/
  unchanged : ∀ {new old}, loaded = .ok new → earlier.getLast? = some old →
    change.generalChanged = false → change.routesChanged = false → ∀ target,
      Pass.outputFiles target old = Pass.outputFiles target new ∧
        Pass.run (m := StateM FaultyDisk) target old = Pass.run (m := StateM FaultyDisk) target new

theorem routesDiffer_eq_true_iff (old new : Snapshot) :
    old.routesDiffer new = true ↔
      old.tree.rootId ≠ new.tree.rootId ∨ old.tree.routes ≠ new.tree.routes := by
  simp [Snapshot.routesDiffer, RouteTree.eq_iff, Decidable.or_iff_not_imp_left]

theorem generalDiffer_eq_true_iff (old new : Snapshot) :
    old.generalDiffer new = true ↔ old.appDirectory ≠ new.appDirectory ∨ old.mode ≠ new.mode ∨
      old.future ≠ new.future := by
  simp [Snapshot.generalDiffer, or_assoc]

/-- A source that remembers no snapshot knows of no earlier one. -/
theorem reports_first {earlier : List Snapshot} (none : earlier.getLast? = none) (new : Snapshot) :
    Reports (.ok new) earlier (.first new) where
  failed_iff := by simp [Change.first]
  failed fails := by cases fails
  succeeded same := by
    cases same
    rfl
  first _ _ := ⟨rfl, rfl⟩
  general_iff _ last := by
    rw [none] at last
    cases last
  routes_iff _ last := by
    rw [none] at last
    cases last
  unchanged _ last := by
    rw [none] at last
    cases last

theorem reports_between {earlier : List Snapshot} {old : Snapshot}
    (last : earlier.getLast? = some old) (new : Snapshot) :
    Reports (.ok new) earlier (.between old new) where
  failed_iff := by simp [Change.between]
  failed fails := by cases fails
  succeeded same := by
    cases same
    rfl
  first _ empty := by
    rw [empty] at last
    cases last
  general_iff loads isLast := by
    cases loads
    cases last.symm.trans isLast
    exact generalDiffer_eq_true_iff _ _
  routes_iff loads isLast := by
    cases loads
    cases last.symm.trans isLast
    exact routesDiffer_eq_true_iff _ _
  unchanged loads isLast general routes target := by
    cases loads
    cases last.symm.trans isLast
    -- Equal declarations have equal positions and links, so nothing that is read from these differs.
    rw [Snapshot.eq_of_not_differ general routes]
    exact ⟨rfl, rfl⟩

theorem reports_failed (earlier : List Snapshot) (error : LoadError) :
    Reports (.error error) earlier (.failed error.message) where
  failed_iff := ⟨fun _ => ⟨error, rfl⟩, fun _ => ⟨error.message, rfl⟩⟩
  failed same := by
    cases same
    exact ⟨rfl, rfl, rfl⟩
  succeeded loads := by cases loads
  first loads := by cases loads
  general_iff loads := by cases loads
  routes_iff loads := by cases loads
  unchanged loads := by cases loads

theorem reports_classify {earlier : List Snapshot} (last : source.last = earlier.getLast?)
    (loaded : Except LoadError Snapshot) : Reports loaded earlier (source.classify loaded) := by
  cases loaded with
  | error error => exact reports_failed earlier error
  | ok new =>
      cases remembered : source.last with
      | none =>
          rw [classify, remembered]
          exact reports_first (last.symm.trans remembered) new
      | some old =>
          rw [classify, remembered]
          exact reports_between (last.symm.trans remembered) new

/-- What a source does that is asked to reload after a history. -/
structure Reloads (path : Path) (mode : Text) (start : FaultyDisk) (acts : List Act)
    (now : ConfigSource × FaultyDisk) (answer : Change × ConfigSource) : Prop where
  /-- The file is loaded as the last edit has left it. -/
  disk : now.2.disk = ((acts.filterMap Act.edited?).getLast?.getD start).disk
  reports : Reports (Snapshot.load (m := StateM FaultyDisk) path mode now.2).1
    ((trace (⟨path, mode, none⟩, start) acts).filterMap Event.snapshot?) answer.1
  /-- A reload that fails leaves what was remembered, and one that succeeds replaces it. -/
  memory : answer.2 = ⟨path, mode,
    (Snapshot.load (m := StateM FaultyDisk) path mode now.2).1.toOption.or now.1.last⟩

/-- Every reload is told apart from the last snapshot that was loaded before it, however often loading
has failed since. -/
theorem reloads_of_history (path : Path) (mode : Text) (start : FaultyDisk) (acts : List Act) :
    Reloads path mode start acts (after (⟨path, mode, none⟩, start) acts)
      ((after (⟨path, mode, none⟩, start) acts).1.reload (m := StateM FaultyDisk)
        (after (⟨path, mode, none⟩, start) acts).2).1 := by
  have same := path_after (⟨path, mode, none⟩, start) acts
  have last := last_after (⟨path, mode, none⟩, start) acts
  rw [Option.or_none] at last
  have left := disk_after (⟨path, mode, none⟩, start) acts
  generalize after (⟨path, mode, none⟩, start) acts = now at same last left ⊢
  rcases now with ⟨⟨path', mode', remembered⟩, disk⟩
  rcases same with ⟨rfl, rfl⟩
  refine ⟨left, reports_classify last _, ?_⟩
  rw [reload_run]
  cases (Snapshot.load (m := StateM FaultyDisk) _ _ disk).1 <;> rfl

end ConfigSource
end TypedRoutes
