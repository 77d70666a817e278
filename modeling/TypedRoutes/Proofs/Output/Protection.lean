import TypedRoutes.Proofs.Output.Clearing
import TypedRoutes.Proofs.Output.Plan

namespace TypedRoutes

/-!
# A pass never destroys the project

Whatever a pass asks of a disk, and whatever trouble it meets, outside of the output directory it can
only make directories where nothing was.  The guard refuses an output directory that is the project,
the route config or the settings file, or lies above one of them; so they survive every pass, for
every spelling of the paths.
-/

/-! ## What a pass can do outside of its directory -/

namespace Disk

open FileSystem (Keeps)

variable {place : Location} {disk after : Disk} {path : Path} {text : Text}

/-- Outside of a place nothing has changed, except that there may be new directories. -/
structure Spares (place : Location) (before after : Disk) : Prop where
  working : after.working = before.working
  outside : ∀ other, ¬ place <+: other → after.entryAt? other = before.entryAt? other ∨
    (before.entryAt? other = none ∧ after.entryAt? other = some .directory)

namespace Spares

variable {before middle : Disk} {other : Location}

theorem refl (place : Location) (disk : Disk) : Spares place disk disk := ⟨rfl, fun _ _ => .inl rfl⟩

theorem trans (once : Spares place before middle) (twice : Spares place middle after) :
    Spares place before after := by
  constructor
  · exact twice.working.trans once.working
  · intro other outside
    rcases twice.outside other outside with same | ⟨missing, made⟩
    · rw [same]
      exact once.outside other outside
    · rcases once.outside other outside with same | ⟨-, made⟩
      · exact .inr ⟨same ▸ missing, made⟩
      · rw [missing] at made
        cases made

theorem textAt? (spares : Spares place before after) (outside : ¬ place <+: other) :
    after.textAt? other = before.textAt? other := by
  unfold Disk.textAt?
  rcases spares.outside other outside with same | ⟨missing, made⟩
  · rw [same]
  · rw [missing, made]
    rfl

theorem directory (spares : Spares place before after) (outside : ¬ place <+: other)
    (directory : before.entryAt? other = some .directory) :
    after.entryAt? other = some .directory := by
  rcases spares.outside other outside with same | ⟨missing, -⟩
  · rw [same, directory]
  · rw [missing] at directory
    cases directory

end Spares

theorem spares_makeDirectory (place : Location) (disk : Disk) (path : Path) :
    Spares place disk (disk.attempt (disk.makeDirectory path)).2 := by
  cases made : disk.makeDirectory path with
  | error fault => exact .refl place disk
  | ok changed =>
      constructor
      · exact working_of_makeDirectory made
      · intro other _
        have shows := entryAt?_of_makeDirectory made other
        rcases makeDirectory_eq_ok made with ⟨-, -, -, location, located, missing, -⟩
        rw [eq_location_of_locate located] at missing
        by_cases same : other = path.location disk.working
        · rw [if_pos same] at shows
          exact .inr ⟨same ▸ missing, shows⟩
        · rw [if_neg same] at shows
          exact .inl shows

theorem spares_write (below : place <+: path.location disk.working) (text : Text) :
    Spares place disk (disk.attempt (disk.write path text)).2 := by
  cases written : disk.write path text with
  | error fault => exact .refl place disk
  | ok changed =>
      refine ⟨working_of_write written, fun other outside => .inl ?_⟩
      change changed.entryAt? other = _
      rw [entryAt?_of_write written, if_neg]
      rintro rfl
      exact outside below

theorem spares_writePart (below : place <+: path.location disk.working) (text : Text)
    (written : Option Nat) : Spares place disk (disk.writePart path text written) := by
  cases written with
  | none => exact .refl place disk
  | some count => exact spares_write below _

theorem spares_removeTree (disk : Disk) (path : Path) :
    Spares (path.location disk.working) disk (disk.removeTree path).2 :=
  ⟨(removeTree_outside disk path).1,
    fun other outside => .inl ((removeTree_outside disk path).2 other outside)⟩

theorem spares_erase (place : Location) {below : Location} (notHere : below ≠ []) (disk : Disk) :
    Spares place disk (disk.erase (place ++ below)) := by
  refine ⟨rfl, fun other outside => .inl ?_⟩
  have nonempty : place ++ below ≠ [] := fun none => notHere (List.append_eq_nil_iff.1 none).2
  rw [entryAt?_erase _ nonempty, if_neg]
  exact fun isPrefix => outside ((List.prefix_append place below).trans isPrefix)

/-- Even a removal that is given up half way stays inside. -/
theorem spares_removePart (disk : Disk) (path : Path) (removed : List Location) :
    Spares (path.location disk.working) disk (disk.removePart path removed) := by
  unfold removePart
  split
  case h_1 location entries found =>
    rcases find_eq_ok_directory_iff.1 ⟨entries, found⟩ with ⟨located, -⟩
    rw [eq_location_of_locate located]
    generalize path.location disk.working = place
    generalize kept : removed.filter _ = inside
    have notHere : ∀ below ∈ inside, below ≠ [] := by
      intro below member
      rw [← kept] at member
      simpa using (List.mem_filter.1 member).2
    clear kept found located
    induction inside generalizing disk with
    | nil => exact .refl place disk
    | cons below rest ih =>
        have erased := spares_erase place (notHere below List.mem_cons_self) disk
        exact erased.trans
          (ih _ fun other member => notHere other (List.mem_cons_of_mem _ member))
  case h_2 => exact .refl _ disk

end Disk

namespace FaultyDisk

open FileSystem (Keeps)

/-- Outside of the place where a path leads, there may be new directories and nothing else is new. -/
def Spares (output : Path) (before after : FaultyDisk) : Prop :=
  Disk.Spares (output.location before.disk.working) before.disk after.disk

theorem keeps_spares (output : Path) : Keeps (Spares output) where
  refl faulty := .refl _ _
  trans once twice := by
    unfold Spares at twice
    rw [once.working] at twice
    exact once.trans twice
  looks path faulty := by
    refine request_keeps (R := fun before after =>
      Disk.Spares (output.location before.working) before after) ?_ ?_ faulty
    · exact fun _ => .refl _ _
    · exact fun _ _ => .refl _ _
  makes path faulty := by
    refine request_keeps (R := fun before after =>
      Disk.Spares (output.location before.working) before after) ?_ ?_ faulty
    · exact fun disk => Disk.spares_makeDirectory _ disk path
    · exact fun _ _ => .refl _ _

theorem spares_removeTree (output : Path) (faulty : FaultyDisk) :
    Spares output faulty (FileSystem.removeTree (m := StateM FaultyDisk) output faulty).2 := by
  refine request_keeps (R := fun before after =>
    Disk.Spares (output.location before.working) before after) ?_ ?_ faulty
  · exact fun disk => Disk.spares_removeTree disk output
  · exact fun trouble disk => Disk.spares_removePart disk output trouble.removed

theorem spares_write {output path : Path} (text : Text)
    (below : ∀ working, output.location working <+: path.location working) (faulty : FaultyDisk) :
    Spares output faulty (FileSystem.write (m := StateM FaultyDisk) path text faulty).2 := by
  refine request_keeps (R := fun before after =>
    Disk.Spares (output.location before.working) before after) ?_ ?_ faulty
  · exact fun disk => Disk.spares_write (below disk.working) text
  · exact fun trouble disk => Disk.spares_writePart (below disk.working) text trouble.written

end FaultyDisk

namespace Pass

variable {target : Target} {snapshot : Snapshot}

/-- A pass is refused, or it spares everything outside of an accepted output directory. -/
theorem run_spares (target : Target) (snapshot : Snapshot) (start : FaultyDisk) :
    (run (m := StateM FaultyDisk) target snapshot start).2 = start ∨
      (target.firstCovered? start.disk.working = none ∧
        FaultyDisk.Spares target.output start
          (run (m := StateM FaultyDisk) target snapshot start).2) := by
  rw [run_faulty]
  cases planning : plan start.disk.working target snapshot with
  | error error => exact .inl rfl
  | ok files =>
      rcases plan_eq_ok planning with ⟨accepted, all, made, rfl, -⟩
      refine .inr ⟨accepted, ?_⟩
      have nonempty := (target.outside_of_accepted accepted List.mem_cons_self).1
      refine keeps_replace (FaultyDisk.keeps_spares target.output) start
        (FaultyDisk.spares_removeTree target.output start) fun file member state => ?_
      rcases List.mem_map.1 member with ⟨content, isContent, rfl⟩
      rcases names_of_mem_contents made isContent with ⟨hasParts, areNames⟩
      refine FaultyDisk.spares_write _ (fun working => ?_) state
      rw [fileOf, Path.location_join_ofNames _ hasParts areNames]
      exact List.prefix_append _ _

end Pass

/-! ## The project -/

/-- The settings file stands in the root of the project, also where the root is not written. -/
theorem Settings.location_fileOf (root : Path) (working : Location) :
    (Settings.fileOf root).location working = root.location working ++ [Settings.fileName.text] := by
  have isName : ∀ part ∈ [Settings.fileName.text], Path.IsName part := by
    intro part member
    rw [List.mem_singleton.1 member]
    decide
  exact Path.location_join_ofNames _ (List.cons_ne_nil _ _) isName working

namespace Target

variable {root : Path} {settings : Settings} {working : Location}

/-- An accepted output directory is not above the root of the project. -/
theorem root_outside (accepted : (ofSettings root settings).firstCovered? working = none) :
    ¬ (ofSettings root settings).output.location working <+: root.location working := by
  have kept : Settings.fileOf root ∈ (ofSettings root settings).kept := by
    simp [kept, ofSettings, guarding, new]
  have written : (Settings.fileOf root).text ≠ [] := by
    intro empty
    have location := Path.location_of_empty empty []
    rw [Settings.location_fileOf] at location
    simp at location
  have outside := (outside_of_accepted accepted kept).2 written
  rw [Settings.location_fileOf] at outside
  exact fun isPrefix => outside (isPrefix.trans (List.prefix_append _ _))

/-- An accepted output directory is not above a file that the settings guard. -/
theorem guarded_outside (accepted : (ofSettings root settings).firstCovered? working = none)
    {path : Path} (guarded : path ∈ [settings.routeConfigOf root, Settings.fileOf root]) :
    ¬ (ofSettings root settings).output.location working <+: path.location working := by
  have kept : path ∈ (ofSettings root settings).kept := by
    simpa [kept, ofSettings, guarding, new] using Or.inr guarded
  by_cases written : path.text = []
  · -- A path that is not written is that of a route config in a root that is not written.
    have rootEmpty : root.text = [] := by
      by_contra nonempty
      simp only [List.mem_cons, List.not_mem_nil, or_false, Settings.routeConfigOf,
        Settings.fileOf] at guarded
      rcases guarded with rfl | rfl
      all_goals
        unfold Path.join at written
        split at written
        · rename_i absolute
          simp [Path.isAbsolute, written] at absolute
        · split at written <;> simp [nonempty] at written
    have same : path.location working = root.location working :=
      (Path.location_of_empty written working).trans (Path.location_of_empty rootEmpty working).symm
    rw [same]
    exact root_outside accepted
  · exact (outside_of_accepted accepted kept).2 written

end Target

/-- What a path reads is the text of the file at its location. -/
theorem Disk.textAt?_of_read {disk : Disk} {path : Path} {text : Text}
    (reads : disk.read path = .ok text) :
    disk.textAt? (path.location disk.working) = some text := by
  unfold read find at reads
  cases located : disk.locate path with
  | error fault => simp [located] at reads
  | ok location =>
      rw [← eq_location_of_locate located, textAt?_eq_some_iff, entryAt?, Node.entryAt?]
      change Option.map Node.entry (disk.at? location) = _
      simp only [located] at reads
      cases found : disk.at? location with
      | none => simp [found] at reads
      | some node =>
          cases node with
          | directory entries => simp [found] at reads
          | file other =>
              cases slash : path.endsInSlash with
              | true => simp [found, slash] at reads
              | false => simpa [found, slash, Node.entry] using reads

namespace Pass

/-- A pass leaves the project in place, whether it succeeds or not and whatever goes wrong: the root
stays a directory, and the route config and the settings file keep their texts or stay missing. -/
theorem project_survives (root : Path) (settings : Settings) (snapshot : Snapshot)
    (start : FaultyDisk) :
    let finish := (run (m := StateM FaultyDisk) (.ofSettings root settings) snapshot start).2
    let working := start.disk.working
    (start.disk.entryAt? (root.location working) = some .directory →
        finish.disk.entryAt? (root.location working) = some .directory) ∧
      ∀ path ∈ [settings.routeConfigOf root, Settings.fileOf root],
        finish.disk.textAt? (path.location working) = start.disk.textAt? (path.location working) ∧
        (∀ text, start.disk.read path = .ok text →
          finish.disk.textAt? (path.location working) = some text) ∧
        ∀ text, finish.disk.read path = .ok text →
          start.disk.textAt? (path.location working) = some text := by
  intro finish working
  have same : ∀ path ∈ [settings.routeConfigOf root, Settings.fileOf root],
      finish.disk.textAt? (path.location working) = start.disk.textAt? (path.location working) ∧
        finish.disk.working = working := by
    intro path guarded
    rcases run_spares (.ofSettings root settings) snapshot start with nothing | ⟨accepted, spares⟩
    · exact ⟨by rw [show finish = start from nothing], by rw [show finish = start from nothing]⟩
    · exact ⟨spares.textAt? (Target.guarded_outside accepted guarded), spares.working⟩
  refine ⟨fun directory => ?_, fun path guarded => ⟨(same path guarded).1, fun text reads => ?_,
    fun text reads => ?_⟩⟩
  · rcases run_spares (.ofSettings root settings) snapshot start with nothing | ⟨accepted, spares⟩
    · rw [show finish = start from nothing, directory]
    · exact spares.directory (Target.root_outside accepted) directory
  · rw [(same path guarded).1]
    exact Disk.textAt?_of_read reads
  · have found := Disk.textAt?_of_read reads
    rw [(same path guarded).2] at found
    rw [← (same path guarded).1, found]

/-- The small project keeps its root and its route config, and it has no settings file. -/
theorem small_project_survives :
    let settings : Settings :=
      { outputDir := ⟨['t']⟩, routeConfig := ⟨['c']⟩, frameworkModule := ['m'] }
    let finish := (run (m := StateM FaultyDisk) (.ofSettings ⟨['p']⟩ settings) (.rootOnly ['a'])
      ⟨.small, []⟩).2
    finish.disk.entryAt? [['p']] = some .directory ∧
      finish.disk.textAt? [['p'], ['c']] = some ['y'] ∧
      finish.disk.textAt? [['p'], Settings.fileName.text] = none := by
  intro settings finish
  have survives := project_survives ⟨['p']⟩ settings (.rootOnly ['a']) ⟨.small, []⟩
  refine ⟨survives.1 rfl, ?_, ?_⟩
  · exact (survives.2 (settings.routeConfigOf ⟨['p']⟩) (by simp)).1
  · exact (survives.2 (Settings.fileOf ⟨['p']⟩) (by simp)).1

end Pass
end TypedRoutes
