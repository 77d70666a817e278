import TypedRoutes.Proofs.Output.Outcome
import Mathlib.Data.Set.Card

namespace TypedRoutes

/-!
# A pass replaces the output

A pass that succeeds leaves exactly the output of its snapshot below the output directory: the
declaration file of every route, the register and the server build module, and no other file.  It
touches no file elsewhere, it counts what it wrote, and the next pass of the snapshot changes
nothing at all.  This holds whatever trouble the disk was in, as long as the pass succeeded.
-/

/-- The files below the output directory are exactly the output of a snapshot. -/
structure Target.Holds (target : Target) (snapshot : Snapshot) (disk : Disk) : Prop where
  route : ∀ route ∈ snapshot.routes, ∃ text,
    Declaration.routeFile target.frameworkModule snapshot route = .ok text ∧
      disk.textAt? (target.output.location disk.working ++
        Placement.components snapshot.appDirectory route.id) = some text
  register : ∃ text, Declaration.register target.frameworkModule snapshot = .ok text ∧
    disk.textAt? (target.output.location disk.working ++ [Declaration.registerName]) = some text
  serverBuild :
    disk.textAt? (target.output.location disk.working ++ [Declaration.serverBuildName]) =
      some (Declaration.serverBuild target.frameworkModule)
  nothing_else : ∀ below text,
    disk.textAt? (target.output.location disk.working ++ below) = some text →
      (∃ route ∈ snapshot.routes, below = Placement.components snapshot.appDirectory route.id) ∨
        below = [Declaration.registerName] ∨ below = [Declaration.serverBuildName]

namespace Target.Holds

variable {target : Target} {snapshot : Snapshot} {disk other : Disk}

/-- What one disk shows below its output directory, every disk with the same output shows. -/
theorem textAt?_of_textAt? (holds : target.Holds snapshot disk)
    (holdsOther : target.Holds snapshot other) {below : Location} {text : Text}
    (shown : disk.textAt? (target.output.location disk.working ++ below) = some text) :
    other.textAt? (target.output.location other.working ++ below) = some text := by
  rcases holds.nothing_else below text shown with ⟨route, declared, rfl⟩ | rfl | rfl
  · rcases holds.route route declared with ⟨first, makes, shows⟩
    rcases holdsOther.route route declared with ⟨second, makesOther, showsOther⟩
    rw [showsOther, ← shown, shows, Except.ok.inj (makesOther.symm.trans makes)]
  · rcases holds.register with ⟨first, registered, shows⟩
    rcases holdsOther.register with ⟨second, registeredOther, showsOther⟩
    rw [showsOther, ← shown, shows, Except.ok.inj (registeredOther.symm.trans registered)]
  · rw [holdsOther.serverBuild, ← shown, holds.serverBuild]

/-- The output of a snapshot is the same wherever it is held. -/
theorem textAt?_eq (holds : target.Holds snapshot disk) (holdsOther : target.Holds snapshot other)
    (below : Location) :
    disk.textAt? (target.output.location disk.working ++ below) =
      other.textAt? (target.output.location other.working ++ below) :=
  Option.ext fun _ =>
    ⟨fun shown => holds.textAt?_of_textAt? holdsOther shown,
      fun shown => holdsOther.textAt?_of_textAt? holds shown⟩

/-- Changes elsewhere leave the output as it is. -/
theorem of_agree (holds : target.Holds snapshot disk)
    (agree : Disk.AgreeBelow (target.output.location disk.working) disk other) :
    target.Holds snapshot other := by
  have texts := agree.textAt?
  rw [← agree.working] at texts
  refine ⟨fun route declared => ?_, ?_, ?_, fun below text shown => ?_⟩
  · rcases holds.route route declared with ⟨text, makes, shows⟩
    exact ⟨text, makes, by rw [texts, agree.working, shows]⟩
  · rcases holds.register with ⟨text, registered, shows⟩
    exact ⟨text, registered, by rw [texts, agree.working, shows]⟩
  · rw [texts, agree.working, holds.serverBuild]
  · rw [texts, agree.working] at shown
    exact holds.nothing_else below text shown

/-- What a directory holds does not depend on how the target spells it. -/
theorem of_location {output : Path} (holds : Target.Holds { target with output } snapshot disk)
    (same : output.location disk.working = target.output.location disk.working) :
    target.Holds snapshot disk where
  route := same ▸ holds.route
  register := same ▸ holds.register
  serverBuild := same ▸ holds.serverBuild
  nothing_else := same ▸ holds.nothing_else

end Target.Holds

namespace Pass

variable {target : Target} {snapshot : Snapshot} {summary : Summary}

/-- What a pass that succeeds has done. -/
structure Replaces (target : Target) (snapshot : Snapshot) (summary : Summary)
    (before after : Disk) : Prop where
  working : after.working = before.working
  holds : target.Holds snapshot after
  /-- No two routes share a declaration file. -/
  apart : (snapshot.routes.map fun route =>
    Placement.components snapshot.appDirectory route.id).Nodup
  outside : ∀ place, ¬ target.output.location before.working <+: place →
    after.textAt? place = before.textAt? place
  routes : summary.routes = snapshot.routes.length
  files : summary.files =
    {below | after.textAt? (target.output.location after.working ++ below) ≠ none}.ncard

section Contents

variable {all : List (Location × Text)} {after : Disk}

/-- A directory whose files are the contents of a snapshot holds the output of the snapshot. -/
theorem holds_of_contents (made : contents target.frameworkModule snapshot = .ok all)
    (shows : ∀ below text, after.textAt? (target.output.location after.working ++ below) = some text ↔
      (below, text) ∈ all) : target.Holds snapshot after where
  route route declared := by
    rcases exists_routeFile_of_contents made declared with ⟨text, makes⟩
    exact ⟨text, makes, (shows _ _).2 ((mem_contents_iff made).2 (.inl ⟨route, declared, rfl, makes⟩))⟩
  register := by
    rcases contents_eq_ok_iff.1 made with ⟨-, register, -, registered, -⟩
    exact ⟨register, registered,
      (shows _ _).2 ((mem_contents_iff made).2 (.inr (.inl ⟨rfl, registered⟩)))⟩
  serverBuild := (shows _ _).2 ((mem_contents_iff made).2 (.inr (.inr ⟨rfl, rfl⟩)))
  nothing_else below text shown := by
    rcases (mem_contents_iff made).1 ((shows below text).1 shown) with
      ⟨route, declared, isPlace, -⟩ | ⟨isPlace, -⟩ | ⟨isPlace, -⟩
    · exact .inl ⟨route, declared, isPlace⟩
    · exact .inr (.inl isPlace)
    · exact .inr (.inr isPlace)

/-- The number of files in a directory is that of its contents. -/
theorem ncard_of_contents {place : Location} (nodup : (all.map (·.1)).Nodup)
    (shows : ∀ below text, after.textAt? (place ++ below) = some text ↔ (below, text) ∈ all) :
    {below | after.textAt? (place ++ below) ≠ none}.ncard = all.length := by
  have same : {below | after.textAt? (place ++ below) ≠ none} = ((all.map (·.1)).toFinset : Set _) := by
    ext below
    rw [Set.mem_ofPred_eq, Option.ne_none_iff_exists', List.coe_toFinset, Set.mem_ofPred_eq,
      List.mem_map]
    constructor
    · rintro ⟨text, shown⟩
      exact ⟨(below, text), (shows below text).1 shown, rfl⟩
    · rintro ⟨⟨_, text⟩, member, rfl⟩
      exact ⟨text, (shows _ text).2 member⟩
  rw [same, Set.ncard_coe_finset, List.toFinset_card_of_nodup nodup, List.length_map]

/-- A directory that was cleared, and had the contents of a snapshot laid in it, holds its output. -/
theorem holds_of_laid {disk cleared : Disk}
    (made : contents target.frameworkModule snapshot = .ok all)
    (clears : Disk.Cleared (target.output.location disk.working) disk cleared)
    (laid : Disk.Laid (all.map (fileOf target.output)) cleared after) :
    target.Holds snapshot after := by
  refine holds_of_contents made ?_
  rw [laid.working, clears.working]
  exact (textAt?_of_laid (fun _ member => names_of_mem_contents made member) clears laid).1

end Contents

/-- The path of an output directory fits where a file was written in it. -/
theorem fits_of_writeFiles {output : Path} {all : List (Location × Text)} {before after : Disk}
    (ends : output.EndsInName) (nonempty : all ≠ [])
    (names : ∀ content ∈ all, content.1 ≠ [] ∧ ∀ part ∈ content.1, Path.IsName part)
    (wrote : writeFiles (m := StateM Disk) (all.map (fileOf output)) before = (.ok (), after)) :
    output.Fits := by
  rcases List.exists_cons_of_ne_nil nonempty with ⟨content, rest, rfl⟩
  rcases names content List.mem_cons_self with ⟨hasParts, areNames⟩
  rw [List.map_cons, fileOf, writeFiles_cons_run] at wrote
  generalize writesFirst : FileSystem.writeFile (m := StateM Disk) _ content.2 before = result at wrote
  rcases result with ⟨answer, middle⟩
  cases answer with
  | error fault => cases wrote
  | ok _ =>
      rcases Disk.namesEntry_join ends hasParts areNames with ⟨parents, name, entry⟩
      have fits := (Disk.writable_of_writeFile entry writesFirst).fits
      exact Path.fits_of_join ends.nonempty (Path.isAbsolute_ofNames areNames) fits

/-- A pass of what a complete one left is complete as well, and shows the same.  The disk may have
changed in between, but not below the output directory. -/
theorem run_of_complete {disk cleared after other : Disk} {all : List (Location × Text)}
    (ends : target.output.EndsInName) (planned : Planned disk.working target snapshot all)
    (planning : plan disk.working target snapshot = .ok (all.map (fileOf target.output)))
    (clears : Disk.Cleared (target.output.location disk.working) disk cleared)
    (wrote : writeFiles (m := StateM Disk) (all.map (fileOf target.output)) cleared = (.ok (), after))
    (laid : Disk.Laid (all.map (fileOf target.output)) cleared after)
    (agree : Disk.AgreeBelow (target.output.location disk.working) after other) :
    ∃ again, run (m := StateM Disk) target snapshot other =
        (.ok ⟨snapshot.routes.length, all.length⟩, again) ∧ again.Alike other := by
  have working : other.working = disk.working :=
    agree.working.trans (laid.working.trans clears.working)
  have nonempty : all ≠ [] := by
    intro none
    have length := length_contents planned.made
    rw [none] at length
    cases length
  rcases List.exists_cons_of_ne_nil nonempty with ⟨content, rest, shape⟩
  have member : content ∈ all := shape ▸ List.mem_cons_self
  have shown := ((textAt?_of_laid planned.names clears laid).1 content.1 content.2).2 member
  rw [← agree.textAt?] at shown
  -- A file that was written shows that directories lead to it.
  have directories : ∀ way, way <+: target.output.location other.working →
      other.entryAt? way = some .directory := by
    rw [working]
    exact fun way isWay => Disk.directories_of_textAt? (planned.names content member).1 shown isWay
  rcases Disk.exists_clear ends (fits_of_writeFiles ends nonempty planned.names wrote) directories
    with ⟨clearedAgain, clearing, clearsAgain⟩
  rw [working] at clearsAgain directories
  have agreeCleared : Disk.AgreeBelow (target.output.location cleared.working) cleared clearedAgain := by
    constructor
    · exact clearsAgain.working.trans (working.trans clears.working.symm)
    · intro below
      rw [clears.working, clearsAgain.gone below, clears.gone below]
  have standing : Disk.Standing (target.output.location cleared.working) clearedAgain := by
    rw [clears.working]
    have standingOther : Disk.Standing (target.output.location disk.working) other :=
      fun above rest _ eq => directories above ⟨rest, eq⟩
    exact standingOther.of_elsewhere clearsAgain.elsewhere
  rcases Disk.writeFiles_again ends planned.names wrote agreeCleared standing with
    ⟨again, writesAgain, agreeAfter, outside⟩
  rw [clears.working] at agreeAfter outside
  refine ⟨again, ?_, agreeAfter.working.trans agree.working.symm, fun place => ?_⟩
  · rw [run_disk, working, planning]
    simp only [replace, clearing, writesAgain, List.length_map]
  · by_cases below : target.output.location disk.working <+: place
    · rcases below with ⟨rest, rfl⟩
      rw [agreeAfter.below rest, agree.below rest]
    · rw [outside place below]
      exact clearsAgain.elsewhere place below

/-! ## Passes that succeed -/

/-- A pass that succeeded in trouble ended completely on the disk. -/
theorem outcome_of_run {start finish : FaultyDisk} (rooted : target.root.text ≠ [])
    (plain : target.output.IsPlain)
    (succeeded : run (m := StateM FaultyDisk) target snapshot start = (.ok summary, finish)) :
    Outcome target snapshot start.disk (.ok summary, finish.disk) := by
  have healthy := sound_run target snapshot start summary (by rw [succeeded])
  rw [succeeded] at healthy
  rw [← healthy]
  exact outcome snapshot rooted plain start.disk

theorem replaces_of_run {start finish : FaultyDisk} (rooted : target.root.text ≠ [])
    (plain : target.output.IsPlain)
    (succeeded : run (m := StateM FaultyDisk) target snapshot start = (.ok summary, finish)) :
    Replaces target snapshot summary start.disk finish.disk := by
  have ending := outcome_of_run rooted plain succeeded
  generalize finish.disk = after at ending ⊢
  cases ending with
  | complete planned planning clears wrote laid =>
      have ends := target.output_endsInName rooted plain planned.accepted
      have working : after.working = start.disk.working := laid.working.trans clears.working
      rcases textAt?_of_laid planned.names clears laid with ⟨shows, outside⟩
      have showsAfter := shows
      rw [← working] at showsAfter
      refine ⟨working, holds_of_contents planned.made showsAfter, ?_, outside, rfl,
        (ncard_of_contents planned.nodup showsAfter).symm⟩
      rcases contents_eq_ok_iff.1 planned.made with ⟨own, register, each, -, rfl⟩
      have nodup := planned.nodup
      rw [List.map_append] at nodup
      rw [← places_of_routeContent each]
      exact nodup.of_append_left

/-- After a pass that succeeded, the next one succeeds and changes nothing. -/
theorem run_again {start finish : FaultyDisk} {other : Disk} (rooted : target.root.text ≠ [])
    (plain : target.output.IsPlain)
    (succeeded : run (m := StateM FaultyDisk) target snapshot start = (.ok summary, finish))
    (agree : Disk.AgreeBelow (target.output.location finish.disk.working) finish.disk other) :
    ∃ again, run (m := StateM Disk) target snapshot other = (.ok summary, again) ∧
      again.Alike other := by
  have working := (replaces_of_run rooted plain succeeded).working
  rw [working] at agree
  have ending := outcome_of_run rooted plain succeeded
  generalize finish.disk = after at ending agree
  cases ending with
  | complete planned planning clears wrote laid =>
      have ends := target.output_endsInName rooted plain planned.accepted
      exact run_of_complete ends planned planning clears wrote laid agree

/-- A pass that succeeds replaces the output, touches no file elsewhere, and another pass of the
same snapshot changes nothing. -/
theorem run_replaces {start finish : FaultyDisk} (rooted : target.root.text ≠ [])
    (plain : target.output.IsPlain)
    (succeeded : run (m := StateM FaultyDisk) target snapshot start = (.ok summary, finish)) :
    Replaces target snapshot summary start.disk finish.disk ∧
      ∃ again, run (m := StateM Disk) target snapshot finish.disk = (.ok summary, again) ∧
        again.Alike finish.disk :=
  ⟨replaces_of_run rooted plain succeeded,
    run_again rooted plain succeeded (.refl _ finish.disk)⟩

/-- The old output of the small project makes way for three new files. -/
theorem run_replaces_rootOnly :
    ∃ finish, run (m := StateM FaultyDisk) .small (.rootOnly ['a']) ⟨.small, []⟩ =
        (.ok ⟨1, 3⟩, finish) ∧
      Replaces .small (.rootOnly ['a']) ⟨1, 3⟩ .small finish.disk ∧
      ∃ again, run (m := StateM Disk) .small (.rootOnly ['a']) finish.disk = (.ok ⟨1, 3⟩, again) ∧
        again.Alike finish.disk := by
  have answer : (run (m := StateM FaultyDisk) .small (.rootOnly ['a']) ⟨.small, []⟩).1 =
      .ok ⟨1, 3⟩ := by rfl
  exact ⟨_, Prod.ext answer rfl,
    run_replaces (by decide) ⟨by decide, by decide⟩ (Prod.ext answer rfl)⟩

end Pass
end TypedRoutes
