import TypedRoutes.Proofs.Output.Imports
import TypedRoutes.Proofs.Output.Replacement
import TypedRoutes.Proofs.Output.Separation

namespace TypedRoutes

/-!
# Whether a pass can create its files

Into a directory that nothing stands in the way of, a pass can write its files exactly if none of
their places leads through another.  Where one does, the pass has cleared the directory before it
finds out, so what is left is the part of the new output that came before the file that failed.
-/

namespace Disk

open TypedRoutes.Path (names IsName ofNames)
open Pass (writeFiles fileOf)

variable {disk : Disk} {output : Path} {written : List Location} {parts : Location}

/-! ## Laying one file after the other -/

/-- After a file was written a place shows the file, a directory on the way to it, or what it showed
before. -/
theorem Written.cases {path : Path} {text : Text} {after : Disk}
    (wrote : Written path text disk after) (place : Location) :
    (place = path.location disk.working ∧ after.entryAt? place = some (.file text)) ∨
      (∃ way, way ≠ [] ∧ way <+: (names path.steps).dropLast ∧
        place = path.start disk.working ++ way ∧ after.entryAt? place = some .directory) ∨
      after.entryAt? place = disk.entryAt? place := by
  by_cases isFile : place = path.location disk.working
  · left
    rw [isFile]
    exact ⟨rfl, wrote.file⟩
  · by_cases isWay : ∃ way, way ≠ [] ∧ way <+: (names path.steps).dropLast ∧
        place = path.start disk.working ++ way
    · rcases isWay with ⟨way, here, isPrefix, rfl⟩
      exact .inr (.inl ⟨way, here, isPrefix, rfl, wrote.along way here isPrefix⟩)
    · push Not at isWay
      exact .inr (.inr (wrote.elsewhere place isFile isWay))

/-- What a directory shows while files are laid in it: the files at the places so far, and only the
directories that lead to them. -/
structure Laying (output : Path) (written : List Location) (disk : Disk) : Prop where
  approach : Approach output disk
  files : ∀ below text, disk.entryAt? (output.location disk.working ++ below) = some (.file text) →
    below ∈ written
  directories : ∀ below,
    disk.entryAt? (output.location disk.working ++ below) = some .directory →
      ∃ place ∈ written, below <+: place

namespace Laying

theorem of_cleared {cleared : Disk} (approach : Approach output disk)
    (clears : Cleared (output.location disk.working) disk cleared) : Laying output [] cleared where
  approach := approach.of_cleared clears
  files below text shown := by
    rw [clears.working, clears.gone] at shown
    cases shown
  directories below shown := by
    rw [clears.working, clears.gone] at shown
    cases shown

/-- The next file can be written if its place neither leads through those so far nor lies on the way
to them. -/
theorem writable (laying : Laying output written disk) (ends : output.EndsInName)
    (nonempty : parts ≠ []) (areNames : ∀ part ∈ parts, IsName part)
    (fits : (output.join (ofNames parts)).Fits)
    (apart : ∀ place ∈ written, ¬ place <+: parts ∧ ¬ parts <+: place) :
    disk.Writable (output.join (ofNames parts)) where
  fits := fits
  start := by
    rw [start_join ends areNames]
    exact laying.approach.direct.start
  free way text isWay shown := by
    have onTheWay : _ <+: output.location disk.working ++ parts :=
      way_of_join ends nonempty areNames isWay
    rcases List.prefix_or_prefix_of_prefix onTheWay (List.prefix_append _ _) with above | below
    · exact laying.approach.free _ text above shown
    · rcases below with ⟨below, same⟩
      rw [← same] at shown onTheWay
      have isBelow := (List.prefix_append_right_inj _).1 onTheWay
      exact (apart below (laying.files below text shown)).1 isBelow
  no_directory shown := by
    rw [Path.location_join_ofNames _ nonempty areNames] at shown
    rcases laying.directories parts shown with ⟨place, isPlace, leads⟩
    exact (apart place isPlace).2 leads

/-- After a file was written, its place is one of those so far. -/
theorem next {after : Disk} {text : Text} (laying : Laying output written disk)
    (ends : output.EndsInName) (nonempty : parts ≠ []) (areNames : ∀ part ∈ parts, IsName part)
    (run : FileSystem.writeFile (m := StateM Disk) (output.join (ofNames parts)) text disk
      = (.ok (), after)) : Laying output (parts :: written) after := by
  rcases namesEntry_join ends nonempty areNames with ⟨parents, name, entry⟩
  have wrote := written_of_writeFile entry run
  have location := Path.location_join_ofNames output nonempty areNames disk.working
  constructor
  · have grows := Approach.grows_of_writeFile output disk nonempty areNames text
    rw [run] at grows
    exact laying.approach.of_grows grows
  · intro below other shown
    rw [wrote.working] at shown
    rcases wrote.cases (output.location disk.working ++ below) with
      ⟨same, -⟩ | ⟨-, -, -, -, isDirectory⟩ | kept
    · rw [location] at same
      rw [List.append_cancel_left same]
      exact List.mem_cons_self
    · rw [isDirectory] at shown
      cases shown
    · rw [kept] at shown
      exact List.mem_cons_of_mem _ (laying.files below other shown)
  · intro below shown
    rw [wrote.working] at shown
    rcases wrote.cases (output.location disk.working ++ below) with
      ⟨-, isFile⟩ | ⟨way, -, isWay, same, -⟩ | kept
    · rw [isFile] at shown
      cases shown
    · have onTheWay : _ <+: output.location disk.working ++ parts :=
        way_of_join ends nonempty areNames isWay
      rw [← same] at onTheWay
      exact ⟨parts, List.mem_cons_self, (List.prefix_append_right_inj _).1 onTheWay⟩
    · rw [kept] at shown
      rcases laying.directories below shown with ⟨place, isPlace, leads⟩
      exact ⟨place, List.mem_cons_of_mem _ isPlace, leads⟩

end Laying

/-- Files whose places do not lead through each other can be written one after the other. -/
theorem exists_writeFiles {all : List (Location × Text)} (ends : output.EndsInName)
    (areNames : ∀ content ∈ all, content.1 ≠ [] ∧ ∀ part ∈ content.1, IsName part)
    (fits : ∀ content ∈ all, (output.join (ofNames content.1)).Fits)
    (laying : Laying output written disk)
    (apart : ∀ content ∈ all, ∀ place ∈ written,
      ¬ place <+: content.1 ∧ ¬ content.1 <+: place)
    (pairwise : all.Pairwise fun content other =>
      ¬ content.1 <+: other.1 ∧ ¬ other.1 <+: content.1) :
    ∃ after, writeFiles (m := StateM Disk) (all.map (fileOf output)) disk = (.ok (), after) := by
  induction all generalizing disk written with
  | nil => exact ⟨disk, rfl⟩
  | cons content rest ih =>
      rcases List.pairwise_cons.1 pairwise with ⟨apartFirst, pairwiseRest⟩
      rcases areNames content List.mem_cons_self with ⟨nonempty, names⟩
      rcases namesEntry_join ends nonempty names with ⟨parents, name, entry⟩
      have writable := laying.writable ends nonempty names (fits content List.mem_cons_self)
        (apart content List.mem_cons_self)
      rcases exists_writeFile entry writable content.2 with ⟨middle, run⟩
      have layingRest := laying.next ends nonempty names run
      obtain ⟨after, runRest⟩ := ih (fun other member => areNames other (List.mem_cons_of_mem _ member))
        (fun other member => fits other (List.mem_cons_of_mem _ member)) layingRest
        (fun other member place isPlace => by
          rcases List.mem_cons.1 isPlace with rfl | earlier
          · exact apartFirst other member
          · exact apart other (List.mem_cons_of_mem _ member) place earlier) pairwiseRest
      refine ⟨after, ?_⟩
      rw [List.map_cons, fileOf, Pass.writeFiles_cons_run, run]
      exact runRest

end Disk

namespace Pass

variable {target : Target} {snapshot : Snapshot} {all : List (Location × Text)}

/-! ## Plans of snapshots whose places differ -/

/-- Where places differ, the files of routes are planned. -/
theorem routeFiles_of_distinct {owners : List (Text × Text)} {routes : List Route}
    {own : List (Location × Text)}
    (each : List.Forall₂ (fun route content =>
      routeContent target.frameworkModule snapshot route = .ok content) routes own)
    (distinct : (routes.map fun route => Placement.path snapshot.appDirectory route.id).Nodup)
    (free : ∀ route ∈ routes,
      owners.lookup (Placement.path snapshot.appDirectory route.id) = none) :
    routeFiles target snapshot owners routes = .ok (own.map (fileOf target.output)) := by
  induction each generalizing owners with
  | nil => rfl
  | @cons route content routes own first rest ih =>
      rw [List.map_cons, List.nodup_cons] at distinct
      rcases routeContent_eq_ok_iff.1 first with ⟨place, made⟩
      have freeRest : ∀ other ∈ routes,
          ((Placement.path snapshot.appDirectory route.id, route.id) :: owners).lookup
            (Placement.path snapshot.appDirectory other.id) = none := by
        intro other member
        have different : Placement.path snapshot.appDirectory other.id
            ≠ Placement.path snapshot.appDirectory route.id :=
          fun same => distinct.1 (List.mem_map.2 ⟨other, member, same⟩)
        rw [List.lookup_cons, beq_eq_false_iff_ne.2 different]
        exact free other (List.mem_cons_of_mem _ member)
      rw [routeFiles, free route List.mem_cons_self]
      simp only [made, ih distinct.2 freeRest]
      rw [List.map_cons, fileOf, place]
      rfl

/-- An accepted target of a snapshot whose places differ has a plan. -/
theorem plan_of_distinct {working : Location} (accepted : target.firstCovered? working = none)
    (made : contents target.frameworkModule snapshot = .ok all)
    (distinct : (snapshot.routes.map fun route =>
      Placement.path snapshot.appDirectory route.id).Nodup) :
    plan working target snapshot = .ok (all.map (fileOf target.output)) := by
  rcases contents_eq_ok_iff.1 made with ⟨own, register, each, registered, rfl⟩
  have ownPlanned : routeFiles target snapshot [] snapshot.routes
      = .ok (own.map (fileOf target.output)) := routeFiles_of_distinct each distinct fun _ _ => rfl
  rw [plan, accepted]
  simp only [outputFiles, ownPlanned, sharedFiles, registered, List.map_append]
  rfl

/-! ## Passes into a directory with nothing in the way -/

/-- Nothing but the files themselves can stop a pass: the output directory is accepted, what its
files are called fits, and no file is in its place or in its way. -/
structure Ready (target : Target) (snapshot : Snapshot) (disk : Disk) : Prop where
  rooted : target.root.text ≠ []
  plain : target.output.IsPlain
  accepted : target.firstCovered? disk.working = none
  fits : ∀ place ∈ snapshot.places, (target.output.join (Path.ofNames place)).Fits
  start : disk.entryAt? (target.output.start disk.working) = some .directory
  free : ∀ place text, place <+: target.output.location disk.working →
    disk.entryAt? place ≠ some (.file text)

namespace Ready

variable {disk cleared : Disk}

theorem endsInName (ready : Ready target snapshot disk) : target.output.EndsInName :=
  target.output_endsInName ready.rooted ready.plain ready.accepted

theorem approach (ready : Ready target snapshot disk) : Disk.Approach target.output disk where
  direct := .of_straight ready.endsInName.straight ready.endsInName.last ready.start
  free := ready.free

theorem exists_cleared (ready : Ready target snapshot disk) :
    ∃ cleared, clear (m := StateM Disk) target.output disk = (.ok (), cleared) ∧
      Disk.Cleared (target.output.location disk.working) disk cleared :=
  ready.approach.exists_clear (Snapshot.fits_of_places ready.endsInName.nonempty ready.fits)

theorem run_eq (ready : Ready target snapshot disk)
    (made : contents target.frameworkModule snapshot = .ok all)
    (distinct : (snapshot.routes.map fun route =>
      Placement.path snapshot.appDirectory route.id).Nodup)
    (clears : clear (m := StateM Disk) target.output disk = (.ok (), cleared)) :
    run (m := StateM Disk) target snapshot disk =
      match writeFiles (m := StateM Disk) (all.map (fileOf target.output)) cleared with
      | (.error error, after) => (.error error, after)
      | (.ok (), after) => (.ok ⟨snapshot.routes.length, snapshot.routes.length + 2⟩, after) := by
  rw [run_disk, plan_of_distinct ready.accepted made distinct]
  simp only [replace, clears, List.length_map, length_contents made]
  generalize writeFiles (m := StateM Disk) _ cleared = result
  rcases result with ⟨answer, after⟩
  cases answer <;> rfl

/-- Files that do not stand in each other's way are written one after the other. -/
theorem exists_written (ready : Ready target snapshot disk)
    (made : contents target.frameworkModule snapshot = .ok all)
    (distinct : (snapshot.routes.map fun route =>
      Placement.path snapshot.appDirectory route.id).Nodup) (separate : snapshot.Separate)
    (clears : Disk.Cleared (target.output.location disk.working) disk cleared) :
    ∃ after, writeFiles (m := StateM Disk) (all.map (fileOf target.output)) cleared
      = (.ok (), after) := by
  have places := places_of_contents made
  have laying := Disk.Laying.of_cleared ready.approach clears
  have fits : ∀ content ∈ all, (target.output.join (Path.ofNames content.1)).Fits := by
    intro content member
    apply ready.fits
    rw [← places]
    exact List.mem_map_of_mem member
  have pairwise : (all.map (·.1)).Pairwise fun place other =>
      ¬ place <+: other ∧ ¬ other <+: place := by
    rw [places]
    have free := Snapshot.prefix_free_iff.2 separate
    refine (Snapshot.nodup_places distinct).pairwise_of_forall_ne ?_
    intro place isPlace other isOther different
    exact ⟨fun leads => different (free place isPlace other isOther leads),
      fun leads => different (free other isOther place isPlace leads).symm⟩
  exact Disk.exists_writeFiles ready.endsInName
    (fun _ member => names_of_mem_contents made member) fits laying
    (fun _ _ _ none => absurd none List.not_mem_nil) (List.pairwise_map.1 pairwise)

end Ready

/-- A pass that succeeds, on whatever disk, has written files that do not stand in each other's
way. -/
theorem separate_of_run {summary : Summary} {disk after : Disk}
    (succeeded : run (m := StateM Disk) target snapshot disk = (.ok summary, after)) :
    snapshot.Separate := by
  rcases shows_contents_of_run succeeded with ⟨all, made, -, shows⟩
  rw [← Snapshot.prefix_free_iff, ← places_of_contents made]
  intro place isPlace other isOther leads
  rcases List.mem_map.1 isPlace with ⟨content, member, rfl⟩
  rcases List.mem_map.1 isOther with ⟨otherContent, otherMember, rfl⟩
  rcases leads with ⟨rest, same⟩
  have shown := Disk.textAt?_eq_some_iff.1 (shows content member)
  have shownOther := Disk.textAt?_eq_some_iff.1 (shows otherContent otherMember)
  by_cases here : rest = []
  · rw [← same, here, List.append_nil]
  · -- A file below the first one would make a directory of it.
    rw [← same, ← List.append_assoc] at shownOther
    have directory := Disk.entryAt?_of_append_ne_none here (by rw [shownOther]; simp)
    rw [directory] at shown
    cases shown

/-- How a pass ends that nothing but its own files can stop. -/
structure Decided (target : Target) (snapshot : Snapshot) (disk : Disk) : Prop where
  creates : snapshot.Separate → ∃ after,
    run (m := StateM Disk) target snapshot disk
      = (.ok ⟨snapshot.routes.length, snapshot.routes.length + 2⟩, after) ∧
    target.Holds snapshot after
  /-- Otherwise it has deleted the old output, and stops before the new one is complete. -/
  stops : ¬ snapshot.Separate → ∃ path fault after written content rest,
    run (m := StateM Disk) target snapshot disk = (.error (.write path fault), after) ∧
    contents target.frameworkModule snapshot = .ok (written ++ content :: rest) ∧
    ∀ below text, after.textAt? (target.output.location disk.working ++ below) = some text ↔
      (below, text) ∈ written

variable {rootId : Text} {routes : List Route}

theorem decided_of_ready {disk : Disk} (built : RouteTree.build rootId routes = .ok snapshot.tree)
    (distinct : (snapshot.routes.map fun route =>
      Placement.path snapshot.appDirectory route.id).Nodup)
    (ready : Ready target snapshot disk) : Decided target snapshot disk := by
  rcases exists_contents built target.frameworkModule with ⟨all, made⟩
  rcases ready.exists_cleared with ⟨cleared, clearing, clears⟩
  have ends := ready.endsInName
  have run := ready.run_eq made distinct clearing
  have names : ∀ content ∈ all, content.1 ≠ [] ∧ ∀ part ∈ content.1, Path.IsName part :=
    fun _ member => names_of_mem_contents made member
  have nodup : (all.map (·.1)).Nodup := by
    rw [places_of_contents made]
    exact Snapshot.nodup_places distinct
  rcases Disk.writeFiles_cases (nodup_locations target.output names nodup cleared.working) with
    ⟨after, wrote, laid⟩ | ⟨written, path, text, rest, fault, after, eq, wrote, laid⟩
  · rw [wrote] at run
    constructor
    · intro _
      exact ⟨after, run, holds_of_laid made clears laid⟩
    · intro notSeparate
      exact absurd (separate_of_run run) notSeparate
  · rw [wrote] at run
    constructor
    · intro separate
      rcases ready.exists_written made distinct separate clears with ⟨whole, wroteAll⟩
      cases wroteAll.symm.trans wrote
    · intro _
      rcases List.map_eq_append_iff.1 eq with ⟨first, more, rfl, rfl, isRest⟩
      rcases List.map_eq_cons_iff.1 isRest with ⟨content, later, rfl, isFile, -⟩
      refine ⟨path, fault, after, first, content, later, run, made, ?_⟩
      exact (textAt?_of_laid (fun content member =>
        names content (List.mem_append_left _ member)) clears laid).1

/-- What it says about a pass that no two routes have the same place.  All its places differ; none
leads through another exactly if ids and application directory are separate; and exactly then can a
pass that nothing else stands in the way of create its files. -/
theorem places_of_distinct (built : RouteTree.build rootId routes = .ok snapshot.tree)
    (distinct : (snapshot.routes.map fun route =>
      Placement.path snapshot.appDirectory route.id).Nodup) :
    snapshot.places.Nodup ∧
      ((∀ place ∈ snapshot.places, ∀ other ∈ snapshot.places, place <+: other → place = other) ↔
        snapshot.Separate) ∧
      ∀ target disk, Ready target snapshot disk → Decided target snapshot disk :=
  ⟨Snapshot.nodup_places distinct, Snapshot.prefix_free_iff,
    fun _ _ ready => decided_of_ready built distinct ready⟩

/-- The root of the small project has a place of its own, and a pass creates it. -/
theorem places_of_distinct_rootOnly :
    (Snapshot.rootOnly ['a']).Separate ∧ ∃ after,
      run (m := StateM Disk) .small (.rootOnly ['a']) .small = (.ok ⟨1, 3⟩, after) ∧
        Target.small.Holds (.rootOnly ['a']) after := by
  have built : RouteTree.build ['r'] (Snapshot.rootOnly ['a']).routes =
      .ok (Snapshot.rootOnly ['a']).tree := by rfl
  have facts := places_of_distinct built (by decide +kernel)
  have separate : (Snapshot.rootOnly ['a']).Separate := facts.2.1.1 (by decide +kernel)
  have directories : ∀ place, place <+: Target.small.output.location Disk.small.working →
      Disk.small.entryAt? place = some .directory := by
    intro place above
    have isBeginning := (List.mem_inits place _).2 above
    have each : ∀ place ∈ (Target.small.output.location Disk.small.working).inits,
        Disk.small.entryAt? place = some .directory := by decide +kernel
    exact each place isBeginning
  have ready : Ready .small (.rootOnly ['a']) .small :=
    { rooted := by decide
      plain := ⟨by decide, by decide⟩
      accepted := by decide +kernel
      fits := by decide +kernel
      start := by decide +kernel
      free := fun place text above shown => by
        rw [directories place above] at shown
        cases shown }
  exact ⟨separate, (facts.2.2 _ _ ready).creates separate⟩

end Pass

/-- A route whose id leads through the declaration file of another route. -/
def Snapshot.crossed : Snapshot :=
  { appDirectory := ['a']
    mode := []
    future := {}
    tree := ⟨['r'], [{ id := ['r'] }, { id := ['x'] },
      { id := "+types/x.ts/y", parentId := some ['r'] }], _, _, rfl, rfl⟩ }

/-- Different places are not enough.  This tree is built and its places differ, but one leads through
another: a pass deletes the old output of the small project and fails. -/
theorem Pass.run_stops_at_crossed :
    RouteTree.build ['r'] Snapshot.crossed.routes = .ok Snapshot.crossed.tree ∧
      (Snapshot.crossed.routes.map fun route =>
        Placement.path Snapshot.crossed.appDirectory route.id).Nodup ∧
      (∃ place ∈ Snapshot.crossed.places, ∃ other ∈ Snapshot.crossed.places,
        place <+: other ∧ place ≠ other) ∧
      (∃ path, (Pass.run (m := StateM Disk) .small .crossed .small).1
        = .error (.write path .notDirectory)) ∧
      Disk.small.textAt? [['p'], ['t'], ['o']] = some ['x'] ∧
      (Pass.run (m := StateM Disk) .small .crossed .small).2.textAt? [['p'], ['t'], ['o']] = none := by
  refine ⟨rfl, by decide +kernel, ?_, ⟨_, rfl⟩, rfl, rfl⟩
  exact ⟨_, List.mem_cons_of_mem _ List.mem_cons_self,
    _, List.mem_cons_of_mem _ (List.mem_cons_of_mem _ List.mem_cons_self), by decide +kernel⟩

end TypedRoutes
