import TypedRoutes.Output.Pass
import TypedRoutes.Proofs.Declaration.Placement
import TypedRoutes.Proofs.Route.Tree
import Mathlib.Data.List.Forall2
import Mathlib.Data.List.Nodup

namespace TypedRoutes

/-!
# What a pass plans

The contents of an output directory are a function of the snapshot and the framework: for every
file its place below the directory and its text, in the order of writing.  A plan that is not
refused is these contents under the output directory, each place once; a plan for a built tree is
refused for the directory or for two routes with one place, and for nothing else.
-/

namespace Pass

open TypedRoutes.Path (IsName)

/-! ## The contents of an output directory -/

/-- The place and the text of a route's declaration file. -/
def routeContent (frameworkModule : Text) (snapshot : Snapshot) (route : Route) :
    Except TreeError (Location × Text) :=
  (Declaration.routeFile frameworkModule snapshot route).map fun text =>
    (Placement.components snapshot.appDirectory route.id, text)

/-- The files that belong to no single route. -/
def sharedContents (frameworkModule : Text) (snapshot : Snapshot) :
    Except TreeError (List (Location × Text)) :=
  (Declaration.register frameworkModule snapshot).map fun register =>
    [([Declaration.registerName], register),
      ([Declaration.serverBuildName], Declaration.serverBuild frameworkModule)]

/-- All files of an output directory, in the order of writing. -/
def contents (frameworkModule : Text) (snapshot : Snapshot) :
    Except TreeError (List (Location × Text)) := do
  let own ← snapshot.routes.mapM (routeContent frameworkModule snapshot)
  let shared ← sharedContents frameworkModule snapshot
  return own ++ shared

variable {frameworkModule : Text} {snapshot : Snapshot} {target : Target}

theorem bind_eq_ok_iff {α β ε : Type} {first : Except ε α} {next : α → Except ε β} {value : β} :
    first >>= next = .ok value ↔ ∃ middle, first = .ok middle ∧ next middle = .ok value := by
  cases first with
  | error error =>
      constructor
      · intro failed
        cases failed
      · rintro ⟨middle, failed, -⟩
        cases failed
  | ok middle =>
      constructor
      · intro succeeded
        exact ⟨middle, rfl, succeeded⟩
      · rintro ⟨_, same, succeeded⟩
        cases same
        exact succeeded

theorem map_eq_ok_iff {α β ε : Type} {first : Except ε α} {change : α → β} {value : β} :
    first.map change = .ok value ↔ ∃ middle, first = .ok middle ∧ change middle = value := by
  cases first with
  | error error =>
      constructor
      · intro failed
        cases failed
      · rintro ⟨middle, failed, -⟩
        cases failed
  | ok middle => simp [Except.map]

theorem routeContent_eq_ok_iff {route : Route} {content : Location × Text} :
    routeContent frameworkModule snapshot route = .ok content ↔
      content.1 = Placement.components snapshot.appDirectory route.id ∧
        Declaration.routeFile frameworkModule snapshot route = .ok content.2 := by
  rcases content with ⟨below, text⟩
  rw [routeContent, map_eq_ok_iff]
  constructor
  · rintro ⟨_, made, same⟩
    cases same
    exact ⟨rfl, made⟩
  · rintro ⟨rfl, made⟩
    exact ⟨text, made, rfl⟩

/-- The places of the routes' files are the places of their ids. -/
theorem places_of_routeContent {routes : List Route} {own : List (Location × Text)}
    (each : List.Forall₂ (fun route content =>
      routeContent frameworkModule snapshot route = .ok content) routes own) :
    own.map (·.1) = routes.map fun route =>
      Placement.components snapshot.appDirectory route.id := by
  induction each with
  | nil => rfl
  | cons first _ ih => rw [List.map_cons, List.map_cons, ih, (routeContent_eq_ok_iff.1 first).1]

/-- Asking for several answers gives all of them, in order. -/
theorem mapM_eq_ok_iff_forall₂ {α β ε : Type} {ask : α → Except ε β} {questions : List α}
    {answers : List β} :
    questions.mapM ask = .ok answers ↔
      List.Forall₂ (fun question answer => ask question = .ok answer) questions answers := by
  induction questions generalizing answers with
  | nil =>
      rw [List.mapM_nil, List.forall₂_nil_left_iff]
      constructor
      · intro same
        exact (Except.ok.inj same).symm
      · rintro rfl
        rfl
  | cons first rest ih =>
      simp only [List.mapM_cons, bind_eq_ok_iff, List.forall₂_cons_left_iff, ih]
      constructor
      · rintro ⟨answer, answered, more, answeredRest, same⟩
        exact ⟨answer, more, answered, answeredRest, (Except.ok.inj same).symm⟩
      · rintro ⟨answer, more, answered, answeredRest, rfl⟩
        exact ⟨answer, answered, more, answeredRest, rfl⟩

/-- The contents are those of the routes and then the shared ones. -/
theorem contents_eq_ok_iff {all : List (Location × Text)} :
    contents frameworkModule snapshot = .ok all ↔
      ∃ own register, List.Forall₂
          (fun route content => routeContent frameworkModule snapshot route = .ok content)
          snapshot.routes own ∧
        Declaration.register frameworkModule snapshot = .ok register ∧
        all = own ++ [([Declaration.registerName], register),
          ([Declaration.serverBuildName], Declaration.serverBuild frameworkModule)] := by
  simp only [contents, sharedContents, bind_eq_ok_iff, map_eq_ok_iff, mapM_eq_ok_iff_forall₂]
  constructor
  · rintro ⟨own, each, _, ⟨register, registered, rfl⟩, same⟩
    exact ⟨own, register, each, registered, (Except.ok.inj same).symm⟩
  · rintro ⟨own, register, each, registered, rfl⟩
    exact ⟨own, each, _, ⟨register, registered, rfl⟩, rfl⟩

/-- The files of an output directory, one by one. -/
theorem mem_contents_iff {all : List (Location × Text)}
    (made : contents frameworkModule snapshot = .ok all) {below : Location} {text : Text} :
    (below, text) ∈ all ↔
      (∃ route ∈ snapshot.routes,
        below = Placement.components snapshot.appDirectory route.id ∧
          Declaration.routeFile frameworkModule snapshot route = .ok text) ∨
      (below = [Declaration.registerName] ∧
        Declaration.register frameworkModule snapshot = .ok text) ∨
      (below = [Declaration.serverBuildName] ∧ text = Declaration.serverBuild frameworkModule) := by
  rcases contents_eq_ok_iff.1 made with ⟨own, register, each, registered, rfl⟩
  have inOwn : (below, text) ∈ own ↔ ∃ route ∈ snapshot.routes,
      below = Placement.components snapshot.appDirectory route.id ∧
        Declaration.routeFile frameworkModule snapshot route = .ok text := by
    clear made
    generalize snapshot.routes = routes at each ⊢
    induction each with
    | nil => simp
    | cons first _ ih =>
        simp only [List.mem_cons, exists_eq_or_imp, ih]
        apply or_congr_left
        rw [← @routeContent_eq_ok_iff frameworkModule snapshot _ (below, text), first,
          Except.ok.injEq, eq_comm]
  rw [List.mem_append, inOwn, registered]
  simp [eq_comm]

/-- Where there are contents, every declared route has a declaration file. -/
theorem exists_routeFile_of_contents {all : List (Location × Text)}
    (made : contents frameworkModule snapshot = .ok all) {route : Route}
    (declared : route ∈ snapshot.routes) :
    ∃ text, Declaration.routeFile frameworkModule snapshot route = .ok text := by
  rcases contents_eq_ok_iff.1 made with ⟨own, register, each, -, rfl⟩
  clear made
  generalize snapshot.routes = routes at each declared
  induction each with
  | nil => cases declared
  | @cons _ content _ _ first _ ih =>
      rcases List.mem_cons.1 declared with rfl | later
      · exact ⟨content.2, (routeContent_eq_ok_iff.1 first).2⟩
      · exact ih later

theorem length_contents {all : List (Location × Text)}
    (made : contents frameworkModule snapshot = .ok all) :
    all.length = snapshot.routes.length + 2 := by
  rcases contents_eq_ok_iff.1 made with ⟨own, register, each, -, rfl⟩
  rw [List.length_append, ← each.length_eq]
  rfl

/-- Every file has names for its place. -/
theorem names_of_mem_contents {all : List (Location × Text)}
    (made : contents frameworkModule snapshot = .ok all) {below : Location} {text : Text}
    (member : (below, text) ∈ all) : below ≠ [] ∧ ∀ part ∈ below, IsName part := by
  rcases (mem_contents_iff made).1 member with
    ⟨route, -, rfl, -⟩ | ⟨rfl, -⟩ | ⟨rfl, -⟩
  · exact ⟨Placement.components_ne_nil _ _, fun _ => Placement.isName_of_mem_components⟩
  · simp [Declaration.isName_registerName]
  · simp [Declaration.isName_serverBuildName]

/-- For a built tree there are contents. -/
theorem exists_contents {rootId : Text} {routes : List Route}
    (built : RouteTree.build rootId routes = .ok snapshot.tree) (frameworkModule : Text) :
    ∃ all, contents frameworkModule snapshot = .ok all := by
  have asked : ∀ route ∈ snapshot.routes,
      ∃ content, routeContent frameworkModule snapshot route = .ok content := by
    intro route declared
    rcases Declaration.exists_routeFile built frameworkModule declared with ⟨text, eq⟩
    exact ⟨_, by rw [routeContent, eq]; rfl⟩
  rcases exists_mapM_ok asked with ⟨own, each⟩
  rcases Declaration.exists_register built frameworkModule with ⟨register, registered⟩
  exact ⟨_, contents_eq_ok_iff.2 ⟨own, register, mapM_eq_ok_iff_forall₂.1 each, registered, rfl⟩⟩

/-! ## Plans -/

/-- The file of a content under an output directory. -/
def fileOf (output : Path) (content : Location × Text) : OutputFile :=
  (output.join (Path.ofNames content.1), content.2)

/-- A route is planned where its place is free, and the place is taken for the routes after it. -/
theorem routeFiles_cons_eq_ok {owners : List (Text × Text)} {route : Route} {rest : List Route}
    {files : List OutputFile}
    (planned : routeFiles target snapshot owners (route :: rest) = .ok files) :
    owners.lookup (Placement.path snapshot.appDirectory route.id) = none ∧
      ∃ text more, Declaration.routeFile target.frameworkModule snapshot route = .ok text ∧
        routeFiles target snapshot
          ((Placement.path snapshot.appDirectory route.id, route.id) :: owners) rest = .ok more ∧
        files = (target.output.join ⟨Placement.path snapshot.appDirectory route.id⟩, text) :: more := by
  rw [routeFiles] at planned
  cases free : owners.lookup (Placement.path snapshot.appDirectory route.id) with
  | some first =>
      rw [free] at planned
      cases planned
  | none =>
      rw [free] at planned
      cases made : Declaration.routeFile target.frameworkModule snapshot route with
      | error error =>
          rw [made] at planned
          cases planned
      | ok text =>
          rw [made] at planned
          rcases bind_eq_ok_iff.1 planned with ⟨more, plannedRest, same⟩
          exact ⟨rfl, text, more, rfl, plannedRest, (Except.ok.inj same).symm⟩

/-- Files that were planned are those of the routes, and no two routes share a place. -/
theorem routeFiles_eq_ok {owners : List (Text × Text)} {routes : List Route}
    {files : List OutputFile} (planned : routeFiles target snapshot owners routes = .ok files) :
    ∃ own, List.Forall₂ (fun route content =>
        routeContent target.frameworkModule snapshot route = .ok content) routes own ∧
      files = own.map (fileOf target.output) ∧
      (routes.map fun route => Placement.components snapshot.appDirectory route.id).Nodup ∧
      ∀ route ∈ routes, owners.lookup (Placement.path snapshot.appDirectory route.id) = none := by
  induction routes generalizing owners files with
  | nil =>
      cases planned
      exact ⟨[], .nil, rfl, List.nodup_nil, by simp⟩
  | cons route rest ih =>
      rcases routeFiles_cons_eq_ok planned with ⟨free, text, more, made, plannedRest, rfl⟩
      rcases ih plannedRest with ⟨own, each, rfl, nodup, unowned⟩
      -- A later route with this place would have found it among the owners.
      have fresh : ∀ other ∈ rest,
          Placement.path snapshot.appDirectory other.id ≠
              Placement.path snapshot.appDirectory route.id ∧
            owners.lookup (Placement.path snapshot.appDirectory other.id) = none := by
        intro other member
        have missing := unowned other member
        by_cases same : Placement.path snapshot.appDirectory other.id =
            Placement.path snapshot.appDirectory route.id
        · simp [same] at missing
        · rw [List.lookup_cons, beq_eq_false_iff_ne.2 same] at missing
          exact ⟨same, missing⟩
      refine ⟨(Placement.components snapshot.appDirectory route.id, text) :: own,
        .cons (routeContent_eq_ok_iff.2 ⟨rfl, made⟩) each, rfl, ?_, ?_⟩
      · rw [List.map_cons, List.nodup_cons]
        constructor
        · intro member
          rcases List.mem_map.1 member with ⟨other, isRest, same⟩
          exact (fresh other isRest).1 (congrArg (Text.glue '/') same)
        · exact nodup
      · intro other member
        rcases List.mem_cons.1 member with rfl | isRest
        · exact free
        · exact (fresh other isRest).2

/-- The places of the shared files are new. -/
theorem nodup_append_shared {places : List Location} (nodup : places.Nodup)
    (deep : ∀ place ∈ places, ∀ name, place ≠ [name]) :
    (places ++ [[Declaration.registerName], [Declaration.serverBuildName]]).Nodup := by
  rw [List.nodup_append]
  refine ⟨nodup, by simp [Declaration.registerName_ne_serverBuildName], ?_⟩
  intro place isOwn other isShared same
  simp only [List.mem_cons, List.not_mem_nil, or_false] at isShared
  rcases isShared with rfl | rfl
  · exact deep place isOwn _ same
  · exact deep place isOwn _ same

/-- A plan that is not refused is the contents under the output directory, each place once. -/
theorem plan_eq_ok {working : Location} {files : List OutputFile}
    (planned : plan working target snapshot = .ok files) :
    target.firstCovered? working = none ∧
      ∃ all, contents target.frameworkModule snapshot = .ok all ∧
        files = all.map (fileOf target.output) ∧ (all.map (·.1)).Nodup := by
  unfold plan at planned
  cases covered : target.firstCovered? working with
  | some path =>
      rw [covered] at planned
      cases planned
  | none =>
      rw [covered] at planned
      simp only [outputFiles, bind_eq_ok_iff] at planned
      rcases planned with ⟨ownFiles, ownPlanned, sharedPlanned, shares, same⟩
      cases same
      rcases routeFiles_eq_ok ownPlanned with ⟨own, each, rfl, nodup, -⟩
      unfold sharedFiles at shares
      cases registered : Declaration.register target.frameworkModule snapshot with
      | error error =>
          rw [registered] at shares
          cases shares
      | ok register =>
          rw [registered] at shares
          cases shares
          refine ⟨rfl, _, contents_eq_ok_iff.2 ⟨own, register, each, registered, rfl⟩, ?_, ?_⟩
          · rw [List.map_append]
            rfl
          · rw [List.map_append, places_of_routeContent each]
            apply nodup_append_shared nodup
            intro place isOwn name
            rcases List.mem_map.1 isOwn with ⟨route, -, rfl⟩
            exact Placement.components_ne_singleton _ _ _

/-- For a built tree, files of routes are refused for a place that is taken and nothing else. -/
theorem routeFiles_eq_error {owners : List (Text × Text)} {routes : List Route} {error : PassError}
    (made : ∀ route ∈ routes, ∃ text,
      Declaration.routeFile target.frameworkModule snapshot route = .ok text)
    (refused : routeFiles target snapshot owners routes = .error error) :
    ∃ place first second, error = .placeTaken place first second := by
  induction routes generalizing owners with
  | nil => cases refused
  | cons route rest ih =>
      rcases made route List.mem_cons_self with ⟨text, eq⟩
      rw [routeFiles] at refused
      simp only [eq] at refused
      split at refused
      · cases refused
        exact ⟨_, _, _, rfl⟩
      · generalize plannedRest : routeFiles target snapshot _ rest = result at refused
        cases result with
        | ok files => cases refused
        | error other =>
            cases refused
            exact ih (fun route member => made route (List.mem_cons_of_mem _ member)) plannedRest

/-- For a built tree, a plan is refused for its directory or for a place that is taken. -/
theorem plan_eq_error {working : Location} {rootId : Text} {routes : List Route}
    {error : PassError} (built : RouteTree.build rootId routes = .ok snapshot.tree)
    (refused : plan working target snapshot = .error error) :
    (∃ path, error = .unsafeOutput target.output path) ∨
      ∃ place first second, error = .placeTaken place first second := by
  unfold plan at refused
  cases covered : target.firstCovered? working with
  | some path =>
      rw [covered] at refused
      cases refused
      exact .inl ⟨path, rfl⟩
  | none =>
      rw [covered] at refused
      right
      simp only [outputFiles] at refused
      rcases Declaration.exists_register built target.frameworkModule with ⟨register, registered⟩
      cases own : routeFiles target snapshot [] snapshot.routes with
      | error other =>
          rw [own] at refused
          cases refused
          exact routeFiles_eq_error
            (fun route declared => Declaration.exists_routeFile built _ declared) own
      | ok files =>
          rw [own, sharedFiles, registered] at refused
          cases refused

end Pass

/-! ## A small project -/

/-- A snapshot with a root route and no other. -/
def Snapshot.rootOnly (appDirectory : Text) : Snapshot :=
  { appDirectory, mode := [], future := {}, tree := ⟨['r'], [{ id := ['r'] }], _, _, rfl, rfl⟩ }

/-- The target of a project `p` with the output directory `t`. -/
def Target.small : Target := .new ⟨['p']⟩ ⟨['t']⟩ ['m']

/-- A disk with the project, its route config and some old output. -/
def Disk.small : Disk where
  root := .directory
    [(['p'], .directory [(['t'], .directory [(['o'], .file ['x'])]), (['c'], .file ['y'])])]
  working := []

end TypedRoutes
