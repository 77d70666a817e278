import Mathlib.Data.List.Find
import TypedRoutes.Proofs.Route.Ascent
import TypedRoutes.Proofs.Route.Parent

namespace TypedRoutes

/-!
# Which lists of routes are trees

What a list of routes must be to form a tree, and what is wrong with every other list, are stated
here on the declarations alone: ids, the parents that routes name, and whether following parents
leads to the root.  Building a tree gives that verdict and no other.
-/

namespace RouteTree

open Route (NamesParent)

/-! ## Verdicts -/

section Verdicts

variable (rootId : Text) (routes : List Route)

/-- A route is the root, or a route of its parent's id is declared. -/
def HasParent (route : Route) : Prop :=
  route.id = rootId ∨ ∃ parent, route.NamesParent rootId parent ∧ parent ∈ routes.map Route.id

/-- Following parents from a declared route leads to the root, whose own parent does not count. -/
inductive Rooted : Route → Prop where
  | root {route : Route} (declared : route ∈ routes) (isRoot : route.id = rootId) : Rooted route
  | child {route parent : Route} (declared : route ∈ routes) (notRoot : route.id ≠ rootId)
      (names : route.NamesParent rootId parent.id) (above : Rooted parent) : Rooted route

/-- What makes a list of routes a tree. -/
structure WellFormed : Prop where
  distinct : (routes.map Route.id).Nodup
  root : rootId ∈ routes.map Route.id
  parents : ∀ route ∈ routes, HasParent rootId routes route
  rooted : ∀ route ∈ routes, Rooted rootId routes route

/-- The verdict on a list of routes.  Each fault is blamed on the first route that has it, and only
where no fault of an earlier kind is in the list. -/
inductive Verdict : Except TreeError RouteTree → Prop where
  | tree {tree : RouteTree} (sameRoot : tree.rootId = rootId) (sameRoutes : tree.routes = routes)
      (wellFormed : WellFormed rootId routes) : Verdict (.ok tree)
  | repeated {before after : List Route} {route : Route} (shape : routes = before ++ route :: after)
      (distinct : (before.map Route.id).Nodup) (again : route.id ∈ before.map Route.id) :
      Verdict (.error (.duplicateRoute route.id))
  | noRoot (distinct : (routes.map Route.id).Nodup) (missing : rootId ∉ routes.map Route.id) :
      Verdict (.error (.missingRoot rootId))
  | orphan {before after : List Route} {route : Route} {parent : Text}
      (distinct : (routes.map Route.id).Nodup) (root : rootId ∈ routes.map Route.id)
      (shape : routes = before ++ route :: after)
      (parents : ∀ earlier ∈ before, HasParent rootId routes earlier)
      (notRoot : route.id ≠ rootId) (names : route.NamesParent rootId parent)
      (missing : parent ∉ routes.map Route.id) : Verdict (.error (.missingParent route.id parent))
  | unrooted {before after : List Route} {route : Route}
      (distinct : (routes.map Route.id).Nodup) (root : rootId ∈ routes.map Route.id)
      (parents : ∀ route ∈ routes, HasParent rootId routes route)
      (shape : routes = before ++ route :: after)
      (rooted : ∀ earlier ∈ before, Rooted rootId routes earlier)
      (lost : ¬ Rooted rootId routes route) : Verdict (.error (.parentCycle route.id))

end Verdicts

variable {rootId id : Text} {routes : List Route} {route : Route}

/-! ## Parents that are not declared -/

theorem hasParent_iff :
    HasParent rootId routes route ↔
      route.id = rootId ∨ route.parent rootId ∈ routes.map Route.id := by
  simp [HasParent, Route.namesParent_iff]

theorem resolves_iff {positions : Table Nat} (positioned : positionsOf routes = .ok positions) :
    Resolves rootId positions route ↔ HasParent rootId routes route := by
  rw [Resolves, lookup_ne_none_iff positioned, hasParent_iff]

/-- Every parent in a tree is declared. -/
theorem hasParent (tree : RouteTree) (declared : route ∈ tree.routes) :
    HasParent tree.rootId tree.routes route :=
  hasParent_iff.2 (tree.resolves declared)

/-! ## Routes that are not below the root -/

section Trees

variable {tree : RouteTree}

/-- A declared route is below the root exactly if there is a way up from it. -/
theorem rooted_iff_ascent (declared : route ∈ tree.routes) :
    Rooted tree.rootId tree.routes route ↔ ∃ way, Ascent tree route way := by
  constructor
  · intro rooted
    clear declared
    induction rooted with
    | root _ isRoot => exact ⟨_, .root isRoot⟩
    | @child route parent _ notRoot names above ih =>
        rcases ih with ⟨way, ascent⟩
        have declaredParent : parent ∈ tree.routes := by
          cases above with
          | root declared _ => exact declared
          | child declared _ _ _ => exact declared
        refine ⟨route :: way, .step notRoot ?_ ascent⟩
        rw [Route.namesParent_iff.1 names]
        exact find?_id declaredParent
  · rintro ⟨way, ascent⟩
    induction ascent with
    | root isRoot => exact .root declared isRoot
    | step notRoot isParent _ ih =>
        refine .child declared notRoot ?_ (ih (mem_of_find? isParent))
        rw [Route.namesParent_iff, id_of_find? isParent]

/-- From every route of well-formed declarations there is a way up. -/
theorem WellFormed.exists_ascent (wellFormed : WellFormed tree.rootId tree.routes)
    (declared : route ∈ tree.routes) : ∃ way, Ascent tree route way :=
  (rooted_iff_ascent declared).1 (wellFormed.rooted route declared)

open scoped Classical in
/-- Going through the positions of a tree is asking its routes. -/
theorem firstUnrooted?_eq (tree : RouteTree) : tree.firstUnrooted? =
    (tree.routes.find? fun route => ¬ Rooted tree.rootId tree.routes route).map Route.id := by
  have asked : tree.routes.zipIdx.find? (fun entry => (tree.descent? entry.2).isNone) =
      tree.routes.zipIdx.find? fun entry => ¬ Rooted tree.rootId tree.routes entry.1 := by
    refine List.find?_congr fun entry member => ?_
    have isRoute := List.mem_zipIdx_iff_getElem?.1 member
    rw [Bool.eq_iff_iff, Option.isNone_iff_eq_none, descent?_eq_none_iff isRoute, decide_eq_true_eq,
      rooted_iff_ascent (List.mem_of_getElem? isRoute)]
  have routes : tree.routes.find? (fun route => ¬ Rooted tree.rootId tree.routes route) =
      (tree.routes.zipIdx.find? fun entry => ¬ Rooted tree.rootId tree.routes entry.1).map
        Prod.fst := by
    conv_lhs => arg 2; rw [← List.zipIdx_map_fst 0 tree.routes]
    rw [List.find?_map]
    rfl
  rw [firstUnrooted?, asked, routes, Option.map_map]
  rfl

/-- The first route that is not below the root is blamed. -/
theorem firstUnrooted?_eq_some_iff :
    tree.firstUnrooted? = some id ↔
      ∃ before route after, tree.routes = before ++ route :: after ∧
        (∀ earlier ∈ before, Rooted tree.rootId tree.routes earlier) ∧
          ¬ Rooted tree.rootId tree.routes route ∧ route.id = id := by
  simp only [firstUnrooted?_eq, Option.map_eq_some_iff, List.find?_eq_some_iff_append,
    Bool.not_eq_true', decide_eq_true_eq, decide_eq_false_iff_not, not_not]
  constructor
  · rintro ⟨route, ⟨lost, before, after, shape, rooted⟩, isId⟩
    exact ⟨before, route, after, shape, rooted, lost, isId⟩
  · rintro ⟨before, route, after, shape, rooted, lost, isId⟩
    exact ⟨route, ⟨lost, before, after, shape, rooted⟩, isId⟩

theorem firstUnrooted?_eq_none_iff :
    tree.firstUnrooted? = none ↔ ∀ route ∈ tree.routes, Rooted tree.rootId tree.routes route := by
  simp [firstUnrooted?_eq]

end Trees

/-! ## Building -/

section Steps

variable {positions : Table Nat} {error : TreeError}

theorem build_of_unpositioned (failed : positionsOf routes = .error error) :
    build rootId routes = .error error := by
  unfold build
  split
  case h_1 other isError =>
    cases failed.symm.trans isError
    rfl
  case h_2 positions isOk => cases failed.symm.trans isOk

theorem build_of_no_root (positioned : positionsOf routes = .ok positions)
    (missing : rootId ∉ routes.map Route.id) :
    build rootId routes = .error (.missingRoot rootId) := by
  rw [← lookup_ne_none_iff positioned, not_not] at missing
  unfold build
  split
  case h_1 other isError => cases positioned.symm.trans isError
  case h_2 others isOk =>
    cases positioned.symm.trans isOk
    rw [missing]
    rfl

section Linking

variable (positioned : positionsOf routes = .ok positions) (hasRoot : rootId ∈ routes.map Route.id)

include positioned hasRoot

theorem build_of_unlinked (failed : linksOf rootId positions routes = .error error) :
    build rootId routes = .error error := by
  have found := (lookup_ne_none_iff positioned).2 hasRoot
  unfold build
  split
  case h_1 other isError => cases positioned.symm.trans isError
  case h_2 others isOk =>
    cases positioned.symm.trans isOk
    rw [if_neg (by simpa using found)]
    split
    case h_1 other isError =>
      cases failed.symm.trans isError
      rfl
    case h_2 links isOk => cases failed.symm.trans isOk

/-- With all links, the tree is there, and only its ways to the root are in question. -/
theorem exists_build_of_linked {links : Links} (linked : linksOf rootId positions routes = .ok links) :
    ∃ tree : RouteTree, tree.rootId = rootId ∧ tree.routes = routes ∧
      build rootId routes = match tree.firstUnrooted? with
        | some id => .error (.parentCycle id)
        | none => .ok tree := by
  have found := (lookup_ne_none_iff positioned).2 hasRoot
  refine ⟨⟨rootId, routes, positions, links, positioned, linked⟩, rfl, rfl, ?_⟩
  unfold build
  split
  case h_1 other isError => cases positioned.symm.trans isError
  case h_2 others isOk =>
    cases positioned.symm.trans isOk
    rw [if_neg (by simpa using found)]
    split
    case h_1 other isError => cases linked.symm.trans isError
    case h_2 others isOk =>
      cases linked.symm.trans isOk
      rfl

end Linking

end Steps

/-- What building a tree gives is the verdict. -/
theorem verdict_build (rootId : Text) (routes : List Route) :
    Verdict rootId routes (build rootId routes) := by
  cases positioned : positionsOf routes with
  | error error =>
      rw [build_of_unpositioned positioned]
      rcases exists_repeated_of_positionsOf positioned with
        ⟨before, route, after, shape, distinct, again, rfl⟩
      exact .repeated shape distinct again
  | ok positions =>
      have distinct := distinct_of_positionsOf positioned
      by_cases hasRoot : rootId ∈ routes.map Route.id
      · cases linked : linksOf rootId positions routes with
        | error error =>
            rw [build_of_unlinked positioned hasRoot linked]
            rcases exists_orphan_of_loop linked with
              ⟨before, route, after, shape, resolves, lost, rfl⟩
            simp only [resolves_iff positioned] at resolves lost
            rw [hasParent_iff, not_or] at lost
            exact .orphan distinct hasRoot shape resolves lost.1 (Route.namesParent_iff.2 rfl) lost.2
        | ok links =>
            rcases exists_build_of_linked positioned hasRoot linked with ⟨tree, rfl, rfl, isBuilt⟩
            rw [isBuilt]
            cases unrooted : tree.firstUnrooted? with
            | some id =>
                rcases firstUnrooted?_eq_some_iff.1 unrooted with
                  ⟨before, route, after, shape, rooted, lost, rfl⟩
                exact .unrooted distinct hasRoot (fun _ => hasParent tree) shape rooted lost
            | none =>
                exact .tree rfl rfl ⟨distinct, hasRoot, fun _ => hasParent tree,
                  firstUnrooted?_eq_none_iff.1 unrooted⟩
      · rw [build_of_no_root positioned hasRoot]
        exact .noRoot distinct hasRoot

theorem wellFormed_of_build {tree : RouteTree} (built : build rootId routes = .ok tree) :
    tree.rootId = rootId ∧ tree.routes = routes ∧ WellFormed rootId routes := by
  have verdict := verdict_build rootId routes
  rw [built] at verdict
  cases verdict with
  | tree sameRoot sameRoutes wellFormed => exact ⟨sameRoot, sameRoutes, wellFormed⟩

/-- Where ids are distinct, the root is declared and every parent is, building depends on the ways to
the root alone. -/
theorem build_of_parents (distinct : (routes.map Route.id).Nodup)
    (hasRoot : rootId ∈ routes.map Route.id)
    (parents : ∀ route ∈ routes, HasParent rootId routes route) :
    ∃ tree : RouteTree, tree.rootId = rootId ∧ tree.routes = routes ∧
      build rootId routes = match tree.firstUnrooted? with
        | some id => .error (.parentCycle id)
        | none => .ok tree := by
  rcases exists_positionsOf distinct with ⟨positions, positioned⟩
  rcases exists_loop fun route declared => (resolves_iff positioned).2 (parents route declared) with
    ⟨links, linked⟩
  exact exists_build_of_linked positioned hasRoot linked

theorem exists_build (wellFormed : WellFormed rootId routes) :
    ∃ tree, build rootId routes = .ok tree := by
  rcases build_of_parents wellFormed.distinct wellFormed.root wellFormed.parents with
    ⟨tree, rfl, rfl, isBuilt⟩
  exact ⟨tree, by rw [isBuilt, firstUnrooted?_eq_none_iff.2 wellFormed.rooted]⟩

/-- Building a tree gives the verdict on the list of routes, and there is only one verdict. -/
theorem build_eq_iff {answer : Except TreeError RouteTree} :
    build rootId routes = answer ↔ Verdict rootId routes answer := by
  constructor
  · rintro rfl
    exact verdict_build rootId routes
  · intro verdict
    cases verdict with
    | repeated shape distinct again =>
        exact build_of_unpositioned (positionsOf_of_repeated shape distinct again)
    | noRoot distinct missing =>
        rcases exists_positionsOf distinct with ⟨positions, positioned⟩
        exact build_of_no_root positioned missing
    | @orphan before after route parent distinct root shape parents notRoot names missing =>
        rcases exists_positionsOf distinct with ⟨positions, positioned⟩
        rw [Route.namesParent_iff] at names
        subst names
        refine build_of_unlinked positioned root (linksOf_of_orphan shape ?_ ?_)
        · exact fun earlier member => (resolves_iff positioned).2 (parents earlier member)
        · rw [resolves_iff positioned, hasParent_iff, not_or]
          exact ⟨notRoot, missing⟩
    | @unrooted before after route distinct root parents shape rooted lost =>
        rcases build_of_parents distinct root parents with ⟨tree, rfl, rfl, isBuilt⟩
        rw [isBuilt, firstUnrooted?_eq_some_iff.2 ⟨before, route, after, shape, rooted, lost, rfl⟩]
    | @tree tree sameRoot sameRoutes wellFormed =>
        rcases exists_build wellFormed with ⟨other, isBuilt⟩
        rcases wellFormed_of_build isBuilt with ⟨isRoot, isRoutes, -⟩
        rw [isBuilt, eq_iff.2 ⟨isRoot.trans sameRoot.symm, isRoutes.trans sameRoutes.symm⟩]

/-- Two routes that name each other as parents are rejected, and the first of them is blamed. -/
example :
    build ['r'] [{ id := ['r'] }, { id := ['a'], parentId := some ['b'] },
      { id := ['b'], parentId := some ['a'] }] = .error (.parentCycle ['a']) := by rfl

end RouteTree
end TypedRoutes
