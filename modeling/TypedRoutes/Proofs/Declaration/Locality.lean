import TypedRoutes.Proofs.Declaration.Placement
import TypedRoutes.Proofs.Route.Building
import TypedRoutes.Proofs.Route.FullPath
import TypedRoutes.Proofs.Route.Tree

namespace TypedRoutes

/-!
# What a declaration depends on

A declaration is generated from the routes between the root and its own, and from nothing else that
is declared.  Two trees in which these routes are the same give the same file, wherever the routes
stand in the two lists and whatever stands beside them.
-/

namespace RouteTree

variable {tree other : RouteTree} {route : Route} {way lineage : List Route}

/-- A way leads to the root of every tree in which the routes on it are declared: a parent is found
by its id, and ids are distinct there. -/
theorem Ascent.transfer (ascent : Ascent tree route way) (sameRoot : other.rootId = tree.rootId)
    (kept : ∀ passed ∈ way, passed ∈ other.routes) : Ascent other route way := by
  induction ascent with
  | root isRoot =>
      apply Ascent.root
      rw [sameRoot]
      exact isRoot
  | @step route parent above notRoot isParent rest ih =>
      have keptAbove : ∀ passed ∈ above, passed ∈ other.routes :=
        fun passed member => kept passed (List.mem_cons_of_mem _ member)
      have parentDeclared : parent ∈ other.routes := by
        rcases rest.exists_cons with ⟨beyond, rfl⟩
        exact keptAbove parent List.mem_cons_self
      refine .step (by rwa [sameRoot]) ?_ (ih keptAbove)
      rw [sameRoot, ← id_of_find? isParent]
      exact find?_id parentDeclared

/-- A declared route is on its own lineage. -/
theorem mem_lineage (declared : route ∈ tree.routes)
    (isLineage : tree.lineage route.id = .ok lineage) : route ∈ lineage := by
  rcases exists_ancestors declared isLineage with ⟨ancestors, rfl⟩
  exact List.mem_append_right _ List.mem_cons_self

/-- A lineage stays what it is in every tree that has all its routes. -/
theorem lineage_transfer (declared : route ∈ tree.routes)
    (isLineage : tree.lineage route.id = .ok lineage) (sameRoot : other.rootId = tree.rootId)
    (kept : ∀ passed ∈ lineage, passed ∈ other.routes) :
    other.lineage route.id = .ok lineage := by
  have ascent := (lineage_eq_ok_iff declared).1 isLineage
  rw [lineage_eq_ok_iff (kept route (mem_lineage declared isLineage))]
  apply ascent.transfer sameRoot
  intro passed member
  exact kept passed (List.mem_reverse.1 member)

end RouteTree

namespace Declaration

variable {rootId : Text} {routes others : List Route} {before after : Snapshot} {route : Route}

/-- Of a snapshot, the text for a route with a given lineage uses three things only. -/
theorem routeFileOf_congr {lineage : List Route} {frameworkModule : Text}
    (sameRoot : after.tree.rootId = before.tree.rootId)
    (sameApp : after.appDirectory = before.appDirectory) (sameFuture : after.future = before.future) :
    routeFileOf frameworkModule after route lineage
      = routeFileOf frameworkModule before route lineage := by
  have sameSpecifiers : parentSpecifiers after route lineage.dropLast
      = parentSpecifiers before route lineage.dropLast := by
    rw [parentSpecifiers, sameApp, parentSpecifiers]
  have sameCapabilities : capabilities frameworkModule after route
      = capabilities frameworkModule before route := by
    rw [capabilities, sameRoot, sameFuture, capabilities]
  rw [routeFileOf, sameSpecifiers, sameCapabilities, routeFileOf]

/-- What two snapshots have in common about a route: each answer is given by both. -/
structure Shared (frameworkModule : Text) (before after : Snapshot) (route : Route) : Prop where
  found : before.tree.find? route.id = some route ∧ after.tree.find? route.id = some route
  lineage : ∃ lineage, before.tree.lineage route.id = .ok lineage
    ∧ after.tree.lineage route.id = .ok lineage
  fullPath : ∃ path, before.tree.fullPath route.id = .ok path
    ∧ after.tree.fullPath route.id = .ok path
  params : ∃ params, (before.tree.fullPath route.id).map Params.ofPath = .ok params
    ∧ (after.tree.fullPath route.id).map Params.ofPath = .ok params
  place : Placement.path before.appDirectory route.id = Placement.path after.appDirectory route.id
  text : ∃ text, routeFile frameworkModule before route = .ok text
    ∧ routeFile frameworkModule after route = .ok text

/-- A declaration depends on the route's own lineage.  Where the routes on it are declared again,
unchanged, nothing that is said about the route differs: the two lists may be in any order, may
declare anything else beside the lineage, and the mode is free. -/
theorem shared_of_kept_lineage (frameworkModule : Text)
    (built : RouteTree.build rootId routes = .ok before.tree)
    (builtAfter : RouteTree.build rootId others = .ok after.tree)
    (sameApp : after.appDirectory = before.appDirectory) (sameFuture : after.future = before.future)
    (declared : route ∈ routes)
    (kept : ∀ lineage, before.tree.lineage route.id = .ok lineage →
      ∀ passed ∈ lineage, passed ∈ others) :
    Shared frameworkModule before after route := by
  rcases RouteTree.wellFormed_of_build built with ⟨isRoot, isRoutes, -⟩
  rcases RouteTree.wellFormed_of_build builtAfter with ⟨isRootAfter, isRoutesAfter, -⟩
  have isDeclared : route ∈ before.tree.routes := by rwa [isRoutes]
  have sameRoot : after.tree.rootId = before.tree.rootId := isRootAfter.trans isRoot.symm
  rcases RouteTree.exists_lineage built isDeclared with ⟨lineage, isLineage⟩
  have keptAfter : ∀ passed ∈ lineage, passed ∈ after.tree.routes := by
    rw [isRoutesAfter]
    exact kept lineage isLineage
  have isLineageAfter : after.tree.lineage route.id = .ok lineage :=
    RouteTree.lineage_transfer isDeclared isLineage sameRoot keptAfter
  have isDeclaredAfter : route ∈ after.tree.routes :=
    keptAfter route (RouteTree.mem_lineage isDeclared isLineage)
  have isPath : before.tree.fullPath route.id = .ok (FullPath.ofLineage lineage) :=
    RouteTree.fullPath_eq_ok_iff.2 ⟨lineage, isLineage, rfl⟩
  have isPathAfter : after.tree.fullPath route.id = .ok (FullPath.ofLineage lineage) :=
    RouteTree.fullPath_eq_ok_iff.2 ⟨lineage, isLineageAfter, rfl⟩
  exact {
    found := ⟨RouteTree.find?_id isDeclared, RouteTree.find?_id isDeclaredAfter⟩
    lineage := ⟨lineage, isLineage, isLineageAfter⟩
    fullPath := ⟨_, isPath, isPathAfter⟩
    params := ⟨_, by rw [isPath]; rfl, by rw [isPathAfter]; rfl⟩
    place := by rw [sameApp]
    text := by
      refine ⟨routeFileOf frameworkModule before route lineage, ?_, ?_⟩
      · rw [routeFile, isLineage]
        rfl
      · rw [routeFile, isLineageAfter, ← routeFileOf_congr sameRoot sameApp sameFuture]
        rfl }

/-- The route `a/b` keeps its file when the list is turned round, its sibling is edited, another
route is added and the mode changes. -/
theorem shared_of_kept_lineage_reordered :
    let route : Route := { id := "a/b", path := some ":x" }
    let middle : Route := { id := "a", path := some "p" }
    let root : Route := { id := "root" }
    let routes := [root, middle, route, { id := "a/c", path := some "q" }]
    let others := [{ id := "a/c", file := some "c", index := true }, { id := "d" },
      route, middle, root]
    Shared "f" ⟨"app", "development", {}, ⟨"root", routes, _, _, rfl, rfl⟩⟩
      ⟨"app", "production", {}, ⟨"root", others, _, _, rfl, rfl⟩⟩ route := by
  intro route middle root routes others
  have built : RouteTree.build "root" routes = .ok ⟨"root", routes, _, _, rfl, rfl⟩ := by rfl
  have builtAfter : RouteTree.build "root" others = .ok ⟨"root", others, _, _, rfl, rfl⟩ := by rfl
  have isLineage : RouteTree.lineage ⟨"root", routes, _, _, rfl, rfl⟩ route.id =
      .ok [root, middle, route] := by rfl
  refine shared_of_kept_lineage "f" built builtAfter rfl rfl (by decide) ?_
  intro lineage same
  cases isLineage.symm.trans same
  decide

end Declaration
end TypedRoutes
