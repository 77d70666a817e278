import TypedRoutes.Proofs.Route.Building
import Mathlib.Data.List.Chain

namespace TypedRoutes

/-!
# Built trees are rooted trees

In a tree that was built the questions about a route agree with each other: its lineage leads from the
root down to it, each route in it the parent of the next; a route is a child of its parent and of no
other route; and the root alone has no parent.
-/

namespace RouteTree

/-! ## Coherence -/

/-- A list of declared routes that leads from the root down to a route, parent by parent. -/
structure IsLineage (tree : RouteTree) (route : Route) (lineage : List Route) : Prop where
  first : ∃ root ∈ tree.routes, root.id = tree.rootId ∧ lineage.head? = some root
  last : lineage.getLast? = some route
  declared : ∀ passed ∈ lineage, passed ∈ tree.routes
  distinct : (lineage.map Route.id).Nodup
  linked : lineage.IsChain fun above below => tree.parent? below.id = some above

/-- The answers of a tree fit together. -/
structure Coherent (tree : RouteTree) : Prop where
  lineage : ∀ route ∈ tree.routes, ∃ lineage,
    tree.lineage route.id = .ok lineage ∧ IsLineage tree route lineage
  lineage_unknown : ∀ id, id ∉ tree.routes.map Route.id →
    tree.lineage id = .error (.unknownRoute id)
  parent_none : ∀ route ∈ tree.routes, tree.parent? route.id = none ↔ route.id = tree.rootId
  /-- A route other than the root stands once among the children of its parent, and among those of
  no other id. -/
  parent : ∀ route ∈ tree.routes, route.id ≠ tree.rootId → ∃ parent ∈ tree.routes,
    tree.parent? route.id = some parent ∧ route.NamesParent tree.rootId parent.id ∧
      (tree.children parent.id).count route = 1 ∧
      ∀ id ≠ parent.id, route ∉ tree.children id
  /-- Children come in the order of declaration. -/
  children_order : ∀ id, (tree.children id).Sublist tree.routes

variable {tree : RouteTree} {route parent : Route} {way : List Route}

/-! ## Children -/

theorem mem_children_iff {id : Text} :
    route ∈ tree.children id ↔
      route ∈ tree.routes ∧ route.id ≠ tree.rootId ∧ route.parent tree.rootId = id := by
  rw [children_eq, List.mem_filter]
  exact and_congr_right any_parent?_iff

/-! ## Lineages -/

/-- On the way up, each route is followed by its parent. -/
theorem Ascent.linked (ascent : Ascent tree route way) (declared : route ∈ tree.routes) :
    way.IsChain fun below above => tree.parent? below.id = some above := by
  induction ascent with
  | root _ => exact .singleton _
  | step notRoot isParent rest ih =>
      have linkedRest := ih (mem_of_find? isParent)
      rcases rest.exists_cons with ⟨above, rfl⟩
      exact .cons_cons ((parent?_eq_some_iff declared).2 ⟨notRoot, isParent⟩) linkedRest

theorem Ascent.id_getLast? (ascent : Ascent tree route way) :
    ∃ root ∈ way, root.id = tree.rootId ∧ way.getLast? = some root := by
  induction ascent with
  | root isRoot => exact ⟨_, List.mem_singleton_self _, isRoot, rfl⟩
  | step _ _ rest ih =>
      rcases ih with ⟨root, member, isRoot, last⟩
      rcases rest.exists_cons with ⟨above, rfl⟩
      exact ⟨root, List.mem_cons_of_mem _ member, isRoot, by rwa [List.getLast?_cons_cons]⟩

/-- A way up, read downwards, is a lineage. -/
theorem Ascent.isLineage (ascent : Ascent tree route way) (declared : route ∈ tree.routes) :
    IsLineage tree route way.reverse where
  first := by
    rcases ascent.id_getLast? with ⟨root, member, isRoot, last⟩
    exact ⟨root, ascent.declared declared root member, isRoot, by rw [List.head?_reverse, last]⟩
  last := by
    rcases ascent.exists_cons with ⟨above, rfl⟩
    rw [List.getLast?_reverse, List.head?_cons]
  declared passed member := ascent.declared declared passed (List.mem_reverse.1 member)
  distinct := by
    rw [List.map_reverse, List.nodup_reverse]
    refine ascent.nodup.map_on fun first isPassed second isPassedToo same => ?_
    exact List.inj_on_of_nodup_map tree.distinct (ascent.declared declared first isPassed)
      (ascent.declared declared second isPassedToo) same
  linked := by
    rw [List.isChain_reverse]
    exact ascent.linked declared

/-! ## Built trees -/

/-- A tree of well-formed declarations is coherent. -/
theorem WellFormed.coherent (wellFormed : WellFormed tree.rootId tree.routes) : Coherent tree where
  lineage route declared := by
    rcases wellFormed.exists_ascent declared with ⟨way, ascent⟩
    exact ⟨way.reverse, ascent.lineage_eq declared, ascent.isLineage declared⟩
  lineage_unknown _ := lineage_of_unknown
  parent_none route declared := by
    rw [Option.eq_none_iff_forall_ne_some]
    constructor
    · intro none
      by_contra notRoot
      rcases exists_parent? declared notRoot with ⟨parent, -, -, isParent⟩
      exact none parent isParent
    · intro isRoot parent isParent
      exact ((parent?_eq_some_iff declared).1 isParent).1 isRoot
  parent route declared notRoot := by
    rcases exists_parent? declared notRoot with ⟨parent, isDeclared, isNamed, isParent⟩
    refine ⟨parent, isDeclared, isParent, Route.namesParent_iff.2 isNamed.symm, ?_, ?_⟩
    · have once : (tree.children parent.id).Nodup := by
        rw [children_eq]
        exact (tree.distinct.of_map _).filter _
      exact List.count_eq_one_of_mem once (mem_children_iff.2 ⟨declared, notRoot, isNamed.symm⟩)
    · intro id other member
      exact other ((mem_children_iff.1 member).2.2.symm.trans isNamed.symm)
  children_order id := by
    rw [children_eq]
    exact List.filter_sublist

end RouteTree
end TypedRoutes
