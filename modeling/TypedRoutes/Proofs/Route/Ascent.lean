import Mathlib.Data.List.Perm.Subperm
import TypedRoutes.Proofs.Route.Links

namespace TypedRoutes

/-!
# The way up from a route

From a route one climbs from parent to parent until the root.  The way is determined by where it
starts, so it passes no route twice, so it is no longer than the list of declared routes; the bound
on the steps of a climb therefore cuts off no way that ends at the root.
-/

namespace RouteTree

variable {tree : RouteTree} {route other parent : Route} {way : List Route} {position : Nat}

/-! ## Ways to the root -/

/-- The way from a route up to the root, the route first. -/
inductive Ascent (tree : RouteTree) : Route → List Route → Prop where
  | root {route : Route} (isRoot : route.id = tree.rootId) : Ascent tree route [route]
  | step {route parent : Route} {above : List Route} (notRoot : route.id ≠ tree.rootId)
      (isParent : tree.find? (route.parent tree.rootId) = some parent)
      (rest : Ascent tree parent above) : Ascent tree route (route :: above)

namespace Ascent

theorem exists_cons (ascent : Ascent tree route way) : ∃ above, way = route :: above := by
  cases ascent with
  | root _ => exact ⟨[], rfl⟩
  | step _ _ _ => exact ⟨_, rfl⟩

/-- Where a way starts determines the way. -/
theorem unique {second : List Route} (ascent : Ascent tree route way)
    (ascentAgain : Ascent tree route second) : way = second := by
  induction ascent generalizing second with
  | root isRoot =>
      cases ascentAgain with
      | root _ => rfl
      | step notRoot _ _ => exact absurd isRoot notRoot
  | step notRoot isParent _ ih =>
      cases ascentAgain with
      | root isRoot => exact absurd isRoot notRoot
      | step _ isParentAgain rest =>
          cases isParent.symm.trans isParentAgain
          rw [ih rest]

/-- Every route on a way has its own way, which ends the first one. -/
theorem exists_suffix (ascent : Ascent tree route way) (passed : other ∈ way) :
    ∃ rest, rest <:+ way ∧ Ascent tree other rest := by
  induction ascent with
  | root isRoot =>
      rw [List.mem_singleton.1 passed]
      exact ⟨_, List.suffix_rfl, .root isRoot⟩
  | step notRoot isParent above ih =>
      rcases List.mem_cons.1 passed with rfl | later
      · exact ⟨_, List.suffix_rfl, .step notRoot isParent above⟩
      · rcases ih later with ⟨rest, isSuffix, ascentRest⟩
        exact ⟨rest, isSuffix.trans (List.suffix_cons _ _), ascentRest⟩

/-- No way comes back to a route: the way from there would be longer than itself. -/
theorem nodup (ascent : Ascent tree route way) : way.Nodup := by
  induction ascent with
  | root _ => exact List.nodup_singleton _
  | @step route parent above notRoot isParent rest ih =>
      refine List.nodup_cons.2 ⟨fun again => ?_, ih⟩
      rcases rest.exists_suffix again with ⟨shorter, isSuffix, ascentShorter⟩
      have same := ascentShorter.unique (.step notRoot isParent rest)
      have bound := isSuffix.length_le
      rw [same, List.length_cons] at bound
      omega

theorem declared (ascent : Ascent tree route way) (start : route ∈ tree.routes) :
    ∀ passed ∈ way, passed ∈ tree.routes := by
  induction ascent with
  | root _ => simpa using start
  | step _ isParent _ ih =>
      intro passed member
      rcases List.mem_cons.1 member with rfl | later
      · exact start
      · exact ih (mem_of_find? isParent) passed later

theorem length_le (ascent : Ascent tree route way) (start : route ∈ tree.routes) :
    way.length ≤ tree.routes.length :=
  (List.subperm_of_subset ascent.nodup (ascent.declared start)).length_le

end Ascent

/-! ## Climbing -/

theorem routesAt_cons (isRoute : tree.routes[position]? = some route) (positions : List Nat) :
    tree.routesAt (position :: positions) = route :: tree.routesAt positions :=
  List.filterMap_cons_some isRoute

/-- Only the root has no link upwards. -/
theorem parentAt?_eq_none_iff (isRoute : tree.routes[position]? = some route) :
    tree.links.parentAt? position = none ↔ route.id = tree.rootId := by
  rw [parentAt?_eq isRoute]
  split
  case isTrue isRoot => simp [isRoot]
  case isFalse notRoot =>
    have named := (tree.resolves (List.mem_of_getElem? isRoute)).resolve_left notRoot
    simp [position?_eq_none_iff, notRoot, named]

/-- A link upwards leads to the route that is found by the id of the parent. -/
theorem exists_parent_of_parentAt? {above : Nat} (isRoute : tree.routes[position]? = some route)
    (isAbove : tree.links.parentAt? position = some above) :
    route.id ≠ tree.rootId ∧ ∃ parent, tree.routes[above]? = some parent ∧
      tree.find? (route.parent tree.rootId) = some parent := by
  rw [parentAt?_eq isRoute] at isAbove
  split at isAbove
  case isTrue => cases isAbove
  case isFalse notRoot =>
    rcases position?_eq_some_iff.1 isAbove with ⟨parent, isParent, -⟩
    exact ⟨notRoot, parent, isParent, by rw [find?, isAbove, Option.bind_some, isParent]⟩

/-- A climb finds the ways that its bound allows. -/
theorem climb?_eq_some_iff {steps : Nat} (isRoute : tree.routes[position]? = some route) :
    (tree.climb? steps position).map tree.routesAt = some way ↔
      Ascent tree route way ∧ way.length ≤ steps + 1 := by
  induction steps generalizing position route way with
  | zero =>
      rw [climb?]
      by_cases isRoot : route.id = tree.rootId
      · rw [if_pos ((parentAt?_eq_none_iff isRoute).2 isRoot), Option.map_some, routesAt_cons isRoute,
          Option.some.injEq]
        constructor
        · rintro rfl
          exact ⟨.root isRoot, Nat.le_refl 1⟩
        · rintro ⟨ascent, -⟩
          exact (Ascent.root isRoot).unique ascent
      · rw [if_neg (mt (parentAt?_eq_none_iff isRoute).1 isRoot)]
        constructor
        · intro none
          cases none
        · rintro ⟨ascent, short⟩
          cases ascent with
          | root isRoot' => exact absurd isRoot' isRoot
          | step _ _ rest =>
              rcases rest.exists_cons with ⟨above, rfl⟩
              simp at short
  | succ steps ih =>
      rw [climb?]
      cases isAbove : tree.links.parentAt? position with
      | none =>
          have isRoot := (parentAt?_eq_none_iff isRoute).1 isAbove
          rw [Option.map_some, routesAt_cons isRoute, Option.some.injEq]
          constructor
          · rintro rfl
            exact ⟨.root isRoot, Nat.le_add_left 1 _⟩
          · rintro ⟨ascent, -⟩
            exact (Ascent.root isRoot).unique ascent
      | some above =>
          rcases exists_parent_of_parentAt? isRoute isAbove with ⟨notRoot, parent, atAbove, isParent⟩
          have climbs : ((tree.climb? steps above).map (position :: ·)).map tree.routesAt =
              ((tree.climb? steps above).map tree.routesAt).map (route :: ·) := by
            rw [Option.map_map, Option.map_map]
            exact congrArg (Option.map · _) (funext fun _ => routesAt_cons isRoute _)
          simp only [climbs, Option.map_eq_some_iff, ih atAbove]
          constructor
          · rintro ⟨rest, ⟨ascent, short⟩, rfl⟩
            exact ⟨.step notRoot isParent ascent, Nat.succ_le_succ short⟩
          · rintro ⟨ascent, short⟩
            cases ascent with
            | root isRoot => exact absurd isRoot notRoot
            | step _ isParentToo rest =>
                cases isParent.symm.trans isParentToo
                exact ⟨_, ⟨rest, Nat.le_of_succ_le_succ short⟩, rfl⟩

/-- The bound on the steps cuts off nothing. -/
theorem descent?_eq_some_iff (isRoute : tree.routes[position]? = some route) :
    (tree.descent? position).map tree.routesAt = some way ↔ Ascent tree route way.reverse := by
  have turned : (tree.descent? position).map tree.routesAt =
      ((tree.climb? tree.routes.length position).map tree.routesAt).map List.reverse := by
    rw [descent?, Option.map_map, Option.map_map]
    exact congrArg (Option.map · _) (funext fun _ => List.filterMap_reverse ..)
  rw [turned, Option.map_eq_some_iff]
  constructor
  · rintro ⟨ascending, climbs, rfl⟩
    rw [List.reverse_reverse]
    exact ((climb?_eq_some_iff isRoute).1 climbs).1
  · intro ascent
    have short := ascent.length_le (List.mem_of_getElem? isRoute)
    exact ⟨way.reverse, (climb?_eq_some_iff isRoute).2 ⟨ascent, by omega⟩, List.reverse_reverse way⟩

theorem descent?_eq_none_iff (isRoute : tree.routes[position]? = some route) :
    tree.descent? position = none ↔ ¬ ∃ way, Ascent tree route way := by
  rw [← Option.map_eq_none_iff (f := tree.routesAt), Option.eq_none_iff_forall_ne_some]
  constructor
  · rintro none ⟨way, ascent⟩
    apply none way.reverse
    rwa [descent?_eq_some_iff isRoute, List.reverse_reverse]
  · intro none way found
    exact none ⟨_, (descent?_eq_some_iff isRoute).1 found⟩

/-! ## Lineages -/

theorem lineage_of_unknown {id : Text} (unknown : id ∉ tree.routes.map Route.id) :
    tree.lineage id = .error (.unknownRoute id) := by
  rw [lineage, position?_eq_none_iff.2 unknown]

/-- The lineage of a declared route, read upwards, is the way to the root. -/
theorem lineage_eq_ok_iff (declared : route ∈ tree.routes) :
    tree.lineage route.id = .ok way ↔ Ascent tree route way.reverse := by
  rcases List.getElem?_of_mem declared with ⟨position, isRoute⟩
  rw [lineage, position?_eq_some_iff.2 ⟨route, isRoute, rfl⟩, ← descent?_eq_some_iff isRoute]
  simp only
  cases tree.descent? position <;> simp

/-- The way up from a declared route, read downwards, is its lineage. -/
theorem Ascent.lineage_eq (ascent : Ascent tree route way) (declared : route ∈ tree.routes) :
    tree.lineage route.id = .ok way.reverse := by
  rwa [lineage_eq_ok_iff declared, List.reverse_reverse]

/-- A lineage is the ancestors and then the route. -/
theorem exists_ancestors (declared : route ∈ tree.routes)
    (isLineage : tree.lineage route.id = .ok way) : ∃ ancestors, way = ancestors ++ [route] := by
  rcases ((lineage_eq_ok_iff declared).1 isLineage).exists_cons with ⟨above, upward⟩
  exact ⟨above.reverse, by rw [← List.reverse_reverse way, upward, List.reverse_cons]⟩

end RouteTree
end TypedRoutes
