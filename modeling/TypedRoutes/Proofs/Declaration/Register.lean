import TypedRoutes.Declaration.Register
import TypedRoutes.Proofs.Output.Plan
import TypedRoutes.Proofs.Route.FullPath

namespace TypedRoutes

/-!
# The registered full paths

The register lists the full paths of all routes of a tree, although only the root and the routes with
a pattern are asked: what the others have is what one of these has too.  Each path is listed once, in
the order in which the routes that are asked are declared, and the empty path is not.
-/

namespace Declaration

open Pass (map_eq_ok_iff mapM_eq_ok_iff_forall₂)

/-! ## What a register should list -/

/-- A route brings a full path to the register: it is the root or has a pattern, and the path is
its own. -/
def Contributes (tree : RouteTree) (path : Text) (route : Route) : Prop :=
  (route.id = tree.rootId ∨ route.segment? ≠ none) ∧ tree.fullPath route.id = .ok path

instance (tree : RouteTree) (path : Text) : DecidablePred (Contributes tree path) := fun _ =>
  inferInstanceAs (Decidable (_ ∧ _))

/-- The position of the first route that brings a full path, if any does. -/
def firstContributor (tree : RouteTree) (path : Text) : Nat :=
  tree.routes.findIdx fun route => Contributes tree path route

/-- The entries of a register that loses no full path of the tree and invents none. -/
structure IsRegister (tree : RouteTree) (entries : List (Text × Params)) : Prop where
  distinct : (entries.map Prod.fst).Nodup
  /-- The full paths of all routes are listed, the empty one excepted, and no others. -/
  paths : ∀ path, path ∈ entries.map Prod.fst ↔
    path ≠ [] ∧ ∃ route ∈ tree.routes, tree.fullPath route.id = .ok path
  contributed : ∀ path ∈ entries.map Prod.fst, ∃ route ∈ tree.routes, Contributes tree path route
  /-- Paths come in the order of the first routes that bring them. -/
  order : (entries.map Prod.fst).Pairwise fun first second =>
    firstContributor tree first < firstContributor tree second
  params : ∀ entry ∈ entries, entry.2 = Params.ofPath entry.1

/-- The full path of a route is listed with its parameters, unless it is empty. -/
theorem IsRegister.mem {tree : RouteTree} {entries : List (Text × Params)}
    (isRegister : IsRegister tree entries) {route : Route} (declared : route ∈ tree.routes)
    {path : Text} (isPath : tree.fullPath route.id = .ok path) (nonempty : path ≠ []) :
    (path, Params.ofPath path) ∈ entries := by
  have isKey := (isRegister.paths path).2 ⟨nonempty, route, declared, isPath⟩
  rcases List.mem_map.1 isKey with ⟨⟨key, params⟩, member, rfl⟩
  rwa [← isRegister.params _ member]

/-! ## First occurrences -/

section FirstOccurrences

variable {α : Type} {items : List α} {brings : α → Option Text} {texts : List Text} {t : Text}

theorem mem_firstOccurrences_iff : t ∈ firstOccurrences texts ↔ t ∈ texts := by
  induction texts with
  | nil => exact Iff.rfl
  | cons first rest ih =>
      rw [firstOccurrences, List.mem_cons, List.mem_cons, List.mem_filter, ih, decide_eq_true_eq]
      by_cases same : t = first
      · simp [same]
      · simp [same]

/-- An item that does not bring a text does not change how many come before the first that does. -/
theorem findIdx_cons_of_ne {item : α} (other : brings item ≠ some t) :
    (item :: items).findIdx (brings · = some t) = items.findIdx (brings · = some t) + 1 := by
  rw [List.findIdx_cons, decide_eq_false other]
  rfl

/-- First occurrences come in the order of the first items that bring them. -/
theorem pairwise_firstOccurrences (items : List α) (brings : α → Option Text) :
    (firstOccurrences (items.filterMap brings)).Pairwise fun first second =>
      items.findIdx (brings · = some first) < items.findIdx (brings · = some second) := by
  induction items with
  | nil => exact .nil
  | cons item rest ih =>
      cases brought : brings item with
      | none =>
          rw [List.filterMap_cons_none brought]
          refine ih.imp fun earlier => ?_
          rw [findIdx_cons_of_ne (by simp [brought]), findIdx_cons_of_ne (by simp [brought])]
          exact Nat.succ_lt_succ earlier
      | some text =>
          rw [List.filterMap_cons_some brought, firstOccurrences, List.pairwise_cons]
          have others : ∀ other ∈ (firstOccurrences (rest.filterMap brings)).filter (· ≠ text),
              brings item ≠ some other := by
            intro other member same
            have different := (List.mem_filter.1 member).2
            simp [Option.some.inj (brought.symm.trans same)] at different
          constructor
          · intro other member
            rw [findIdx_cons_of_ne (others other member), List.findIdx_cons, decide_eq_true brought]
            exact Nat.succ_pos _
          · refine (ih.filter _).imp_of_mem fun isFirst isSecond earlier => ?_
            rw [findIdx_cons_of_ne (others _ isFirst), findIdx_cons_of_ne (others _ isSecond)]
            exact Nat.succ_lt_succ earlier

end FirstOccurrences

/-! ## What the register lists -/

variable {tree : RouteTree} {rootId path : Text} {routes : List Route} {route : Route}
  {snapshot : Snapshot}

/-- The path that a route brings to the register, if it brings one. -/
def contribution? (tree : RouteTree) (route : Route) : Option Text :=
  if contributes tree route then (tree.fullPath route.id).toOption.filter (· ≠ []) else none

theorem contribution?_eq_some_iff :
    contribution? tree route = some path ↔ path ≠ [] ∧ Contributes tree path route := by
  have asked : contributes tree route = true ↔ route.id = tree.rootId ∨ route.segment? ≠ none := by
    rw [contributes, Bool.or_eq_true, decide_eq_true_eq, Option.isSome_iff_ne_none]
  have found : (tree.fullPath route.id).toOption.filter (· ≠ []) = some path ↔
      path ≠ [] ∧ tree.fullPath route.id = .ok path := by
    rw [Option.filter_eq_some_iff, decide_eq_true_eq, and_comm]
    cases tree.fullPath route.id <;> simp [Except.toOption]
  unfold contribution? Contributes
  split
  case isTrue is =>
    rw [found]
    simp [asked.1 is]
  case isFalse isNot => simp [mt asked.2 isNot]

/-- Of a path that is not empty, bringing it and contributing it are the same. -/
theorem firstContributor_eq (nonempty : path ≠ []) :
    firstContributor tree path = tree.routes.findIdx (contribution? tree · = some path) := by
  refine congrArg (tree.routes.findIdx ·) (funext fun route => decide_eq_decide.2 ?_)
  rw [contribution?_eq_some_iff]
  exact ⟨fun contributes => ⟨nonempty, contributes⟩, And.right⟩

/-- Every answer that is a path, the empty one excepted, is what its route brings. -/
theorem filter_eq_filterMap {asked : List Route} {paths : List Text}
    (answered : List.Forall₂ (fun route path => tree.fullPath route.id = .ok path) asked paths) :
    paths.filter (· ≠ []) =
      asked.filterMap fun route => (tree.fullPath route.id).toOption.filter (· ≠ []) := by
  induction answered with
  | nil => rfl
  | @cons route path asked paths isPath _ ih =>
      have answer : (tree.fullPath route.id).toOption = some path := by rw [isPath]; rfl
      by_cases empty : path = []
      · rw [List.filter_cons_of_neg (by simp [empty]), ih,
          List.filterMap_cons_none (by simp [answer, empty])]
      · rw [List.filter_cons_of_pos (by simp [empty]), ih,
          List.filterMap_cons_some (b := path) (by simp [answer, Option.filter, empty])]

/-- The register lists what the routes bring, each path with its parameters. -/
theorem registeredPaths_eq_ok {entries : List (Text × Params)}
    (registered : registeredPaths tree = .ok entries) :
    entries = (firstOccurrences (tree.routes.filterMap (contribution? tree))).map
      fun path => (path, Params.ofPath path) := by
  rcases map_eq_ok_iff.1 registered with ⟨paths, contributed, rfl⟩
  rw [filter_eq_filterMap (mapM_eq_ok_iff_forall₂.1 contributed), List.filterMap_filter]
  rfl

section Registered

variable {entries : List (Text × Params)} (registered : registeredPaths tree = .ok entries)

include registered

theorem keys_of_registeredPaths :
    entries.map Prod.fst = firstOccurrences (tree.routes.filterMap (contribution? tree)) := by
  rw [registeredPaths_eq_ok registered, List.map_map]
  exact List.map_id _

theorem mem_keys_iff :
    path ∈ entries.map Prod.fst ↔ path ≠ [] ∧ ∃ route ∈ tree.routes, Contributes tree path route := by
  rw [keys_of_registeredPaths registered, mem_firstOccurrences_iff, List.mem_filterMap]
  simp only [contribution?_eq_some_iff]
  constructor
  · rintro ⟨route, declared, nonempty, contributes⟩
    exact ⟨nonempty, route, declared, contributes⟩
  · rintro ⟨nonempty, route, declared, contributes⟩
    exact ⟨route, declared, nonempty, contributes⟩

/-- Paths are listed in the order of the first routes that bring them. -/
theorem pairwise_keys : (entries.map Prod.fst).Pairwise fun first second =>
    firstContributor tree first < firstContributor tree second := by
  have ordered := pairwise_firstOccurrences tree.routes (contribution? tree)
  rw [← keys_of_registeredPaths registered] at ordered
  refine ordered.imp_of_mem fun isFirst isSecond earlier => ?_
  rwa [firstContributor_eq ((mem_keys_iff registered).1 isFirst).1,
    firstContributor_eq ((mem_keys_iff registered).1 isSecond).1]

end Registered

theorem isRegister_of_registeredPaths {entries : List (Text × Params)}
    (registered : registeredPaths tree = .ok entries) : IsRegister tree entries where
  distinct := by
    refine (pairwise_keys registered).imp fun earlier same => ?_
    rw [same] at earlier
    exact Nat.lt_irrefl _ earlier
  paths path := by
    rw [mem_keys_iff registered]
    refine and_congr_right fun nonempty => ⟨?_, ?_⟩
    · rintro ⟨route, declared, -, isPath⟩
      exact ⟨route, declared, isPath⟩
    · rintro ⟨route, declared, isPath⟩
      rcases RouteTree.exists_same_fullPath declared isPath with
        ⟨nearest, isDeclared, has, same⟩
      exact ⟨nearest, isDeclared, has, same⟩
  contributed path member := ((mem_keys_iff registered).1 member).2
  order := pairwise_keys registered
  params entry member := by
    rw [registeredPaths_eq_ok registered] at member
    rcases List.mem_map.1 member with ⟨path, -, rfl⟩
    rfl

/-- A built tree has a register that loses nothing. -/
theorem exists_isRegister (built : RouteTree.build rootId routes = .ok tree) :
    ∃ entries, registeredPaths tree = .ok entries ∧ IsRegister tree entries := by
  rcases exists_registeredPaths built with ⟨entries, registered⟩
  exact ⟨entries, registered, isRegister_of_registeredPaths registered⟩

/-- The register of a built tree can be made, it lists the full paths of all routes, and a full path
that it leaves out because it is empty is that of a lineage without a pattern. -/
theorem isRegister_of_build (built : RouteTree.build rootId routes = .ok snapshot.tree) :
    (∃ entries, registeredPaths snapshot.tree = .ok entries ∧ IsRegister snapshot.tree entries) ∧
      ∀ id lineage, snapshot.tree.lineage id = .ok lineage →
        snapshot.tree.fullPath id = .ok [] → ∀ passed ∈ lineage, passed.segment? = none := by
  constructor
  · exact exists_isRegister built
  · intro id lineage isLineage empty
    rw [RouteTree.fullPath, isLineage] at empty
    exact FullPath.ofLineage_eq_nil_iff.1 (Except.ok.inj empty)

end Declaration

/-- A tree with a layout without a pattern, declared before the route that it belongs to, and an
index route. -/
def Snapshot.layered : Snapshot where
  appDirectory := ['a']
  mode := []
  future := {}
  tree :=
    { rootId := ['r']
      routes :=
        [{ id := ['x'], parentId := some ['y'] },
          { id := ['z'], path := some ['b'], parentId := some ['x'] },
          { id := ['y'], path := some ['a', '/'] },
          { id := ['r'] },
          { id := ['i'], parentId := some ['z'], index := true }]
      positions := _
      links := _
      positioned := rfl
      linked := rfl }

namespace Declaration

/-- The layout and the index route add nothing to the register, and lose nothing. -/
theorem isRegister_of_build_layered :
    RouteTree.build ['r'] Snapshot.layered.routes = .ok Snapshot.layered.tree ∧
      (∃ entries, registeredPaths Snapshot.layered.tree = .ok entries ∧
        IsRegister Snapshot.layered.tree entries ∧
        entries.map Prod.fst = [['a', '/', 'b'], ['a']]) ∧
      Snapshot.layered.tree.lineage ['r'] = .ok [{ id := ['r'] }] ∧
      Snapshot.layered.tree.fullPath ['r'] = .ok [] ∧
      ∀ passed ∈ [({ id := ['r'] } : Route)], passed.segment? = none := by
  have built : RouteTree.build ['r'] Snapshot.layered.routes = .ok Snapshot.layered.tree := by rfl
  have isLineage : Snapshot.layered.tree.lineage ['r'] = .ok [{ id := ['r'] }] := by rfl
  have empty : Snapshot.layered.tree.fullPath ['r'] = .ok [] := by rfl
  rcases isRegister_of_build built with ⟨⟨entries, registered, isRegister⟩, blank⟩
  refine ⟨built, ⟨entries, registered, isRegister, ?_⟩, isLineage, empty,
    blank _ _ isLineage empty⟩
  rw [registeredPaths_eq_ok registered]
  rfl

end Declaration
end TypedRoutes
