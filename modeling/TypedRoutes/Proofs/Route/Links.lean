import Mathlib.Data.List.Induction
import Mathlib.Data.List.Nodup
import TypedRoutes.Proofs.Text.Tables
import TypedRoutes.Route.Tree

namespace TypedRoutes

/-!
# Positions and links

Building a tree goes twice through the declared routes: each is entered with its position, and each is
then linked with its parent.  What a loop has left is stated for every beginning of the list, so that
one step shows it for the next route.  At the end the position of an id is that of the one route that
has it, and parents and children are two readings of the same links.
-/

namespace RouteTree

variable {rootId id : Text} {routes before : List Route} {route : Route} {error : TreeError}
  {position : Nat}

/-! ## Loops over routes -/

section Loop

variable {State : Type} {step : State → Route × Nat → Except TreeError State} {start reached : State}

theorem loop_concat (before : List Route) (route : Route) :
    (before ++ [route]).zipIdx.foldlM step start =
      (before.zipIdx.foldlM step start).bind fun reached => step reached (route, before.length) := by
  rw [List.zipIdx_append, List.foldlM_append]
  refine bind_congr fun reached => ?_
  rw [Nat.zero_add, List.zipIdx_singleton, List.foldlM_cons]
  exact bind_pure _

theorem loop_concat_eq_ok_iff {after : State} :
    (before ++ [route]).zipIdx.foldlM step start = .ok after ↔
      ∃ reached, before.zipIdx.foldlM step start = .ok reached ∧
        step reached (route, before.length) = .ok after := by
  rw [loop_concat]
  cases before.zipIdx.foldlM step start <;> simp [Except.bind]

/-- A loop fails where a step fails, and it has come to the route before that. -/
theorem loop_eq_error_iff :
    routes.zipIdx.foldlM step start = .error error ↔
      ∃ before route after reached, routes = before ++ route :: after ∧
        before.zipIdx.foldlM step start = .ok reached ∧
          step reached (route, before.length) = .error error := by
  induction routes using List.reverseRecOn with
  | nil =>
      refine iff_of_false (fun failed => by cases failed) ?_
      rintro ⟨before, route, after, reached, shape, -⟩
      exact absurd shape.symm (by simp)
  | append_singleton routes last ih =>
      rw [loop_concat]
      constructor
      · intro failed
        cases reaches : routes.zipIdx.foldlM step start with
        | error earlier =>
            rw [reaches] at failed
            cases failed
            rcases ih.1 reaches with ⟨before, route, after, reached, rfl, isReached, fails⟩
            exact ⟨before, route, after ++ [last], reached, by simp, isReached, fails⟩
        | ok reached =>
            rw [reaches] at failed
            exact ⟨routes, last, [], reached, rfl, reaches, failed⟩
      · rintro ⟨before, route, after, reached, shape, isReached, fails⟩
        rcases List.eq_nil_or_concat after with rfl | ⟨middle, other, rfl⟩
        · rcases List.append_inj' shape rfl with ⟨rfl, same⟩
          cases same
          rw [isReached]
          exact fails
        · rw [List.concat_eq_append, ← List.cons_append, ← List.append_assoc] at shape
          have isFirst := (List.append_inj' shape rfl).1
          rw [ih.2 ⟨before, route, middle, reached, isFirst, isReached, fails⟩]
          rfl

end Loop

/-! ## Positions -/

section Positions

variable {positions entered : Table Nat}

theorem enter_eq_ok_iff :
    enter positions (route, position) = .ok entered ↔
      positions.lookup route.id = none ∧ positions.insert route.id position = entered := by
  unfold enter
  cases positions.lookup route.id <;> simp

theorem enter_eq_error_iff :
    enter positions (route, position) = .error error ↔
      positions.lookup route.id ≠ none ∧ .duplicateRoute route.id = error := by
  unfold enter
  cases positions.lookup route.id <;> simp

/-- An id has the position of its first route. -/
theorem lookup_of_positionsOf (positioned : positionsOf routes = .ok positions) (id : Text) :
    positions.lookup id = routes.findIdx? (·.id = id) := by
  induction routes using List.reverseRecOn generalizing positions with
  | nil =>
      cases positioned
      rfl
  | append_singleton before route ih =>
      rcases loop_concat_eq_ok_iff.1 positioned with ⟨earlier, positionedBefore, entered⟩
      rcases enter_eq_ok_iff.1 entered with ⟨fresh, rfl⟩
      rw [Table.lookup_insert, List.findIdx?_append, ← ih positionedBefore]
      by_cases same : id = route.id
      · rw [if_pos same, same, fresh]
        simp
      · rw [if_neg same]
        simp [Ne.symm same]

theorem lookup_ne_none_iff (positioned : positionsOf routes = .ok positions) :
    positions.lookup id ≠ none ↔ id ∈ routes.map Route.id := by
  rw [lookup_of_positionsOf positioned, ne_eq, List.findIdx?_eq_none_iff]
  simp

theorem distinct_of_positionsOf (positioned : positionsOf routes = .ok positions) :
    (routes.map Route.id).Nodup := by
  induction routes using List.reverseRecOn generalizing positions with
  | nil => exact List.nodup_nil
  | append_singleton before route ih =>
      rcases loop_concat_eq_ok_iff.1 positioned with ⟨earlier, positionedBefore, entered⟩
      have fresh := mt (lookup_ne_none_iff positionedBefore).2
        (not_not_intro (enter_eq_ok_iff.1 entered).1)
      rw [List.map_append, List.map_singleton, ← List.concat_eq_append, List.nodup_concat]
      exact ⟨fresh, ih positionedBefore⟩

/-- The first route whose id was used before is reported. -/
theorem exists_repeated_of_positionsOf (failed : positionsOf routes = .error error) :
    ∃ before route after, routes = before ++ route :: after ∧ (before.map Route.id).Nodup ∧
      route.id ∈ before.map Route.id ∧ error = .duplicateRoute route.id := by
  rcases loop_eq_error_iff.1 failed with ⟨before, route, after, reached, shape, isReached, fails⟩
  rcases enter_eq_error_iff.1 fails with ⟨again, rfl⟩
  exact ⟨before, route, after, shape, distinct_of_positionsOf isReached,
    (lookup_ne_none_iff isReached).1 again, rfl⟩

theorem exists_positionsOf (distinct : (routes.map Route.id).Nodup) :
    ∃ positions, positionsOf routes = .ok positions := by
  cases positioned : positionsOf routes with
  | ok positions => exact ⟨positions, rfl⟩
  | error error =>
      rcases exists_repeated_of_positionsOf positioned with ⟨before, route, after, rfl, -, again, -⟩
      rw [List.map_append, List.map_cons, List.nodup_middle, List.nodup_cons] at distinct
      exact absurd (List.mem_append_left _ again) distinct.1

theorem positionsOf_of_repeated {after : List Route} (shape : routes = before ++ route :: after)
    (distinct : (before.map Route.id).Nodup) (again : route.id ∈ before.map Route.id) :
    positionsOf routes = .error (.duplicateRoute route.id) := by
  rcases exists_positionsOf distinct with ⟨positions, positioned⟩
  exact loop_eq_error_iff.2 ⟨before, route, after, positions, shape, positioned,
    enter_eq_error_iff.2 ⟨(lookup_ne_none_iff positioned).2 again, rfl⟩⟩

end Positions

/-! ## Links -/

namespace Links

variable {links : Links} {parent child : Nat}

theorem parentAt?_add (inside : child < links.parents.length) (position : Nat) :
    (links.add parent child).parentAt? position =
      if position = child then some parent else links.parentAt? position := by
  rw [parentAt?, add, List.getElem?_set]
  by_cases same : child = position
  · subst same
    simp [inside]
  · rw [if_neg same, if_neg (Ne.symm same), parentAt?]

theorem childrenAt_add (parent child : Nat) (inside : position < links.children.length) :
    (links.add parent child).childrenAt position =
      links.childrenAt position ++ if parent = position then [child] else [] := by
  rw [childrenAt, childrenAt, add, List.getElem?_modify]
  by_cases same : parent = position
  · subst same
    simp [inside]
  · simp [same]

end Links

section Links

variable {positions : Table Nat} {links linked : Links} {count : Nat}

theorem link_eq_ok_iff :
    link rootId positions links (route, position) = .ok linked ↔
      route.id = rootId ∧ links = linked ∨
        route.id ≠ rootId ∧ ∃ parent, positions.lookup (route.parent rootId) = some parent ∧
          links.add parent position = linked := by
  simp only [link]
  by_cases isRoot : route.id = rootId
  · simp [isRoot]
  · cases positions.lookup (route.parent rootId) <;> simp [isRoot]

theorem link_eq_error_iff :
    link rootId positions links (route, position) = .error error ↔
      route.id ≠ rootId ∧ positions.lookup (route.parent rootId) = none ∧
        .missingParent route.id (route.parent rootId) = error := by
  simp only [link]
  by_cases isRoot : route.id = rootId
  · simp [isRoot]
  · cases positions.lookup (route.parent rootId) <;> simp [isRoot]

/-- The position of the parent that a route names, unless the route is the root. -/
def namedAt? (rootId : Text) (positions : Table Nat) (route : Route) : Option Nat :=
  if route.id = rootId then none else positions.lookup (route.parent rootId)

theorem parentAt?_of_link (linking : link rootId positions links (route, position) = .ok linked)
    (inside : position < links.parents.length) (fresh : links.parentAt? position = none)
    (other : Nat) : linked.parentAt? other =
      if other = position then namedAt? rootId positions route else links.parentAt? other := by
  unfold namedAt?
  rcases link_eq_ok_iff.1 linking with ⟨isRoot, rfl⟩ | ⟨notRoot, parent, found, rfl⟩
  · rw [if_pos isRoot]
    split
    case isTrue same => rw [same, fresh]
    case isFalse => rfl
  · rw [Links.parentAt?_add inside, if_neg notRoot, found]

theorem childrenAt_of_link (linking : link rootId positions links (route, position) = .ok linked)
    {parent : Nat} (inside : parent < links.children.length) : linked.childrenAt parent =
      links.childrenAt parent ++
        if namedAt? rootId positions route = some parent then [position] else [] := by
  unfold namedAt?
  rcases link_eq_ok_iff.1 linking with ⟨isRoot, rfl⟩ | ⟨notRoot, named, found, rfl⟩
  · simp [isRoot]
  · rw [if_neg notRoot, found, Links.childrenAt_add named position inside]
    simp only [Option.some.injEq]

/-- What has been linked once the loop has come through some routes. -/
structure Linked (rootId : Text) (positions : Table Nat) (count : Nat) (before : List Route)
    (links : Links) : Prop where
  parents_length : links.parents.length = count
  children_length : links.children.length = count
  parentAt? : ∀ position,
    links.parentAt? position = before[position]?.bind (namedAt? rootId positions)
  /-- The children of a route are those that have it as their parent. -/
  childrenAt : ∀ position < count, links.childrenAt position =
    (List.range before.length).filter (links.parentAt? · = some position)

theorem linked_nil (rootId : Text) (positions : Table Nat) (count : Nat) :
    Linked rootId positions count [] (.unlinked count) where
  parents_length := List.length_replicate
  children_length := List.length_replicate
  parentAt? position := by
    rw [Links.parentAt?, Links.unlinked, List.getElem?_replicate]
    split <;> rfl
  childrenAt position inside := by
    rw [Links.childrenAt, Links.unlinked, List.getElem?_replicate, if_pos inside]
    rfl

theorem lengths_of_link (linking : link rootId positions links (route, position) = .ok linked) :
    linked.parents.length = links.parents.length ∧
      linked.children.length = links.children.length := by
  rcases link_eq_ok_iff.1 linking with ⟨-, rfl⟩ | ⟨-, parent, -, rfl⟩
  · exact ⟨rfl, rfl⟩
  · exact ⟨List.length_set, List.length_modify ..⟩

/-- Linking one more route. -/
theorem Linked.concat (isLinked : Linked rootId positions count before links)
    (inside : before.length < count)
    (linking : link rootId positions links (route, before.length) = .ok linked) :
    Linked rootId positions count (before ++ [route]) linked := by
  have lengths := lengths_of_link linking
  have unlinked : links.parentAt? before.length = none := by
    rw [isLinked.parentAt?, List.getElem?_eq_none (Nat.le_refl _)]
    rfl
  have parents := parentAt?_of_link linking (isLinked.parents_length.symm ▸ inside) unlinked
  refine ⟨lengths.1.trans isLinked.parents_length, lengths.2.trans isLinked.children_length,
    fun position => ?_, fun position isInside => ?_⟩
  · rw [parents, isLinked.parentAt?, List.getElem?_append]
    rcases Nat.lt_trichotomy position before.length with earlier | rfl | beyond
    · rw [if_neg (Nat.ne_of_lt earlier), if_pos earlier]
    · rw [if_pos rfl, if_neg (Nat.lt_irrefl _), Nat.sub_self]
      rfl
    · rw [if_neg (Nat.ne_of_gt beyond), if_neg (Nat.lt_asymm beyond),
        List.getElem?_eq_none (Nat.le_of_lt beyond), List.getElem?_eq_none (by simp; omega)]
  · have sameBefore : (List.range before.length).filter (linked.parentAt? · = some position) =
        links.childrenAt position := by
      rw [isLinked.childrenAt position isInside]
      refine List.filter_congr fun other member => ?_
      rw [parents, if_neg (Nat.ne_of_lt (List.mem_range.1 member))]
    rw [childrenAt_of_link linking (isLinked.children_length.symm ▸ isInside), List.length_append,
      List.length_singleton, List.range_succ, List.filter_append, sameBefore, List.filter_singleton,
      parents, if_pos rfl]
    simp

theorem linked_of_loop (fits : before.length ≤ count)
    (loop : before.zipIdx.foldlM (link rootId positions) (.unlinked count) = .ok links) :
    Linked rootId positions count before links := by
  induction before using List.reverseRecOn generalizing links with
  | nil =>
      cases loop
      exact linked_nil rootId positions count
  | append_singleton before route ih =>
      rw [List.length_append, List.length_singleton] at fits
      rcases loop_concat_eq_ok_iff.1 loop with ⟨reached, loopBefore, linking⟩
      exact (ih (by omega) loopBefore).concat fits linking

/-- A parent that is named by a route other than the root has a position. -/
def Resolves (rootId : Text) (positions : Table Nat) (route : Route) : Prop :=
  route.id = rootId ∨ positions.lookup (route.parent rootId) ≠ none

theorem resolves_of_loop {start : Links}
    (loop : before.zipIdx.foldlM (link rootId positions) start = .ok links) :
    ∀ route ∈ before, Resolves rootId positions route := by
  induction before using List.reverseRecOn generalizing links with
  | nil => exact fun _ none => absurd none List.not_mem_nil
  | append_singleton before route ih =>
      rcases loop_concat_eq_ok_iff.1 loop with ⟨reached, loopBefore, linking⟩
      intro other member
      rcases List.mem_append.1 member with earlier | isLast
      · exact ih loopBefore other earlier
      · rw [List.mem_singleton.1 isLast]
        rcases link_eq_ok_iff.1 linking with ⟨isRoot, -⟩ | ⟨-, parent, found, -⟩
        · exact .inl isRoot
        · exact .inr (by simp [found])

/-- The first route whose parent has no position is reported. -/
theorem exists_orphan_of_loop {start : Links}
    (failed : before.zipIdx.foldlM (link rootId positions) start = .error error) :
    ∃ earlier route after, before = earlier ++ route :: after ∧
      (∀ other ∈ earlier, Resolves rootId positions other) ∧ ¬ Resolves rootId positions route ∧
        error = .missingParent route.id (route.parent rootId) := by
  rcases loop_eq_error_iff.1 failed with ⟨earlier, route, after, reached, shape, isReached, fails⟩
  rcases link_eq_error_iff.1 fails with ⟨notRoot, missing, rfl⟩
  refine ⟨earlier, route, after, shape, resolves_of_loop isReached, ?_, rfl⟩
  rintro (isRoot | found)
  · exact notRoot isRoot
  · exact found missing

theorem exists_loop {start : Links} (resolves : ∀ route ∈ before, Resolves rootId positions route) :
    ∃ links, before.zipIdx.foldlM (link rootId positions) start = .ok links := by
  cases loop : before.zipIdx.foldlM (link rootId positions) start with
  | ok links => exact ⟨links, rfl⟩
  | error error =>
      rcases exists_orphan_of_loop loop with ⟨earlier, route, after, rfl, -, lost, -⟩
      exact absurd (resolves route (by simp)) lost

theorem linksOf_of_orphan {earlier after : List Route} (shape : routes = earlier ++ route :: after)
    (resolves : ∀ other ∈ earlier, Resolves rootId positions other)
    (lost : ¬ Resolves rootId positions route) :
    linksOf rootId positions routes = .error (.missingParent route.id (route.parent rootId)) := by
  rcases exists_loop resolves with ⟨reached, isReached⟩
  rw [Resolves, not_or, ne_eq, not_not] at lost
  exact loop_eq_error_iff.2 ⟨earlier, route, after, reached, shape, isReached,
    link_eq_error_iff.2 ⟨lost.1, lost.2, rfl⟩⟩

end Links

/-! ## Trees -/

section Trees

variable {tree : RouteTree} {parent : Route}

/-- No two routes of a tree have one id. -/
theorem distinct (tree : RouteTree) : (tree.routes.map Route.id).Nodup :=
  distinct_of_positionsOf tree.positioned

theorem isLinked (tree : RouteTree) :
    Linked tree.rootId tree.positions tree.routes.length tree.routes tree.links :=
  linked_of_loop (Nat.le_refl _) tree.linked

/-- An id has the position of the route that has it. -/
theorem position?_eq_some_iff : tree.position? id = some position ↔
    ∃ route, tree.routes[position]? = some route ∧ route.id = id := by
  rw [position?, lookup_of_positionsOf tree.positioned, List.findIdx?_eq_some_iff_getElem]
  constructor
  · rintro ⟨inside, isId, -⟩
    exact ⟨_, List.getElem?_eq_getElem inside, by simpa using isId⟩
  · rintro ⟨route, isRoute, isId⟩
    rcases List.getElem?_eq_some_iff.1 isRoute with ⟨inside, rfl⟩
    refine ⟨inside, by simpa using isId, fun other earlier same => ?_⟩
    have sameRoute := List.inj_on_of_nodup_map tree.distinct (List.getElem_mem _)
      (List.getElem_mem inside) ((of_decide_eq_true same).trans isId.symm)
    exact Nat.ne_of_lt earlier ((tree.distinct.of_map _).getElem_inj_iff.1 sameRoute)

theorem find?_eq (tree : RouteTree) (id : Text) :
    tree.find? id = tree.routes.find? (·.id = id) := by
  rw [find?, position?, lookup_of_positionsOf tree.positioned, List.find?_eq_bind_findIdx?_getElem?]

theorem find?_eq_none_iff : tree.find? id = none ↔ id ∉ tree.routes.map Route.id := by
  simp [find?_eq]

theorem position?_eq_none_iff : tree.position? id = none ↔ id ∉ tree.routes.map Route.id := by
  rw [← lookup_ne_none_iff tree.positioned, not_not, position?]

theorem mem_of_find? (found : tree.find? id = some route) : route ∈ tree.routes :=
  List.mem_of_find?_eq_some (tree.find?_eq id ▸ found)

theorem id_of_find? (found : tree.find? id = some route) : route.id = id := by
  rw [find?_eq] at found
  simpa using List.find?_some found

/-- Every declared route is found by its id. -/
theorem find?_id (declared : route ∈ tree.routes) : tree.find? route.id = some route := by
  cases found : tree.find? route.id with
  | none => exact absurd (List.mem_map_of_mem declared) (find?_eq_none_iff.1 found)
  | some other =>
      have same := List.inj_on_of_nodup_map tree.distinct (mem_of_find? found) declared
        (id_of_find? found)
      rw [same]

/-- The parent of every route but the root is declared. -/
theorem resolves (tree : RouteTree) (declared : route ∈ tree.routes) :
    route.id = tree.rootId ∨ route.parent tree.rootId ∈ tree.routes.map Route.id :=
  (resolves_of_loop tree.linked route declared).imp_right (lookup_ne_none_iff tree.positioned).1

/-- The link of a route leads to the position of the parent that it names. -/
theorem parentAt?_eq (isRoute : tree.routes[position]? = some route) :
    tree.links.parentAt? position =
      if route.id = tree.rootId then none else tree.position? (route.parent tree.rootId) := by
  rw [tree.isLinked.parentAt?, isRoute]
  rfl

theorem parent?_eq_some_iff (declared : route ∈ tree.routes) :
    tree.parent? route.id = some parent ↔
      route.id ≠ tree.rootId ∧ tree.find? (route.parent tree.rootId) = some parent := by
  rcases List.getElem?_of_mem declared with ⟨position, isRoute⟩
  have isPosition : tree.position? route.id = some position :=
    position?_eq_some_iff.2 ⟨route, isRoute, rfl⟩
  rw [parent?, isPosition, Option.bind_eq_bind, Option.bind_some, parentAt?_eq isRoute]
  by_cases isRoot : route.id = tree.rootId
  · simp [isRoot]
  · simp [isRoot, find?]

/-- A route other than the root has a parent, which is the declared route that it names. -/
theorem exists_parent? (declared : route ∈ tree.routes) (notRoot : route.id ≠ tree.rootId) :
    ∃ parent ∈ tree.routes, parent.id = route.parent tree.rootId ∧
      tree.parent? route.id = some parent := by
  rcases List.mem_map.1 ((tree.resolves declared).resolve_left notRoot) with
    ⟨parent, isDeclared, isNamed⟩
  refine ⟨parent, isDeclared, isNamed, (parent?_eq_some_iff declared).2 ⟨notRoot, ?_⟩⟩
  rw [← isNamed]
  exact find?_id isDeclared

/-- An id that no route has is given no parent. -/
theorem parent?_of_unknown (unknown : id ∉ tree.routes.map Route.id) : tree.parent? id = none := by
  rw [parent?, position?_eq_none_iff.2 unknown]
  rfl

/-- Positions that are chosen by the routes at them give the routes that are chosen. -/
theorem filterMap_filter_range {ofPosition : Nat → Bool} {ofRoute : Route → Bool}
    (same : ∀ position route, routes[position]? = some route → ofPosition position = ofRoute route) :
    ((List.range routes.length).filter ofPosition).filterMap (routes[·]?) = routes.filter ofRoute := by
  induction routes using List.reverseRecOn with
  | nil => rfl
  | append_singleton before route ih =>
      have atEnd : (before ++ [route])[before.length]? = some route := by simp
      have earlier : ((List.range before.length).filter ofPosition).filterMap ((before ++ [route])[·]?) =
          before.filter ofRoute := by
        rw [← ih fun position other isOther => same position other ?_]
        · refine List.filterMap_congr fun position member => ?_
          exact List.getElem?_append_left (List.mem_range.1 (List.mem_filter.1 member).1)
        · rw [List.getElem?_append_left (List.getElem?_eq_some_iff.1 isOther).1, isOther]
      rw [List.length_append, List.length_singleton, List.range_succ, List.filter_append,
        List.filterMap_append, earlier, List.filter_append]
      congr 1
      rw [List.filter_singleton, List.filter_singleton, same _ _ atEnd]
      cases ofRoute route with
      | true => exact List.filterMap_cons_some atEnd
      | false => rfl

/-- The parent of a route other than the root is the route that it names. -/
theorem any_parent?_iff (declared : route ∈ tree.routes) :
    (tree.parent? route.id).any (·.id = id) = true ↔
      route.id ≠ tree.rootId ∧ route.parent tree.rootId = id := by
  rw [Option.any_eq_true]
  constructor
  · rintro ⟨parent, isParent, isId⟩
    rcases (parent?_eq_some_iff declared).1 isParent with ⟨notRoot, found⟩
    exact ⟨notRoot, (id_of_find? found).symm.trans (of_decide_eq_true isId)⟩
  · rintro ⟨notRoot, rfl⟩
    rcases exists_parent? declared notRoot with ⟨parent, -, isNamed, isParent⟩
    exact ⟨parent, isParent, decide_eq_true isNamed⟩

/-- The children of a route are the routes that have it as their parent. -/
theorem children_eq (tree : RouteTree) (id : Text) :
    tree.children id = tree.routes.filter fun route => (tree.parent? route.id).any (·.id = id) := by
  unfold children
  cases isPosition : tree.position? id with
  | none =>
      rw [position?_eq_none_iff] at isPosition
      refine (List.filter_eq_nil_iff.2 fun route declared isChild => ?_).symm
      rcases (any_parent?_iff declared).1 isChild with ⟨notRoot, rfl⟩
      exact isPosition ((tree.resolves declared).resolve_left notRoot)
  | some position =>
      rcases position?_eq_some_iff.1 isPosition with ⟨parent, isParent, rfl⟩
      change tree.routesAt (tree.links.childrenAt position) = _
      rw [tree.isLinked.childrenAt position (List.getElem?_eq_some_iff.1 isParent).1]
      refine filterMap_filter_range fun child route isChild => ?_
      rw [Bool.eq_iff_iff, any_parent?_iff (List.mem_of_getElem? isChild), decide_eq_true_eq,
        parentAt?_eq isChild]
      by_cases isRoot : route.id = tree.rootId
      · simp [isRoot]
      · rw [if_neg isRoot, position?_eq_some_iff, isParent]
        simp [isRoot, eq_comm]

end Trees

end RouteTree
end TypedRoutes
