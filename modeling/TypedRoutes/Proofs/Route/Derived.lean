import TypedRoutes.Proofs.Route.Coherence

namespace TypedRoutes

/-!
# Parents that ids name

An id without a given parent names the part before its last `/`, and this part, if it is a declared id,
names the next one in the same way.  Each is shorter than the one before, so ids alone never go round
in a circle, whatever `/` they begin with, end in or repeat.  The lineage that results can be read off
the id from the left: it is made of its beginnings before a `/`, from the root on where the root is one
of them.
-/

namespace Text

variable {sep : Char} {t front before last : Text}

/-- The beginnings of a text before one of its separators, the shortest first. -/
def fronts (sep : Char) : Text → List Text
  | [] => []
  | c :: rest =>
      if c = sep then [] :: (fronts sep rest).map (c :: ·) else (fronts sep rest).map (c :: ·)

theorem mem_fronts_iff : front ∈ fronts sep t ↔ ∃ rest, t = front ++ sep :: rest := by
  induction t generalizing front with
  | nil => simp [fronts]
  | cons c t ih =>
      cases front with
      | nil =>
          by_cases same : c = sep
          · simp [fronts, same]
          · simp [fronts, same]
      | cons d front =>
          have inRest : d :: front ∈ (fronts sep t).map (c :: ·) ↔
              ∃ rest, c :: t = d :: front ++ sep :: rest := by
            rw [List.mem_map]
            constructor
            · rintro ⟨other, member, same⟩
              cases same
              rcases ih.1 member with ⟨rest, rfl⟩
              exact ⟨rest, rfl⟩
            · rintro ⟨rest, same⟩
              cases same
              exact ⟨front, ih.2 ⟨rest, rfl⟩, rfl⟩
          rw [← inRest, fronts]
          split
          · rw [List.mem_cons, or_iff_right (List.cons_ne_nil d front)]
          · rfl

/-- Cutting a text at its last separator takes its longest beginning away. -/
theorem fronts_append (free : sep ∉ last) :
    fronts sep (before ++ sep :: last) = fronts sep before ++ [before] := by
  have none : fronts sep last = [] := by
    rw [List.eq_nil_iff_forall_not_mem]
    intro front member
    rcases mem_fronts_iff.1 member with ⟨rest, rfl⟩
    simp at free
  induction before with
  | nil => simp [fronts, none]
  | cons c before ih =>
      by_cases same : c = sep
      · simp [fronts, same, ih]
      · simp [fronts, same, ih]

end Text

/-! ## Ids above an id -/

namespace Route

variable {id before last : Text}

/-- An id and the beginnings before its `/`, the longest first.  The empty one is none. -/
def idsUpward (id : Text) : List Text := id :: ((Text.fronts '/' id).filter (· ≠ [])).reverse

/-- The ids from below the root down to an id: where the root is above the id, those that are longer
than the root, and otherwise all. -/
def idsBelow (rootId id : Text) : List Text := ((idsUpward id).takeWhile (· ≠ rootId)).reverse

/-- Above an id is the part before its last `/`, if there is any, and what is above that. -/
theorem idsUpward_append (free : '/' ∉ last) (nonempty : before ≠ []) :
    idsUpward (before ++ '/' :: last) = (before ++ '/' :: last) :: idsUpward before := by
  rw [idsUpward, Text.fronts_append free, List.filter_append,
    List.filter_cons_of_pos (by simpa using nonempty), List.filter_nil, List.reverse_append,
    idsUpward]
  rfl

theorem idsUpward_of_top (free : '/' ∉ id.tail) : idsUpward id = [id] := by
  have none : (Text.fronts '/' id).filter (· ≠ []) = [] := by
    rw [List.filter_eq_nil_iff]
    intro front member
    rcases Text.mem_fronts_iff.1 member with ⟨rest, rfl⟩
    cases front with
    | nil => simp
    | cons c front => simp at free
  rw [idsUpward, none]
  rfl

end Route

namespace RouteTree

open Route (idsUpward idsBelow)

variable {tree : RouteTree} {rootId : Text} {routes : List Route} {route : Route}
  {way : List Route}

/-! ## Lists without given parents -/

/-- No route but the root, for which it does not count, is given a parent. -/
def Derived (rootId : Text) (routes : List Route) : Prop :=
  ∀ route ∈ routes, route.id ≠ rootId → route.parentId = none

/-- The part of an id before its last `/` is declared, unless it is missing or empty. -/
def HasFront (routes : List Route) (route : Route) : Prop :=
  ∀ before last, route.id = before ++ '/' :: last → '/' ∉ last → before ≠ [] →
    before ∈ routes.map Route.id

theorem hasParent_iff_hasFront (notGiven : route.parentId = none) (notRoot : route.id ≠ rootId)
    (hasRoot : rootId ∈ routes.map Route.id) :
    HasParent rootId routes route ↔ HasFront routes route := by
  constructor
  · intro hasParent before last shape isLast nonempty
    have names : route.NamesParent rootId before := .before notGiven shape isLast nonempty
    rw [← Route.namesParent_iff.1 names]
    exact (hasParent_iff.1 hasParent).resolve_left notRoot
  · intro hasFront
    have names : route.NamesParent rootId (route.parent rootId) := Route.namesParent_iff.2 rfl
    refine .inr ⟨_, names, ?_⟩
    generalize route.parent rootId = parent at names
    cases names with
    | given given => simp [notGiven] at given
    | before _ shape isLast nonempty => exact hasFront _ _ shape isLast nonempty
    | root _ _ => exact hasRoot

/-- Ids get shorter on the way up, until the root is reached. -/
theorem rooted_of_derived (derived : Derived rootId routes)
    (parents : ∀ route ∈ routes, HasParent rootId routes route) (declared : route ∈ routes) :
    Rooted rootId routes route := by
  induction bound : route.id.length using Nat.strong_induction_on generalizing route with
  | _ length ih =>
      by_cases isRoot : route.id = rootId
      · exact .root declared isRoot
      · rcases (parents route declared).resolve_left isRoot with ⟨_, names, isDeclared⟩
        rcases List.mem_map.1 isDeclared with ⟨parent, parentDeclared, rfl⟩
        refine .child declared isRoot names ?_
        generalize isId : parent.id = parentId at names
        cases names with
        | given given => simp [derived route declared isRoot] at given
        | @before _ last _ shape _ _ =>
            refine ih parent.id.length ?_ parentDeclared rfl
            rw [← bound, shape, isId, List.length_append, List.length_cons]
            omega
        | root _ _ => exact .root parentDeclared isId

/-- The way up from a route passes the ids above its id, up to the root. -/
theorem Ascent.map_id (ascent : Ascent tree route way) (derived : Derived tree.rootId tree.routes)
    (declared : route ∈ tree.routes) :
    way.map Route.id = (idsUpward route.id).takeWhile (· ≠ tree.rootId) ++ [tree.rootId] := by
  induction ascent with
  | root isRoot => simp [idsUpward, isRoot]
  | @step route parent above notRoot isParent rest ih =>
      have passed := ih (mem_of_find? isParent)
      have names : route.NamesParent tree.rootId parent.id := by
        rw [id_of_find? isParent, Route.namesParent_iff]
      rw [List.map_cons, passed]
      generalize parent.id = parentId at names
      cases names with
      | given given => simp [derived route declared notRoot] at given
      | before _ shape isLast nonempty =>
          rw [shape] at notRoot ⊢
          rw [Route.idsUpward_append isLast nonempty, List.takeWhile_cons_of_pos (by simpa using notRoot),
            List.cons_append]
      | root _ shape =>
          rw [Route.idsUpward_of_top shape, List.takeWhile_cons_of_pos (by simpa using notRoot)]
          simp [idsUpward]

/-- The lineage of a route has the ids below the root. -/
theorem exists_lineage_of_derived (wellFormed : WellFormed tree.rootId tree.routes)
    (derived : Derived tree.rootId tree.routes) (declared : route ∈ tree.routes) :
    ∃ root below, tree.lineage route.id = .ok (root :: below) ∧
      (∀ passed ∈ root :: below, passed ∈ tree.routes) ∧ root.id = tree.rootId ∧
      below.map Route.id = idsBelow tree.rootId route.id := by
  rcases wellFormed.exists_ascent declared with ⟨way, ascent⟩
  have ids := congrArg List.reverse (ascent.map_id derived declared)
  rw [← List.map_reverse, List.reverse_append, List.reverse_singleton, List.singleton_append,
    List.map_eq_cons_iff] at ids
  rcases ids with ⟨root, below, shape, isRoot, ids⟩
  refine ⟨root, below, ?_, fun passed member => ?_, isRoot, ids⟩
  · rw [← shape]
    exact ascent.lineage_eq declared
  · rw [← shape, List.mem_reverse] at member
    exact ascent.declared declared passed member

/-- Where no parents are given there are no cycles.  A list forms a tree exactly if ids are distinct,
the root is declared, and so is what is before the last `/` of an id; and in the tree, a lineage is
the root followed by the beginnings of the id that the root leaves. -/
theorem build_of_derived (derived : Derived rootId routes) :
    (∀ id, build rootId routes ≠ .error (.parentCycle id)) ∧
      ((∃ tree, build rootId routes = .ok tree) ↔ (routes.map Route.id).Nodup ∧
        rootId ∈ routes.map Route.id ∧ ∀ route ∈ routes, route.id ≠ rootId → HasFront routes route) ∧
      ∀ tree, build rootId routes = .ok tree → ∀ route ∈ routes,
        ∃ root below, tree.lineage route.id = .ok (root :: below) ∧
          (∀ passed ∈ root :: below, passed ∈ routes) ∧ root.id = rootId ∧
          below.map Route.id = idsBelow rootId route.id := by
  refine ⟨fun id failed => ?_, ⟨?_, ?_⟩, fun tree built route declared => ?_⟩
  · have verdict := verdict_build rootId routes
    rw [failed] at verdict
    cases verdict with
    | unrooted _ _ parents shape _ lost =>
        exact lost (rooted_of_derived derived parents (by simp [shape]))
  · rintro ⟨tree, built⟩
    have wellFormed := (wellFormed_of_build built).2.2
    refine ⟨wellFormed.distinct, wellFormed.root, fun route declared notRoot => ?_⟩
    rw [← hasParent_iff_hasFront (derived route declared notRoot) notRoot wellFormed.root]
    exact wellFormed.parents route declared
  · rintro ⟨distinct, hasRoot, fronts⟩
    have parents : ∀ route ∈ routes, HasParent rootId routes route := by
      intro route declared
      by_cases isRoot : route.id = rootId
      · exact .inl isRoot
      · rw [hasParent_iff_hasFront (derived route declared isRoot) isRoot hasRoot]
        exact fronts route declared isRoot
    exact exists_build ⟨distinct, hasRoot, parents,
      fun route declared => rooted_of_derived derived parents declared⟩
  · rcases wellFormed_of_build built with ⟨rfl, rfl, wellFormed⟩
    exact exists_lineage_of_derived wellFormed derived declared

/-- The root `a/b` names a parent that does not count and lies inside of other ids; the ids `a/b/` and
`a/b//c` lie below it, `a` and `/x` do not. -/
theorem build_of_derived_nested_root :
    let routes : List Route := [{ id := "a/b//c" }, { id := "a/b/" }, { id := "/x" }, { id := "a" },
      { id := "a/b", parentId := some "q" }]
    Derived "a/b" routes ∧
      ∃ tree, build "a/b" routes = .ok tree ∧
        ∃ root below, tree.lineage "a/b//c" = .ok (root :: below) ∧ root.id = "a/b" ∧
          below.map Route.id = ["a/b/", "a/b//c"] := by
  intro routes
  have derived : Derived "a/b" routes := by unfold Derived; decide
  have built : build "a/b" routes = .ok ⟨"a/b", routes, _, _, rfl, rfl⟩ := by rfl
  rcases (build_of_derived derived).2.2 _ built { id := "a/b//c" } (by decide) with
    ⟨root, below, isLineage, -, isRoot, ids⟩
  exact ⟨derived, _, built, root, below, isLineage, isRoot, ids⟩

end RouteTree
end TypedRoutes
