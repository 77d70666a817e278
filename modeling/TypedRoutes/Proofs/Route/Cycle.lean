import TypedRoutes.Proofs.Route.Building
import Mathlib.Data.Fintype.EquivFin
import Mathlib.Data.Fintype.Sets
import Mathlib.Logic.Relation

namespace TypedRoutes

/-!
# Parents that go round in a circle

Where every parent is declared, following parents either ends at the root or goes round in a circle:
there are only so many routes.  A list that is rejected for a cycle has such a circle.  The route that
is blamed is the first one from which parents lead into it.  This need not be a route of the circle: one
that hangs below it is blamed where it is declared before all of its routes.
-/

namespace RouteTree

open Relation (TransGen ReflTransGen)

section Definitions

variable (rootId : Text) (routes : List Route)

/-- One declared route names the other as its parent.  The parent of the root does not count. -/
structure Link (route parent : Route) : Prop where
  declared : route ∈ routes
  notRoot : route.id ≠ rootId
  names : route.NamesParent rootId parent.id
  parentDeclared : parent ∈ routes

/-- Following parents for one or more steps comes back to the route. -/
def OnCycle (route : Route) : Prop := TransGen (Link rootId routes) route route

/-- Following parents comes to a route to which it comes back. -/
def EntersCycle (route : Route) : Prop :=
  ∃ member, ReflTransGen (Link rootId routes) route member ∧ OnCycle rootId routes member

/-- Following parents leads from one declared route up to another, and to no cycle. -/
def Above (above below : {route // route ∈ routes}) : Prop :=
  TransGen (Link rootId routes) below.1 above.1 ∧ ¬ EntersCycle rootId routes below.1

end Definitions

variable {rootId id : Text} {routes : List Route} {route parent member : Route}

/-! ## Following parents -/

/-- Where ids are distinct, a route has one parent. -/
theorem Link.unique {other : Route} (distinct : (routes.map Route.id).Nodup)
    (link : Link rootId routes route parent) (linkToo : Link rootId routes route other) :
    parent = other := by
  have same : parent.id = other.id :=
    (Route.namesParent_iff.1 link.names).symm.trans (Route.namesParent_iff.1 linkToo.names)
  exact List.inj_on_of_nodup_map distinct link.parentDeclared linkToo.parentDeclared same

theorem OnCycle.declared (onCycle : OnCycle rootId routes route) : route ∈ routes := by
  rcases TransGen.head'_iff.1 onCycle with ⟨_, link, -⟩
  exact link.declared

theorem OnCycle.entersCycle (onCycle : OnCycle rootId routes route) :
    EntersCycle rootId routes route :=
  ⟨route, .refl, onCycle⟩

/-- What leads to a route leads where this route leads. -/
theorem EntersCycle.of_link (link : Link rootId routes route parent)
    (enters : EntersCycle rootId routes parent) : EntersCycle rootId routes route := by
  rcases enters with ⟨member, leads, onCycle⟩
  exact ⟨member, .head link leads, onCycle⟩

/-- The way into a cycle has no branches. -/
theorem EntersCycle.to_parent (distinct : (routes.map Route.id).Nodup)
    (enters : EntersCycle rootId routes route) (link : Link rootId routes route parent) :
    EntersCycle rootId routes parent := by
  rcases enters with ⟨member, leads, onCycle⟩
  rcases leads.cases_head with rfl | ⟨next, first, rest⟩
  · -- The route is on the cycle itself, and so the way from its parent leads back to it.
    rcases TransGen.head'_iff.1 onCycle with ⟨next, first, rest⟩
    cases first.unique distinct link
    exact ⟨_, rest, onCycle⟩
  · cases first.unique distinct link
    exact ⟨member, rest, onCycle⟩

/-! ## The root or a cycle -/

/-- A way that ends at the root comes to no cycle. -/
theorem not_entersCycle_of_rooted (distinct : (routes.map Route.id).Nodup)
    (rooted : Rooted rootId routes route) : ¬ EntersCycle rootId routes route := by
  induction rooted with
  | root _ isRoot =>
      rintro ⟨member, leads, onCycle⟩
      rcases leads.cases_head with rfl | ⟨_, first, -⟩
      · rcases TransGen.head'_iff.1 onCycle with ⟨_, first, -⟩
        exact first.notRoot isRoot
      · exact first.notRoot isRoot
  | @child route parent declared notRoot names above ih =>
      intro enters
      have parentDeclared : parent ∈ routes := by
        cases above with
        | root declared _ => exact declared
        | child declared _ _ _ => exact declared
      exact ih (enters.to_parent distinct ⟨declared, notRoot, names, parentDeclared⟩)

/-- A way that comes to no cycle passes no route twice, and there are finitely many routes. -/
theorem wellFounded_above (rootId : Text) (routes : List Route) :
    WellFounded (Above rootId routes) := by
  have : IsTrans _ (Above rootId routes) :=
    ⟨fun _ _ _ first second => ⟨second.1.trans first.1, second.2⟩⟩
  have : Std.Irrefl (Above rootId routes) :=
    ⟨fun _ around => around.2 (OnCycle.entersCycle around.1)⟩
  exact Finite.wellFounded_of_trans_of_irrefl (Above rootId routes)

/-- A way that comes to no cycle ends, and where every parent is declared it ends at the root. -/
theorem rooted_of_not_entersCycle (parents : ∀ route ∈ routes, HasParent rootId routes route)
    (declared : route ∈ routes) (free : ¬ EntersCycle rootId routes route) :
    Rooted rootId routes route := by
  suffices ∀ below : {route // route ∈ routes}, ¬ EntersCycle rootId routes below.1 →
      Rooted rootId routes below.1 from this ⟨route, declared⟩ free
  intro below
  induction below using (wellFounded_above rootId routes).induction with
  | _ below ih =>
      rcases below with ⟨route, declared⟩
      intro free
      by_cases isRoot : route.id = rootId
      · exact .root declared isRoot
      · rcases (parents route declared).resolve_left isRoot with ⟨parentId, names, isDeclared⟩
        rcases List.mem_map.1 isDeclared with ⟨parent, parentDeclared, rfl⟩
        have link : Link rootId routes route parent := ⟨declared, isRoot, names, parentDeclared⟩
        have freeParent : ¬ EntersCycle rootId routes parent := mt (EntersCycle.of_link link) free
        exact .child declared isRoot names
          (ih ⟨parent, parentDeclared⟩ ⟨.single link, free⟩ freeParent)

/-- Where every parent is declared, following parents ends at the root or comes to a cycle. -/
theorem not_rooted_iff_entersCycle (distinct : (routes.map Route.id).Nodup)
    (parents : ∀ route ∈ routes, HasParent rootId routes route) (declared : route ∈ routes) :
    ¬ Rooted rootId routes route ↔ EntersCycle rootId routes route := by
  constructor
  · intro lost
    by_contra free
    exact lost (rooted_of_not_entersCycle parents declared free)
  · intro enters rooted
    exact not_entersCycle_of_rooted distinct rooted enters

/-! ## The blame -/

/-- A list is rejected for a cycle exactly if it has no other fault and parents lead from some route
into a cycle.  The first such route is blamed: it is on the cycle itself, or it stands in the list
before all routes of the cycle. -/
theorem build_eq_parentCycle_iff :
    build rootId routes = .error (.parentCycle id) ↔
      (routes.map Route.id).Nodup ∧ rootId ∈ routes.map Route.id ∧
        (∀ route ∈ routes, HasParent rootId routes route) ∧
        ∃ before route after, routes = before ++ route :: after ∧ route.id = id ∧
          EntersCycle rootId routes route ∧
          (∀ earlier ∈ before, ¬ EntersCycle rootId routes earlier) ∧
          (OnCycle rootId routes route ∨ ∀ member,
            ReflTransGen (Link rootId routes) route member → OnCycle rootId routes member →
              member ∈ after) := by
  constructor
  · intro failed
    have verdict := verdict_build rootId routes
    rw [failed] at verdict
    cases verdict with
    | @unrooted before after route distinct hasRoot parents shape rooted lost =>
        have declared : route ∈ routes := by simp [shape]
        have enters := (not_rooted_iff_entersCycle distinct parents declared).1 lost
        have free : ∀ earlier ∈ before, ¬ EntersCycle rootId routes earlier :=
          fun earlier member => not_entersCycle_of_rooted distinct (rooted earlier member)
        refine ⟨distinct, hasRoot, parents, before, route, after, shape, rfl, enters, free, ?_⟩
        by_cases onCycle : OnCycle rootId routes route
        · exact .inl onCycle
        · right
          intro member _ memberOnCycle
          have isDeclared := memberOnCycle.declared
          rw [shape, List.mem_append, List.mem_cons] at isDeclared
          rcases isDeclared with isEarlier | rfl | isLater
          · exact absurd memberOnCycle.entersCycle (free member isEarlier)
          · exact absurd memberOnCycle onCycle
          · exact isLater
  · rintro ⟨distinct, hasRoot, parents, before, route, after, shape, isId, enters, free, -⟩
    rw [← isId, build_eq_iff]
    refine .unrooted distinct hasRoot parents shape (fun earlier member => ?_) ?_
    · have declared : earlier ∈ routes := by simp [shape, member]
      exact rooted_of_not_entersCycle parents declared (free earlier member)
    · exact (not_rooted_iff_entersCycle distinct parents (by simp [shape])).2 enters

/-- The route `t` hangs below the cycle of `x` and `y` and is declared before them: it is blamed, and
nothing leads back to it. -/
theorem build_blames_below_cycle :
    let routes : List Route := [{ id := ['r'] }, { id := ['t'], parentId := some ['x'] },
      { id := ['x'], parentId := some ['y'] }, { id := ['y'], parentId := some ['x'] }]
    build ['r'] routes = .error (.parentCycle ['t']) ∧
      ∀ route ∈ routes, route.id = ['t'] → ¬ OnCycle ['r'] routes route := by
  intro routes
  refine ⟨by rfl, fun route _ isId onCycle => ?_⟩
  rcases TransGen.tail'_iff.1 onCycle with ⟨child, -, link⟩
  have named := Route.namesParent_iff.1 link.names
  rw [isId] at named
  have none : ∀ child ∈ routes, child.parent ['r'] ≠ ['t'] := by decide
  exact none child link.declared named

end RouteTree
end TypedRoutes
