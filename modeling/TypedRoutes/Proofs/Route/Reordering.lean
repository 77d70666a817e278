import TypedRoutes.Proofs.Route.Coherence

namespace TypedRoutes

/-!
# Declarations in another order

Which route is blamed depends on the order in which routes are declared, but not whether one is blamed
and for what: every fault is a fault of the list as a set.  A tree finds the same routes by their ids in
every order, so parents and lineages are the same, and children differ at most in their order.
-/

namespace TreeError

/-- Errors without what they blame. -/
inductive Kind where
  | unknownRoute
  | duplicateRoute
  | missingRoot
  | missingParent
  | parentCycle
deriving DecidableEq, Repr

def kind : TreeError → Kind
  | .unknownRoute _ => .unknownRoute
  | .duplicateRoute _ => .duplicateRoute
  | .missingRoot _ => .missingRoot
  | .missingParent _ _ => .missingParent
  | .parentCycle _ => .parentCycle

/-- The kind of error that an answer is, if it is one. -/
def kindOf {α : Type} : Except TreeError α → Option Kind
  | .ok _ => none
  | .error error => some error.kind

theorem kindOf_eq_none_iff {α : Type} {answer : Except TreeError α} :
    kindOf answer = none ↔ ∃ value, answer = .ok value := by
  cases answer with
  | ok value => exact iff_of_true rfl ⟨value, rfl⟩
  | error error => exact iff_of_false nofun nofun

end TreeError

namespace RouteTree

variable {rootId id : Text} {routes others : List Route} {route : Route}

/-! ## Verdicts -/

theorem hasParent_perm (perm : routes.Perm others) :
    HasParent rootId routes route ↔ HasParent rootId others route := by
  rw [hasParent_iff, hasParent_iff, (perm.map Route.id).mem_iff]

/-- A way to the root stays one where more is declared. -/
theorem Rooted.mono (subset : routes ⊆ others) (rooted : Rooted rootId routes route) :
    Rooted rootId others route := by
  induction rooted with
  | root declared isRoot => exact .root (subset declared) isRoot
  | child declared notRoot names _ ih => exact .child (subset declared) notRoot names ih

theorem rooted_perm (perm : routes.Perm others) :
    Rooted rootId routes route ↔ Rooted rootId others route :=
  ⟨Rooted.mono perm.subset, Rooted.mono perm.symm.subset⟩

open scoped Classical in
/-- What kind of verdict a list is given, by four questions that do not ask for an order. -/
theorem kindOf_build (rootId : Text) (routes : List Route) :
    TreeError.kindOf (build rootId routes) =
      if ¬ (routes.map Route.id).Nodup then some .duplicateRoute
      else if rootId ∉ routes.map Route.id then some .missingRoot
      else if ¬ ∀ route ∈ routes, HasParent rootId routes route then some .missingParent
      else if ¬ ∀ route ∈ routes, Rooted rootId routes route then some .parentCycle
      else none := by
  have verdict := verdict_build rootId routes
  generalize build rootId routes = answer at verdict ⊢
  cases verdict with
  | tree _ _ wellFormed =>
      rw [if_neg (not_not_intro wellFormed.distinct), if_neg (not_not_intro wellFormed.root),
        if_neg (not_not_intro wellFormed.parents), if_neg (not_not_intro wellFormed.rooted)]
      rfl
  | @repeated before after route shape _ again =>
      have notDistinct : ¬ (routes.map Route.id).Nodup := by
        rw [shape, List.map_append, List.map_cons, List.nodup_middle, List.nodup_cons]
        exact fun distinct => distinct.1 (List.mem_append_left _ again)
      rw [if_pos notDistinct]
      rfl
  | noRoot distinct missing =>
      rw [if_neg (not_not_intro distinct), if_pos missing]
      rfl
  | @orphan before after route parent distinct root shape _ notRoot names missing =>
      have notParents : ¬ ∀ route ∈ routes, HasParent rootId routes route := by
        intro parents
        rcases (parents route (by simp [shape])).resolve_left notRoot with ⟨other, namesToo, declared⟩
        rw [Route.namesParent_iff] at names namesToo
        exact missing (names ▸ namesToo ▸ declared)
      rw [if_neg (not_not_intro distinct), if_neg (not_not_intro root), if_pos notParents]
      rfl
  | @unrooted before after route distinct root parents shape _ lost =>
      have notRooted : ¬ ∀ route ∈ routes, Rooted rootId routes route :=
        fun rooted => lost (rooted route (by simp [shape]))
      rw [if_neg (not_not_intro distinct), if_neg (not_not_intro root),
        if_neg (not_not_intro parents), if_pos notRooted]
      rfl

open scoped Classical in
/-- In every order a list is accepted, or it is rejected for the same kind of fault. -/
theorem kindOf_build_perm (perm : routes.Perm others) :
    TreeError.kindOf (build rootId routes) = TreeError.kindOf (build rootId others) := by
  have parents : (∀ route ∈ routes, HasParent rootId routes route) ↔
      ∀ route ∈ others, HasParent rootId others route :=
    forall_congr' fun _ => by rw [perm.mem_iff, hasParent_perm perm]
  have rooted : (∀ route ∈ routes, Rooted rootId routes route) ↔
      ∀ route ∈ others, Rooted rootId others route :=
    forall_congr' fun _ => by rw [perm.mem_iff, rooted_perm perm]
  rw [kindOf_build, kindOf_build]
  exact if_congr (not_congr (perm.map Route.id).nodup_iff) rfl
    (if_congr (not_congr (perm.map Route.id).mem_iff) rfl
      (if_congr (not_congr parents) rfl (if_congr (not_congr rooted) rfl rfl)))

/-! ## Questions -/

/-- Two trees of the same routes in some order, which give the same answers. -/
structure Reordered (first second : RouteTree) : Prop where
  rootId : first.rootId = second.rootId
  routes : first.routes.Perm second.routes
  found : ∀ id, first.find? id = second.find? id
  parent : ∀ id, first.parent? id = second.parent? id
  children : ∀ id, (first.children id).Perm (second.children id)
  lineage : ∀ id, first.lineage id = second.lineage id
  fullPath : ∀ id, first.fullPath id = second.fullPath id

section Permuted

variable {first second : RouteTree} (perm : first.routes.Perm second.routes)

include perm

/-- An id finds its route in every order. -/
theorem find?_perm (id : Text) : first.find? id = second.find? id := by
  cases found : first.find? id with
  | none =>
      have missing := find?_eq_none_iff.1 found
      rw [(perm.map Route.id).mem_iff] at missing
      exact (find?_eq_none_iff.2 missing).symm
  | some route =>
      rw [← id_of_find? found, find?_id (perm.mem_iff.1 (mem_of_find? found))]

variable (sameRoot : first.rootId = second.rootId)

include sameRoot

/-- Positions differ, and yet links lead to the same parents. -/
theorem parent?_perm (id : Text) : first.parent? id = second.parent? id := by
  by_cases known : id ∈ first.routes.map Route.id
  · rcases List.mem_map.1 known with ⟨route, declared, rfl⟩
    ext parent
    rw [parent?_eq_some_iff declared, parent?_eq_some_iff (perm.mem_iff.1 declared), sameRoot,
      find?_perm perm]
  · have unknown : id ∉ second.routes.map Route.id := (perm.map Route.id).mem_iff.not.1 known
    rw [parent?_of_unknown known, parent?_of_unknown unknown]

theorem ascent_perm {way : List Route} (ascent : Ascent first route way) :
    Ascent second route way := by
  induction ascent with
  | root isRoot => exact .root (isRoot.trans sameRoot)
  | step notRoot isParent _ ih =>
      rw [sameRoot] at notRoot
      rw [sameRoot, find?_perm perm] at isParent
      exact .step notRoot isParent ih

/-- A list of routes that is well-formed gives the same answers in every order. -/
theorem reordered_of_perm (wellFormed : WellFormed first.rootId first.routes) :
    Reordered first second := by
  have lineages : ∀ id, first.lineage id = second.lineage id := by
    intro id
    by_cases known : id ∈ first.routes.map Route.id
    · rcases List.mem_map.1 known with ⟨route, declared, rfl⟩
      rcases wellFormed.exists_ascent declared with ⟨way, ascent⟩
      rw [ascent.lineage_eq declared,
        (ascent_perm perm sameRoot ascent).lineage_eq (perm.mem_iff.1 declared)]
    · have unknown : id ∉ second.routes.map Route.id := (perm.map Route.id).mem_iff.not.1 known
      rw [lineage_of_unknown known, lineage_of_unknown unknown]
  refine ⟨sameRoot, perm, find?_perm perm, parent?_perm perm sameRoot, fun id => ?_, lineages,
    fun id => ?_⟩
  · rw [children_eq, children_eq]
    simp only [parent?_perm perm sameRoot]
    exact perm.filter _
  · rw [fullPath, fullPath, lineages]

end Permuted

end RouteTree
end TypedRoutes
