import TypedRoutes.Proofs.Declaration.Register
import TypedRoutes.Proofs.Output.Collision
import TypedRoutes.Proofs.Route.Reordering

namespace TypedRoutes

/-!
# Output of declarations in another order

What the register lists and whether a pass is refused for a shared file are questions about the routes
as a set.  Together with the answers of the tree they are the same for every order in which a list is
declared; what the order decides is the order of children and of the register, and who is blamed.
-/

namespace Declaration

variable {first second : RouteTree} {entries others : List (Text × Params)}

/-- A register says of a full path what the path declares, and nothing else. -/
theorem IsRegister.mem_iff (isRegister : IsRegister first entries) {entry : Text × Params} :
    entry ∈ entries ↔ entry.1 ∈ entries.map Prod.fst ∧ entry.2 = Params.ofPath entry.1 := by
  constructor
  · intro member
    exact ⟨List.mem_map_of_mem member, isRegister.params entry member⟩
  · rintro ⟨isKey, isParams⟩
    rcases List.mem_map.1 isKey with ⟨other, member, sameKey⟩
    have same : other = entry := by
      refine Prod.ext sameKey ?_
      rw [isRegister.params other member, sameKey, isParams]
    rwa [← same]

/-- Registers of the same routes in two orders list the same, in some order. -/
theorem IsRegister.perm (reordered : RouteTree.Reordered first second)
    (isRegister : IsRegister first entries) (isRegisterToo : IsRegister second others) :
    entries.Perm others := by
  have sameKeys : ∀ path, path ∈ entries.map Prod.fst ↔ path ∈ others.map Prod.fst := by
    intro path
    rw [isRegister.paths, isRegisterToo.paths]
    simp only [reordered.routes.mem_iff, reordered.fullPath]
  rw [List.perm_ext_iff_of_nodup isRegister.distinct.of_map isRegisterToo.distinct.of_map]
  intro entry
  rw [isRegister.mem_iff, isRegisterToo.mem_iff, sameKeys]

end Declaration

namespace Pass

variable {snapshot : Snapshot} {rootId : Text} {routes : List Route}

/-- A pass stops for a shared file. -/
def RefusesShared {σ : Type} [FileSystem (StateM σ)] (target : Target) (snapshot : Snapshot)
    (state : σ) : Prop :=
  ∃ place first second,
    (run (m := StateM σ) target snapshot state).1 = .error (.placeTaken place first second)

/-- On every file system, a pass of a built tree stops for a shared file exactly if its directory is
accepted and a key is used twice. -/
theorem refusesShared_iff {σ : Type} [FileSystem (StateM σ)]
    (built : RouteTree.build rootId routes = .ok snapshot.tree) (target : Target) (state : σ) :
    RefusesShared target snapshot state ↔
      target.firstCovered? (FileSystem.workingDirectory (m := StateM σ) state).1 = none ∧
        ¬ (snapshot.routes.map fun route => Placement.key route.id).Nodup := by
  unfold RefusesShared
  rw [run_run]
  generalize FileSystem.workingDirectory (m := StateM σ) state = found
  rcases found with ⟨working, state⟩
  simp only
  cases covered : target.firstCovered? working with
  | some path =>
      rw [plan, covered]
      simp
  | none =>
      by_cases distinct : (snapshot.routes.map fun route => Placement.key route.id).Nodup
      · rcases exists_contents built target.frameworkModule with ⟨all, made⟩
        rw [plan_of_distinct covered made (nodup_places_iff.2 distinct)]
        refine iff_of_false ?_ fun repeated => repeated.2 distinct
        rintro ⟨place, first, second, failed⟩
        rcases replace_eq_error (Prod.ext failed rfl) with ⟨_, other⟩ | ⟨_, _, other⟩
        · cases other
        · cases other
      · rcases plan_of_shared built covered distinct with ⟨first, second, -, refused⟩
        rw [refused]
        exact iff_of_true ⟨_, _, _, rfl⟩ ⟨rfl, distinct⟩

end Pass

namespace RouteTree

/-- Two trees of the same routes in some order, which make the same difference to all output. -/
structure Interchangeable (first second : RouteTree) : Prop extends Reordered first second where
  register : ∃ entries others, Declaration.registeredPaths first = .ok entries ∧
    Declaration.registeredPaths second = .ok others ∧ (entries.map Prod.fst).Nodup ∧
    entries.Perm others
  /-- On every file system, passes into one directory are refused together. -/
  refused : ∀ (σ : Type) [FileSystem (StateM σ)] (target : Target) (state : σ)
    (appDirectory mode : Text) (future : FutureFlags),
      Pass.RefusesShared target ⟨appDirectory, mode, future, first⟩ state ↔
        Pass.RefusesShared target ⟨appDirectory, mode, future, second⟩ state

variable {rootId : Text} {routes others : List Route} {first second : RouteTree}

theorem interchangeable_of_build (built : build rootId routes = .ok first)
    (builtToo : build rootId others = .ok second) (perm : routes.Perm others) :
    Interchangeable first second := by
  have reordered : Reordered first second := by
    rcases wellFormed_of_build built with ⟨rfl, rfl, wellFormed⟩
    rcases wellFormed_of_build builtToo with ⟨sameRoot, rfl, -⟩
    exact reordered_of_perm perm sameRoot.symm wellFormed
  rcases Declaration.exists_isRegister built with ⟨entries, registered, isRegister⟩
  rcases Declaration.exists_isRegister builtToo with ⟨entriesToo, registeredToo, isRegisterToo⟩
  refine ⟨reordered, ⟨entries, entriesToo, registered, registeredToo, isRegister.distinct,
    isRegister.perm reordered isRegisterToo⟩, ?_⟩
  intro σ _ target state appDirectory mode future
  have sameKeys : ((first.routes.map fun route => Placement.key route.id).Nodup) ↔
      ((second.routes.map fun route => Placement.key route.id).Nodup) :=
    (reordered.routes.map _).nodup_iff
  rw [Pass.refusesShared_iff built, Pass.refusesShared_iff builtToo, Snapshot.routes, Snapshot.routes,
    sameKeys]

/-- The order of declaration does not matter beyond order.  A list of routes and every permutation of
it are trees together, or they are rejected for the same kind of fault; and the trees are
interchangeable. -/
theorem build_perm (perm : routes.Perm others) :
    TreeError.kindOf (build rootId routes) = TreeError.kindOf (build rootId others) ∧
      ∀ first, build rootId routes = .ok first →
        ∃ second, build rootId others = .ok second ∧ Interchangeable first second := by
  refine ⟨kindOf_build_perm perm, fun first built => ?_⟩
  have accepted : TreeError.kindOf (build rootId others) = none := by
    rw [← kindOf_build_perm perm, built]
    rfl
  rcases TreeError.kindOf_eq_none_iff.1 accepted with ⟨second, builtToo⟩
  exact ⟨second, builtToo, interchangeable_of_build built builtToo perm⟩

/-- A child that is declared before its layout and shares its full path with another route, and the same
list turned round. -/
theorem build_perm_turned_round :
    let routes : List Route := [{ id := "a/x", path := some "p" }, { id := "b", path := some "p" },
      { id := "a" }, { id := "r" }]
    routes.Perm routes.reverse ∧ ∃ first second, build "r" routes = .ok first ∧
      build "r" routes.reverse = .ok second ∧ Interchangeable first second := by
  intro routes
  have perm : routes.Perm routes.reverse := routes.reverse_perm.symm
  have built : build "r" routes = .ok ⟨"r", routes, _, _, rfl, rfl⟩ := by rfl
  rcases (build_perm perm).2 _ built with ⟨second, builtToo, interchangeable⟩
  exact ⟨perm, _, second, built, builtToo, interchangeable⟩

end RouteTree
end TypedRoutes
