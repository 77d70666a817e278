import TypedRoutes.Declaration.Register
import TypedRoutes.Declaration.RouteFile
import TypedRoutes.Proofs.Route.Building

namespace TypedRoutes

/-!
# Trees that were built

Every question that a generated file asks of a built tree has an answer: each declared route has a
lineage, so it has a full path, a declaration file, and a line in the register.
-/

namespace RouteTree

variable {tree : RouteTree} {rootId : Text} {routes : List Route}

/-- Every declared route has a lineage. -/
theorem exists_lineage (built : build rootId routes = .ok tree) {route : Route}
    (declared : route ∈ tree.routes) : ∃ lineage, tree.lineage route.id = .ok lineage := by
  rcases wellFormed_of_build built with ⟨rfl, rfl, wellFormed⟩
  rcases wellFormed.exists_ascent declared with ⟨way, ascent⟩
  exact ⟨way.reverse, ascent.lineage_eq declared⟩

theorem exists_fullPath (built : build rootId routes = .ok tree) {route : Route}
    (declared : route ∈ tree.routes) : ∃ path, tree.fullPath route.id = .ok path := by
  rcases exists_lineage built declared with ⟨lineage, eq⟩
  exact ⟨FullPath.ofLineage lineage, by rw [fullPath, eq]; rfl⟩

end RouteTree

/-- Answers to each of several questions are an answer to all. -/
theorem exists_mapM_ok {α β ε : Type} {ask : α → Except ε β} {questions : List α}
    (answers : ∀ question ∈ questions, ∃ answer, ask question = .ok answer) :
    ∃ all, questions.mapM ask = .ok all := by
  induction questions with
  | nil => exact ⟨[], rfl⟩
  | cons first rest ih =>
      rcases answers first List.mem_cons_self with ⟨answer, answered⟩
      rcases ih fun question member =>
        answers question (List.mem_cons_of_mem _ member) with ⟨all, answeredRest⟩
      exact ⟨answer :: all, by rw [List.mapM_cons, answered, answeredRest]; rfl⟩

namespace Declaration

variable {snapshot : Snapshot} {rootId : Text} {routes : List Route}

theorem exists_routeFile (built : RouteTree.build rootId routes = .ok snapshot.tree)
    (frameworkModule : Text) {route : Route} (declared : route ∈ snapshot.routes) :
    ∃ text, routeFile frameworkModule snapshot route = .ok text := by
  rcases RouteTree.exists_lineage built declared with ⟨lineage, eq⟩
  exact ⟨routeFileOf frameworkModule snapshot route lineage, by rw [routeFile, eq]; rfl⟩

theorem exists_registeredPaths {tree : RouteTree}
    (built : RouteTree.build rootId routes = .ok tree) :
    ∃ entries, registeredPaths tree = .ok entries := by
  have contributed : ∃ paths, contributedPaths tree = .ok paths :=
    exists_mapM_ok fun route member =>
      RouteTree.exists_fullPath built (List.mem_filter.1 member).1
  rcases contributed with ⟨paths, eq⟩
  exact ⟨_, by rw [registeredPaths, eq]; rfl⟩

theorem exists_register (built : RouteTree.build rootId routes = .ok snapshot.tree)
    (frameworkModule : Text) : ∃ text, register frameworkModule snapshot = .ok text := by
  rcases exists_registeredPaths built with ⟨entries, eq⟩
  exact ⟨_, by rw [register, eq]; rfl⟩

end Declaration
end TypedRoutes
