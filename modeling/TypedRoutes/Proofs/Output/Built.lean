import TypedRoutes.Proofs.Output.Plan
import TypedRoutes.Proofs.Output.Program
import TypedRoutes.Proofs.Route.Coherence

namespace TypedRoutes

/-!
# Passes of built trees

A tree that was built is coherent, so nothing that is asked of it later can fail: every declared route
has a full path and a declaration file, the register can be made, and a pass never ends in an error
of the tree, whatever file system it runs on.
-/

namespace Pass

open FileSystem

variable {target : Target} {snapshot : Snapshot} {files : List OutputFile} {error : PassError}

section Errors

variable {σ : Type} [FileSystem (StateM σ)] {state after : σ}

theorem clear_eq_error {output : Path}
    (failed : clear (m := StateM σ) output state = (.error error, after)) :
    ∃ fault, error = .clear output fault := by
  rw [clear_run] at failed
  generalize removeTree (m := StateM σ) output state = result at failed
  rcases result with ⟨answer, removed⟩
  cases answer with
  | ok _ => cases failed
  | error fault =>
      cases fault with
      | notFound => cases failed
      | _ =>
          cases failed
          exact ⟨_, rfl⟩

theorem writeFiles_eq_error
    (failed : writeFiles (m := StateM σ) files state = (.error error, after)) :
    ∃ path fault, error = .write path fault := by
  induction files generalizing state with
  | nil => cases failed
  | cons file rest ih =>
      rcases file with ⟨path, text⟩
      rw [writeFiles_cons_run] at failed
      generalize writeFile (m := StateM σ) path text state = result at failed
      rcases result with ⟨answer, middle⟩
      cases answer with
      | error fault =>
          cases failed
          exact ⟨path, fault, rfl⟩
      | ok _ => exact ih failed

/-- Once the files are known, only clearing and writing can fail. -/
theorem replace_eq_error (failed : replace target snapshot files state = (.error error, after)) :
    (∃ fault, error = .clear target.output fault) ∨ ∃ path fault, error = .write path fault := by
  unfold replace at failed
  generalize cleared : clear (m := StateM σ) target.output state = first at failed
  rcases first with ⟨answer, middle⟩
  cases answer with
  | error other =>
      cases failed
      exact .inl (clear_eq_error cleared)
  | ok _ =>
      simp only at failed
      generalize wrote : writeFiles (m := StateM σ) files middle = second at failed
      rcases second with ⟨answer, last⟩
      cases answer with
      | ok _ => cases failed
      | error other =>
          cases failed
          exact .inr (writeFiles_eq_error wrote)

/-- A pass of a built tree has no error of the tree to report. -/
theorem run_ne_tree {rootId : Text} {routes : List Route}
    (built : RouteTree.build rootId routes = .ok snapshot.tree) (target : Target) (state : σ)
    (error : TreeError) : (run (m := StateM σ) target snapshot state).1 ≠ .error (.tree error) := by
  rw [run_run]
  generalize workingDirectory (m := StateM σ) state = first
  rcases first with ⟨working, state⟩
  simp only
  intro failed
  cases planned : plan working target snapshot with
  | error other =>
      rw [planned] at failed
      cases failed
      rcases plan_eq_error built planned with ⟨_, same⟩ | ⟨_, _, _, same⟩
      · cases same
      · cases same
  | ok files =>
      rw [planned] at failed
      rcases replace_eq_error (Prod.ext failed rfl) with ⟨_, same⟩ | ⟨_, _, same⟩
      · cases same
      · cases same

end Errors

end Pass

/-! ## Answers -/

/-- Whatever is asked of a tree in order to generate files has an answer. -/
structure RouteTree.Answers (tree : RouteTree) : Prop where
  fullPath : ∀ route ∈ tree.routes, ∃ path, tree.fullPath route.id = .ok path
  registeredPaths : ∃ entries, Declaration.registeredPaths tree = .ok entries
  routeFile : ∀ snapshot : Snapshot, snapshot.tree = tree → ∀ frameworkModule,
    ∀ route ∈ tree.routes, ∃ text,
      Declaration.routeFile frameworkModule snapshot route = .ok text
  register : ∀ snapshot : Snapshot, snapshot.tree = tree → ∀ frameworkModule, ∃ text,
    Declaration.register frameworkModule snapshot = .ok text
  /-- On no file system and in no state of it does a pass fail for the tree. -/
  pass : ∀ snapshot : Snapshot, snapshot.tree = tree → ∀ (σ : Type) [FileSystem (StateM σ)]
    (target : Target) (state : σ) (error : TreeError),
      (Pass.run (m := StateM σ) target snapshot state).1 ≠ .error (.tree error)

namespace RouteTree

variable {tree : RouteTree} {rootId : Text} {routes : List Route}

theorem answers_of_build (built : build rootId routes = .ok tree) : tree.Answers where
  fullPath _ declared := exists_fullPath built declared
  registeredPaths := Declaration.exists_registeredPaths built
  routeFile snapshot same frameworkModule route declared := by
    subst same
    exact Declaration.exists_routeFile built frameworkModule declared
  register snapshot same frameworkModule := by
    subst same
    exact Declaration.exists_register built frameworkModule
  pass snapshot same σ _ target state error := by
    subst same
    exact Pass.run_ne_tree built target state error

/-- A tree that was built holds what was declared, is coherent, and answers whatever is asked in
order to generate files. -/
theorem coherent_of_build (built : build rootId routes = .ok tree) :
    tree.rootId = rootId ∧ tree.routes = routes ∧ tree.Coherent ∧ tree.Answers := by
  have answers := answers_of_build built
  rcases wellFormed_of_build built with ⟨rfl, rfl, wellFormed⟩
  exact ⟨rfl, rfl, wellFormed.coherent, answers⟩

/-- A tree whose deepest route is declared first, and whose root names a parent that does not
count. -/
theorem coherent_of_build_deepest_first :
    ∃ tree, build ['r']
        [{ id := ['b'], parentId := some ['a'] }, { id := ['a'] },
          { id := ['r'], parentId := some ['b'] }] = .ok tree ∧
      tree.Coherent ∧ tree.Answers := by
  have built : build ['r']
      [{ id := ['b'], parentId := some ['a'] }, { id := ['a'] },
        { id := ['r'], parentId := some ['b'] }] = .ok ⟨['r'],
      [{ id := ['b'], parentId := some ['a'] }, { id := ['a'] },
        { id := ['r'], parentId := some ['b'] }], _, _, rfl, rfl⟩ := by rfl
  exact ⟨_, built, (coherent_of_build built).2.2⟩

end RouteTree
end TypedRoutes
