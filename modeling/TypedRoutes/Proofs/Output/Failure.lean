import TypedRoutes.Proofs.Output.Outcome

namespace TypedRoutes

/-!
# A pass that fails

On a disk without trouble a failed pass never leaves old and new output side by side.  Refused, or
unable to clear its directory, it leaves the disk as it was.  Stopped at a file, it leaves exactly the
files that come before it in the order of writing, each with its whole text.  For a built tree there
are no other failures.
-/

namespace Pass

variable {target : Target} {snapshot : Snapshot}

/-- What a failed pass leaves, cause by cause, and that it touches no file elsewhere. -/
theorem run_failure {rootId : Text} {routes : List Route} {disk after : Disk} {error : PassError}
    (built : RouteTree.build rootId routes = .ok snapshot.tree) (rooted : target.root.text ≠ [])
    (plain : target.output.IsPlain)
    (failed : run (m := StateM Disk) target snapshot disk = (.error error, after)) :
    (∀ place, ¬ target.output.location disk.working <+: place →
        after.textAt? place = disk.textAt? place) ∧
      match error with
      | .unsafeOutput _ _ => after = disk
      | .placeTaken _ _ _ => after = disk
      | .clear _ _ => after = disk
      | .write path _ => ∃ written content rest,
          contents target.frameworkModule snapshot = .ok (written ++ content :: rest) ∧
            path = target.output.join (Path.ofNames content.1) ∧
            ∀ below text,
              after.textAt? (target.output.location disk.working ++ below) = some text ↔
                (below, text) ∈ written
      | .tree _ => False := by
  have ending := outcome snapshot rooted plain disk
  rw [failed] at ending
  cases ending with
  | refused refused =>
      refine ⟨fun _ _ => rfl, ?_⟩
      rcases plan_eq_error built refused with ⟨_, rfl⟩ | ⟨_, _, _, rfl⟩
      · rfl
      · rfl
  | kept planned => exact ⟨fun _ _ => rfl, rfl⟩
  | @stopped written rest content _ _ _ planned clears laid =>
      have ends := target.output_endsInName rooted plain planned.accepted
      have names : ∀ content ∈ written,
          content.1 ≠ [] ∧ ∀ part ∈ content.1, Path.IsName part :=
        fun content member => planned.names content (List.mem_append_left _ member)
      rcases textAt?_of_laid names clears laid with ⟨shows, outside⟩
      exact ⟨outside, written, content, rest, planned.made, rfl, shows⟩

/-- An application directory with the name of the register stops the pass at the register: the one
declaration file is there, and nothing else. -/
theorem run_failure_at_register :
    ∃ after written content rest,
      run (m := StateM Disk) .small (.rootOnly Declaration.registerName) .small =
        (.error (.write (Target.small.output.join ⟨Declaration.registerName⟩) .isDirectory), after) ∧
      contents Target.small.frameworkModule (.rootOnly Declaration.registerName) =
        .ok (written ++ content :: rest) ∧
      ∀ below text, after.textAt? (Target.small.output.location [] ++ below) = some text ↔
        (below, text) ∈ written := by
  have answer : (run (m := StateM Disk) .small (.rootOnly Declaration.registerName) .small).1 =
      .error (.write (Target.small.output.join ⟨Declaration.registerName⟩) .isDirectory) := by rfl
  have built : RouteTree.build ['r'] (Snapshot.rootOnly Declaration.registerName).routes =
      .ok (Snapshot.rootOnly Declaration.registerName).tree := by rfl
  have failed := Prod.ext answer
    (Eq.refl (run (m := StateM Disk) .small (.rootOnly Declaration.registerName) .small).2)
  rcases run_failure built (by decide) ⟨by decide, by decide⟩ failed with
    ⟨-, written, content, rest, made, -, shows⟩
  exact ⟨_, written, content, rest, failed, made, shows⟩

end Pass
end TypedRoutes
