import TypedRoutes.Output.Pass
import TypedRoutes.Proofs.Disk.Soundness

namespace TypedRoutes

/-!
# Passes, step by step

A pass as a function of a state: the plan, the clearing, the files one after the other.  What the
requests keep, the pass keeps, and a pass that succeeds in trouble succeeds without it.
-/

namespace Pass

open FileSystem

/-! ## What a pass does first, and how it goes on -/

section Runs

variable {σ : Type} [FileSystem (StateM σ)]

theorem clear_run (output : Path) (state : σ) :
    clear (m := StateM σ) output state =
      match removeTree (m := StateM σ) output state with
      | (.ok (), state) => (.ok (), state)
      | (.error .notFound, state) => (.ok (), state)
      | (.error fault, state) => (.error (.clear output fault), state) := by
  rw [clear, bind_run]
  rcases removeTree (m := StateM σ) output state with ⟨answer, state⟩
  cases answer with
  | ok _ => rfl
  | error fault => cases fault <;> rfl

theorem writeFiles_cons_run (path : Path) (text : Text) (rest : List OutputFile) (state : σ) :
    writeFiles (m := StateM σ) ((path, text) :: rest) state =
      match writeFile (m := StateM σ) path text state with
      | (.error fault, state) => (.error (.write path fault), state)
      | (.ok (), state) => writeFiles (m := StateM σ) rest state := by
  rw [writeFiles, bind_run]
  rcases writeFile (m := StateM σ) path text state with ⟨answer, state⟩
  cases answer <;> rfl

/-- What happens once the files of a pass are known. -/
def replace (target : Target) (snapshot : Snapshot) (files : List OutputFile) (state : σ) :
    Except PassError Summary × σ :=
  match clear (m := StateM σ) target.output state with
  | (.error error, state) => (.error error, state)
  | (.ok (), state) =>
      match writeFiles (m := StateM σ) files state with
      | (.error error, state) => (.error error, state)
      | (.ok (), state) => (.ok ⟨snapshot.routes.length, files.length⟩, state)

theorem run_run (target : Target) (snapshot : Snapshot) (state : σ) :
    run (m := StateM σ) target snapshot state =
      match workingDirectory (m := StateM σ) state with
      | (working, state) =>
          match plan working target snapshot with
          | .error error => (.error error, state)
          | .ok files => replace target snapshot files state := by
  rw [run, bind_run]
  rcases workingDirectory (m := StateM σ) state with ⟨working, state⟩
  simp only
  cases plan working target snapshot with
  | error error => rfl
  | ok files =>
      simp only [bind_run, replace]
      rcases clear (m := StateM σ) target.output state with ⟨answer, state⟩
      cases answer with
      | error error => rfl
      | ok _ =>
          simp only [bind_run]
          rcases writeFiles (m := StateM σ) files state with ⟨answer, state⟩
          cases answer <;> rfl

/-- A success has cleared the output directory and has written every file. -/
theorem replace_eq_ok {target : Target} {snapshot : Snapshot} {files : List OutputFile}
    {state after : σ} {summary : Summary}
    (succeeded : replace target snapshot files state = (.ok summary, after)) :
    summary = ⟨snapshot.routes.length, files.length⟩ ∧
      ∃ cleared, clear (m := StateM σ) target.output state = (.ok (), cleared) ∧
        writeFiles (m := StateM σ) files cleared = (.ok (), after) := by
  unfold replace at succeeded
  generalize clear (m := StateM σ) target.output state = first at succeeded ⊢
  rcases first with ⟨answer, cleared⟩
  cases answer with
  | error error => cases succeeded
  | ok _ =>
      simp only at succeeded
      generalize writes : writeFiles (m := StateM σ) files cleared = second at succeeded
      rcases second with ⟨answer, last⟩
      cases answer with
      | error error => cases succeeded
      | ok _ =>
          cases succeeded
          exact ⟨rfl, cleared, rfl, writes⟩

/-! ## What a pass keeps -/

variable {R : σ → σ → Prop}

theorem keeps_clear {output : Path} (state : σ)
    (removes : R state (removeTree (m := StateM σ) output state).2) :
    R state (clear (m := StateM σ) output state).2 := by
  rw [clear_run]
  generalize removeTree (m := StateM σ) output state = result at removes ⊢
  rcases result with ⟨answer, after⟩
  cases answer with
  | ok _ => exact removes
  | error fault => cases fault <;> exact removes

theorem keeps_writeFiles (keeps : Keeps R) {files : List OutputFile}
    (writes : ∀ file ∈ files, ∀ state, R state (write (m := StateM σ) file.1 file.2 state).2)
    (state : σ) : R state (writeFiles (m := StateM σ) files state).2 := by
  induction files generalizing state with
  | nil => exact keeps.refl state
  | cons file rest ih =>
      rcases file with ⟨path, text⟩
      have written := keeps.writeFile (writes _ List.mem_cons_self) state
      rw [writeFiles_cons_run]
      generalize FileSystem.writeFile (m := StateM σ) path text state = result at written ⊢
      rcases result with ⟨answer, after⟩
      cases answer with
      | error fault => exact written
      | ok _ =>
          refine keeps.trans written (ih (fun file member => ?_) after)
          exact writes file (List.mem_cons_of_mem _ member)

theorem keeps_replace (keeps : Keeps R) {target : Target} {snapshot : Snapshot}
    {files : List OutputFile} (state : σ)
    (removes : R state (removeTree (m := StateM σ) target.output state).2)
    (writes : ∀ file ∈ files, ∀ state, R state (write (m := StateM σ) file.1 file.2 state).2) :
    R state (replace target snapshot files state).2 := by
  have cleared := keeps_clear state removes
  unfold replace
  generalize clear (m := StateM σ) target.output state = first at cleared ⊢
  rcases first with ⟨answer, middle⟩
  cases answer with
  | error error => exact cleared
  | ok _ =>
      have written := keeps.trans cleared (keeps_writeFiles keeps writes middle)
      simp only
      generalize writeFiles (m := StateM σ) files middle = second at written ⊢
      rcases second with ⟨answer, after⟩
      cases answer <;> exact written

end Runs

/-! ## Passes in trouble -/

open FaultyDisk (Sound)

theorem run_disk (target : Target) (snapshot : Snapshot) (disk : Disk) :
    run (m := StateM Disk) target snapshot disk =
      match plan disk.working target snapshot with
      | .error error => (.error error, disk)
      | .ok files => replace target snapshot files disk := run_run target snapshot disk

theorem run_faulty (target : Target) (snapshot : Snapshot) (faulty : FaultyDisk) :
    run (m := StateM FaultyDisk) target snapshot faulty =
      match plan faulty.disk.working target snapshot with
      | .error error => (.error error, faulty)
      | .ok files => replace target snapshot files faulty := run_run target snapshot faulty

theorem sound_clear (output : Path) :
    Sound (clear (m := StateM FaultyDisk) output) (clear (m := StateM Disk) output) := by
  intro faulty value succeeded
  rw [clear_run] at succeeded ⊢
  rw [clear_run]
  have healthy : ∀ words, (removeTree (m := StateM FaultyDisk) output faulty).1 ≠
      .error (.other words) := by
    intro words failed
    rw [show removeTree (m := StateM FaultyDisk) output faulty = (_, _) from Prod.ext failed rfl]
      at succeeded
    cases succeeded
  have same := FaultyDisk.request_of_ne_other healthy
  change removeTree (m := StateM Disk) output faulty.disk =
    ((removeTree (m := StateM FaultyDisk) output faulty).1,
      (removeTree (m := StateM FaultyDisk) output faulty).2.disk) at same
  rw [same]
  generalize removeTree (m := StateM FaultyDisk) output faulty = result at succeeded ⊢
  rcases result with ⟨answer, after⟩
  cases answer with
  | ok _ => rfl
  | error fault =>
      cases fault with
      | notFound => rfl
      | _ => cases succeeded

theorem sound_writeFiles (files : List OutputFile) :
    Sound (writeFiles (m := StateM FaultyDisk) files) (writeFiles (m := StateM Disk) files) := by
  induction files with
  | nil => exact fun _ _ _ => rfl
  | cons file rest ih =>
      rcases file with ⟨path, text⟩
      intro faulty value succeeded
      have first := FaultyDisk.sound_writeFile path text faulty
      rw [writeFiles_cons_run] at succeeded ⊢
      rw [writeFiles_cons_run]
      generalize writeFile (m := StateM FaultyDisk) path text faulty = result at succeeded first ⊢
      rcases result with ⟨answer, middle⟩
      cases answer with
      | error fault => cases succeeded
      | ok _ =>
          rw [first () rfl]
          exact ih middle value succeeded

/-- A pass that succeeds on a disk in trouble has met no trouble. -/
theorem sound_run (target : Target) (snapshot : Snapshot) :
    Sound (run (m := StateM FaultyDisk) target snapshot)
      (run (m := StateM Disk) target snapshot) := by
  intro faulty summary succeeded
  rw [run_faulty] at succeeded ⊢
  rw [run_disk]
  cases planned : plan faulty.disk.working target snapshot with
  | error error =>
      rw [planned] at succeeded
      cases succeeded
  | ok files =>
      rw [planned] at succeeded
      rcases replace_eq_ok (Prod.ext succeeded rfl) with ⟨rfl, cleared, clears, writes⟩
      have clearsHealthy := sound_clear target.output faulty () (by rw [clears])
      rw [clears] at clearsHealthy
      have writesHealthy := sound_writeFiles files cleared () (by rw [writes])
      rw [writes] at writesHealthy
      simp only [replace, clearsHealthy, writesHealthy]

end Pass
end TypedRoutes
