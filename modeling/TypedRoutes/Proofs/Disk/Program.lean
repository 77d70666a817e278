import TypedRoutes.Disk.FileSystem

namespace TypedRoutes

/-!
# Programs on a file system, step by step

The compound requests as functions of a state: what each does first, and how it goes on after each
answer.  For every file system it follows that what the primitive requests keep, the compound ones
keep.
-/

namespace FileSystem

/-- A program that goes on after another one. -/
theorem bind_run {σ α β : Type} (first : StateM σ α) (next : α → StateM σ β) (state : σ) :
    (first >>= next) state = next (first state).1 (first state).2 := rfl

variable {σ : Type} [FileSystem (StateM σ)]

theorem isDirectory_run (path : Path) (state : σ) :
    isDirectory (m := StateM σ) path state =
      match isDirectory? (m := StateM σ) path state with
      | (.ok answer, state) => (answer, state)
      | (.error _, state) => (false, state) := by
  rw [isDirectory, bind_run]
  rcases isDirectory? (m := StateM σ) path state with ⟨answer, state⟩
  cases answer <;> rfl

theorem exists?_run (path : Path) (state : σ) :
    exists? (m := StateM σ) path state =
      match isDirectory? (m := StateM σ) path state with
      | (.ok _, state) => (true, state)
      | (.error _, state) => (false, state) := by
  rw [exists?, bind_run]
  rcases isDirectory? (m := StateM σ) path state with ⟨answer, state⟩
  cases answer <;> rfl

theorem settle_run (path : Path) (fault : Fault) (state : σ) :
    makeDirectories.settle (m := StateM σ) path fault state =
      (if (isDirectory (m := StateM σ) path state).1 then .ok () else .error fault,
        (isDirectory (m := StateM σ) path state).2) := by
  rw [makeDirectories.settle, bind_run]
  split <;> rfl

/-- Ask for a directory, and settle for one that is there. -/
def provide (path : Path) (state : σ) : Except Fault Unit × σ :=
  match makeDirectory (m := StateM σ) path state with
  | (.ok (), state) => (.ok (), state)
  | (.error fault, state) => makeDirectories.settle (m := StateM σ) path fault state

/-- A directory that has no place to stand comes after those above it. -/
theorem makeDirectories_cons_of_notFound {path : Path} {state after : σ}
    (missing : makeDirectory (m := StateM σ) path state = (.error .notFound, after))
    (above : List Path) :
    makeDirectories (m := StateM σ) (path :: above) state =
      match makeDirectories (m := StateM σ) above after with
      | (.error fault, later) => (.error fault, later)
      | (.ok (), later) => provide path later := by
  rw [makeDirectories, bind_run, missing]
  simp only [bind_run]
  rcases makeDirectories (m := StateM σ) above after with ⟨answer, later⟩
  cases answer with
  | error fault => rfl
  | ok _ =>
      simp only [bind_run, provide]
      rcases makeDirectory (m := StateM σ) path later with ⟨answer, last⟩
      cases answer <;> rfl

theorem makeDirectories_cons_of_ne_notFound {path : Path} {state : σ}
    (standing : (makeDirectory (m := StateM σ) path state).1 ≠ .error .notFound)
    (above : List Path) :
    makeDirectories (m := StateM σ) (path :: above) state = provide path state := by
  rw [makeDirectories, bind_run, provide]
  generalize makeDirectory (m := StateM σ) path state = result at standing ⊢
  rcases result with ⟨answer, after⟩
  cases answer with
  | ok _ => rfl
  | error fault =>
      cases fault with
      | notFound => exact absurd rfl standing
      | _ => rfl

theorem writeFile_run (path : Path) (text : Text) (state : σ) :
    writeFile (m := StateM σ) path text state =
      match makeDirectories (m := StateM σ) path.above state with
      | (.error fault, state) => (.error fault, state)
      | (.ok (), state) => write (m := StateM σ) path text state := by
  rw [writeFile, bind_run]
  rcases makeDirectories (m := StateM σ) path.above state with ⟨answer, state⟩
  cases answer <;> rfl

/-! ## What requests keep -/

/-- A relation between the state before and the state after that making directories keeps. -/
structure Keeps (R : σ → σ → Prop) : Prop where
  refl : ∀ state, R state state
  trans : ∀ {first second third}, R first second → R second third → R first third
  looks : ∀ path state, R state (isDirectory? (m := StateM σ) path state).2
  makes : ∀ path state, R state (makeDirectory (m := StateM σ) path state).2

namespace Keeps

variable {R : σ → σ → Prop}

theorem settle (keeps : Keeps R) (path : Path) (fault : Fault) (state : σ) :
    R state (makeDirectories.settle (m := StateM σ) path fault state).2 := by
  have looked := keeps.looks path state
  rw [settle_run, isDirectory_run]
  generalize isDirectory? (m := StateM σ) path state = result at looked ⊢
  rcases result with ⟨answer, after⟩
  cases answer <;> exact looked

theorem provide (keeps : Keeps R) (path : Path) (state : σ) :
    R state (FileSystem.provide path state).2 := by
  have made := keeps.makes path state
  unfold FileSystem.provide
  generalize makeDirectory (m := StateM σ) path state = result at made ⊢
  rcases result with ⟨answer, after⟩
  cases answer with
  | ok _ => exact made
  | error fault => exact keeps.trans made (keeps.settle path fault after)

theorem makeDirectories (keeps : Keeps R) (paths : List Path) (state : σ) :
    R state (FileSystem.makeDirectories (m := StateM σ) paths state).2 := by
  induction paths generalizing state with
  | nil => exact keeps.refl state
  | cons path above ih =>
      by_cases missing : (makeDirectory (m := StateM σ) path state).1 = .error .notFound
      · rw [makeDirectories_cons_of_notFound (Prod.ext missing rfl)]
        have madeAbove := keeps.trans (keeps.makes path state) (ih _)
        generalize FileSystem.makeDirectories (m := StateM σ) above _ = result at madeAbove ⊢
        rcases result with ⟨answer, later⟩
        cases answer with
        | error fault => exact madeAbove
        | ok _ => exact keeps.trans madeAbove (keeps.provide path later)
      · rw [makeDirectories_cons_of_ne_notFound missing]
        exact keeps.provide path state

theorem writeFile (keeps : Keeps R) {path : Path} {text : Text}
    (writes : ∀ state, R state (write (m := StateM σ) path text state).2) (state : σ) :
    R state (FileSystem.writeFile (m := StateM σ) path text state).2 := by
  have made := keeps.makeDirectories path.above state
  rw [writeFile_run]
  generalize FileSystem.makeDirectories (m := StateM σ) path.above state = result at made ⊢
  rcases result with ⟨answer, after⟩
  cases answer with
  | error fault => exact made
  | ok _ => exact keeps.trans made (writes after)

end Keeps

end FileSystem

end TypedRoutes
