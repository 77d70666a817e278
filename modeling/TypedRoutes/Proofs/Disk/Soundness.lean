import TypedRoutes.Proofs.Disk.Directories

namespace TypedRoutes

/-!
# Programs in trouble

A program that succeeds on a disk in trouble has met none that mattered: on the disk alone it gives
the same answer and leaves the same tree.  And where no trouble lies ahead, a program on a faulty
disk is the program on the disk.
-/

namespace FaultyDisk

open FileSystem

variable {ε α β : Type}

/-! ## Success in trouble -/

/-- A success on a faulty disk is one that the disk would have had without trouble. -/
def Sound (troubled : StateM FaultyDisk (Except ε α)) (healthy : StateM Disk (Except ε α)) : Prop :=
  ∀ faulty value, (troubled faulty).1 = .ok value →
    healthy faulty.disk = (.ok value, (troubled faulty).2.disk)

theorem sound_request (action : StateM Disk (Except Fault α)) (damage : Trouble → Disk → Disk) :
    Sound (request action damage) action := by
  intro faulty value succeeded
  have healthy : ∀ words, (request action damage faulty).1 ≠ .error (.other words) := by
    simp [succeeded]
  rw [request_of_ne_other healthy, succeeded]

theorem sound_isDirectory? (path : Path) :
    Sound (isDirectory? (m := StateM FaultyDisk) path) (isDirectory? (m := StateM Disk) path) :=
  sound_request _ _

theorem sound_makeDirectory (path : Path) :
    Sound (FileSystem.makeDirectory (m := StateM FaultyDisk) path)
      (FileSystem.makeDirectory (m := StateM Disk) path) :=
  sound_request _ _

theorem sound_write (path : Path) (text : Text) :
    Sound (FileSystem.write (m := StateM FaultyDisk) path text)
      (FileSystem.write (m := StateM Disk) path text) :=
  sound_request _ _

theorem disk_of_makeDirectory_error {path : Path} {faulty : FaultyDisk} {fault : Fault}
    (failed : (FileSystem.makeDirectory (m := StateM FaultyDisk) path faulty).1 = .error fault) :
    (FileSystem.makeDirectory (m := StateM FaultyDisk) path faulty).2.disk = faulty.disk := by
  change (request (FileSystem.makeDirectory path) _ faulty).1 = _ at failed
  change (request (FileSystem.makeDirectory path) _ faulty).2.disk = _
  unfold request at failed ⊢
  split at failed
  · rfl
  all_goals
    simp only [Disk.makeDirectory_run, Disk.attempt] at failed ⊢
    split at failed
    · cases failed
    · rfl

theorem locate_of_makeDirectory_notFound {path : Path} {faulty : FaultyDisk}
    (failed : (FileSystem.makeDirectory (m := StateM FaultyDisk) path faulty).1 =
      .error .notFound) :
    faulty.disk.locate path = .error .notFound := by
  change (request (FileSystem.makeDirectory path) (fun _ disk => disk) faulty).1 = _ at failed
  have noTrouble : ∀ words, (request (FileSystem.makeDirectory path) (fun _ disk => disk) faulty).1 ≠
      .error (.other words) := by simp [failed]
  have healthy := request_of_ne_other noTrouble
  rw [failed, Disk.makeDirectory_run] at healthy
  apply Disk.makeDirectory_eq_notFound
  cases eq : faulty.disk.makeDirectory path with
  | ok changed =>
      rw [eq] at healthy
      cases healthy
  | error fault =>
      rw [eq] at healthy
      exact congrArg Except.error (Except.error.inj (Prod.mk.inj healthy).1)

/-- Where a program finds a directory in spite of trouble, there is one. -/
theorem directory_of_isDirectory {path : Path} {faulty : FaultyDisk}
    (answer : (isDirectory (m := StateM FaultyDisk) path faulty).1 = true) :
    (isDirectory (m := StateM FaultyDisk) path faulty).2.disk = faulty.disk ∧
      ∃ location, faulty.disk.locate path = .ok location ∧
        faulty.disk.entryAt? location = some .directory := by
  rw [isDirectory_run] at answer ⊢
  have sound := sound_isDirectory? path faulty
  generalize isDirectory? (m := StateM FaultyDisk) path faulty = result at answer sound ⊢
  rcases result with ⟨found, after⟩
  cases found with
  | error fault => cases answer
  | ok value =>
      have looked := sound value rfl
      have same : faulty.disk = after.disk := (Prod.mk.inj looked).2
      rcases Disk.isDirectory_run path faulty.disk with ⟨healthyAnswer, run, isTrue⟩
      rw [isDirectory_run, looked] at run
      have agrees : healthyAnswer = true := (Prod.mk.inj run).1 ▸ answer
      exact ⟨same.symm, isTrue.1 agrees⟩

theorem provided_of_provide {path : Path} {faulty after : FaultyDisk}
    (provided : provide path faulty = (.ok (), after)) :
    Disk.Provided path faulty.disk after.disk := by
  unfold provide at provided
  have sound := sound_makeDirectory path faulty
  have unchanged := @disk_of_makeDirectory_error path faulty
  generalize FileSystem.makeDirectory (m := StateM FaultyDisk) path faulty = result
    at provided sound unchanged
  rcases result with ⟨answer, middle⟩
  cases answer with
  | ok _ =>
      have made := sound () rfl
      have same : middle = after := (Prod.mk.inj provided).2
      rw [Disk.makeDirectory_run] at made
      left
      cases eq : faulty.disk.makeDirectory path with
      | ok changed =>
          rw [eq] at made
          rw [← same, ← (Prod.mk.inj made).2]
      | error fault =>
          rw [eq] at made
          cases made
  | error fault =>
      right
      simp only [settle_run] at provided
      have answer : (isDirectory (m := StateM FaultyDisk) path middle).1 = true := by
        by_contra negative
        rw [if_neg negative] at provided
        cases provided
      rcases directory_of_isDirectory answer with ⟨same, location, located, directory⟩
      rw [(Prod.mk.inj provided).2] at same
      rw [unchanged rfl] at same located directory
      exact ⟨same, location, located, directory⟩

theorem sound_makeDirectories (paths : List Path) :
    Sound (makeDirectories (m := StateM FaultyDisk) paths)
      (makeDirectories (m := StateM Disk) paths) := by
  induction paths with
  | nil => exact fun _ _ _ => rfl
  | cons path above ih =>
      intro faulty value succeeded
      by_cases missing :
          (FileSystem.makeDirectory (m := StateM FaultyDisk) path faulty).1 = .error .notFound
      · have unchanged := disk_of_makeDirectory_error missing
        rw [makeDirectories_cons_of_notFound (Prod.ext missing rfl)] at succeeded ⊢
        have madeAbove := ih (FileSystem.makeDirectory (m := StateM FaultyDisk) path faulty).2
        rw [unchanged] at madeAbove
        generalize makeDirectories (m := StateM FaultyDisk) above _ = result at succeeded madeAbove ⊢
        rcases result with ⟨answer, middle⟩
        cases answer with
        | error fault => cases succeeded
        | ok _ =>
            have provided := provided_of_provide (Prod.ext succeeded rfl)
            exact Disk.makeDirectories_cons_eq_ok_iff.2
              (.inr ⟨locate_of_makeDirectory_notFound missing, middle.disk, madeAbove () rfl, provided⟩)
      · rw [makeDirectories_cons_of_ne_notFound missing] at succeeded ⊢
        have provided := provided_of_provide (Prod.ext succeeded rfl)
        exact Disk.makeDirectories_cons_eq_ok_iff.2 (.inl provided)

theorem sound_writeFile (path : Path) (text : Text) :
    Sound (writeFile (m := StateM FaultyDisk) path text)
      (writeFile (m := StateM Disk) path text) := by
  intro faulty value succeeded
  have made := sound_makeDirectories path.above faulty
  rw [writeFile_run] at succeeded ⊢
  rw [writeFile_run]
  generalize makeDirectories (m := StateM FaultyDisk) path.above faulty = result
    at succeeded made ⊢
  rcases result with ⟨answer, middle⟩
  cases answer with
  | error fault => cases succeeded
  | ok _ =>
      rw [made () rfl]
      exact sound_write path text middle value succeeded

/-! ## No trouble -/

/-- With no trouble ahead, a program on a faulty disk is the program on the disk. -/
def Untroubled (troubled : StateM FaultyDisk α) (healthy : StateM Disk α) : Prop :=
  ∀ disk, troubled ⟨disk, []⟩ = ((healthy disk).1, ⟨(healthy disk).2, []⟩)

theorem untroubled_pure (value : α) :
    Untroubled (pure value : StateM FaultyDisk α) (pure value : StateM Disk α) := fun _ => rfl

theorem Untroubled.bind {troubled : StateM FaultyDisk α} {healthy : StateM Disk α}
    {next : α → StateM FaultyDisk β} {healthyNext : α → StateM Disk β}
    (first : Untroubled troubled healthy)
    (follows : ∀ value, Untroubled (next value) (healthyNext value)) :
    Untroubled (troubled >>= next) (healthy >>= healthyNext) := by
  intro disk
  rw [bind_run, bind_run, first disk]
  exact follows _ _

theorem untroubled_isDirectory (path : Path) :
    Untroubled (isDirectory (m := StateM FaultyDisk) path)
      (isDirectory (m := StateM Disk) path) := by
  apply Untroubled.bind (request_untroubled _ _)
  intro answer
  cases answer with
  | ok value => exact untroubled_pure value
  | error fault => exact untroubled_pure false

theorem untroubled_exists? (path : Path) :
    Untroubled (exists? (m := StateM FaultyDisk) path) (exists? (m := StateM Disk) path) := by
  apply Untroubled.bind (request_untroubled _ _)
  intro answer
  cases answer with
  | ok _ => exact untroubled_pure true
  | error _ => exact untroubled_pure false

theorem untroubled_settle (path : Path) (fault : Fault) :
    Untroubled (makeDirectories.settle (m := StateM FaultyDisk) path fault)
      (makeDirectories.settle (m := StateM Disk) path fault) := by
  apply (untroubled_isDirectory path).bind
  intro there
  cases there with
  | true => exact untroubled_pure _
  | false => exact untroubled_pure _

theorem untroubled_makeDirectories (paths : List Path) :
    Untroubled (makeDirectories (m := StateM FaultyDisk) paths)
      (makeDirectories (m := StateM Disk) paths) := by
  induction paths with
  | nil => exact untroubled_pure _
  | cons path above ih =>
      apply Untroubled.bind (request_untroubled _ _)
      intro answer
      cases answer with
      | ok _ => exact untroubled_pure _
      | error fault =>
          cases fault with
          | notFound =>
              apply ih.bind
              intro answer
              cases answer with
              | error fault => exact untroubled_pure _
              | ok _ =>
                  apply Untroubled.bind (request_untroubled _ _)
                  intro answer
                  cases answer with
                  | ok _ => exact untroubled_pure _
                  | error fault => exact untroubled_settle path fault
          | _ => exact untroubled_settle path _

theorem untroubled_writeFile (path : Path) (text : Text) :
    Untroubled (writeFile (m := StateM FaultyDisk) path text)
      (writeFile (m := StateM Disk) path text) := by
  apply (untroubled_makeDirectories path.above).bind
  intro answer
  cases answer with
  | error fault => exact untroubled_pure _
  | ok _ => exact request_untroubled _ _

end FaultyDisk
end TypedRoutes
