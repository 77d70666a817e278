import TypedRoutes.Disk.FileSystem

namespace TypedRoutes

/-!
# Disks in trouble

A request can fail for reasons that a file tree does not show: a permission is denied, a device is
full or broken.  A removal that fails so may have removed a part of its directory, and a write that
fails so may have written a part of its text.  A faulty disk is a disk that knows which of the
requests to come meet such trouble.  A statement about every faulty disk holds whatever goes wrong,
and with no trouble ahead a faulty disk is a disk.
-/

/-- What a request meets that fails for a reason which the tree does not show. -/
structure Trouble where
  /-- What the machine reports. -/
  words : Text
  /-- What a removal had removed by then, seen from its directory. -/
  removed : List Location := []
  /-- How much of its text a write had written by then, if it had opened the file. -/
  written : Option Nat := none

/-- A disk and, for each request to come, the trouble that it meets.  After the end of the list
there is no more trouble. -/
structure FaultyDisk where
  disk : Disk
  ahead : List (Option Trouble) := []

namespace Disk

/-- The disk after a removal that met trouble. -/
def removePart (disk : Disk) (path : Path) (removed : List Location) : Disk :=
  match disk.find path with
  | .ok (location, .directory _) =>
      (removed.filter (· ≠ [])).foldl (fun disk below => disk.erase (location ++ below)) disk
  | _ => disk

/-- The disk after a write that met trouble. -/
def writePart (disk : Disk) (path : Path) (text : Text) : Option Nat → Disk
  | some written => (disk.attempt (disk.write path (text.take written))).2
  | none => disk

end Disk

namespace FaultyDisk

variable {α : Type}

/-- Make a request of the disk, unless it meets trouble. -/
def request (action : StateM Disk (Except Fault α)) (damage : Trouble → Disk → Disk) :
    StateM FaultyDisk (Except Fault α) := fun faulty =>
  match faulty.ahead with
  | some trouble :: ahead =>
      (.error (.other trouble.words), { disk := damage trouble faulty.disk, ahead })
  | none :: ahead => ((action faulty.disk).1, { disk := (action faulty.disk).2, ahead })
  | [] => ((action faulty.disk).1, { disk := (action faulty.disk).2 })

instance : FileSystem (StateM FaultyDisk) where
  workingDirectory := fun faulty => (faulty.disk.working, faulty)
  isDirectory? path := request (FileSystem.isDirectory? path) fun _ disk => disk
  read path := request (FileSystem.read path) fun _ disk => disk
  write path text :=
    request (FileSystem.write path text) fun trouble disk =>
      disk.writePart path text trouble.written
  makeDirectory path := request (FileSystem.makeDirectory path) fun _ disk => disk
  removeTree path :=
    request (FileSystem.removeTree path) fun trouble disk => disk.removePart path trouble.removed

/-- A request is made of the disk, or it meets trouble. -/
theorem request_cases (action : StateM Disk (Except Fault α)) (damage : Trouble → Disk → Disk)
    (faulty : FaultyDisk) :
    ∃ ahead, request action damage faulty = ((action faulty.disk).1, ⟨(action faulty.disk).2, ahead⟩) ∨
      ∃ trouble, request action damage faulty =
        (.error (.other trouble.words), ⟨damage trouble faulty.disk, ahead⟩) := by
  unfold request
  split
  · exact ⟨_, .inr ⟨_, rfl⟩⟩
  · exact ⟨_, .inl rfl⟩
  · exact ⟨_, .inl rfl⟩

/-! ## Requests that meet no trouble -/

/-- With nothing ahead, a request is one of the disk. -/
theorem request_untroubled (action : StateM Disk (Except Fault α))
    (damage : Trouble → Disk → Disk) (disk : Disk) :
    request action damage ⟨disk, []⟩ = ((action disk).1, ⟨(action disk).2, []⟩) := rfl

/-- An answer other than a report of trouble is the answer of the disk. -/
theorem request_of_ne_other {action : StateM Disk (Except Fault α)}
    {damage : Trouble → Disk → Disk} {faulty : FaultyDisk}
    (healthy : ∀ words, (request action damage faulty).1 ≠ .error (.other words)) :
    action faulty.disk =
      ((request action damage faulty).1, (request action damage faulty).2.disk) := by
  unfold request at healthy ⊢
  split at healthy
  · exact absurd rfl (healthy _)
  · rfl
  · rfl

/-- The next request meets no trouble. -/
def Clear (faulty : FaultyDisk) : Prop := ∀ trouble, faulty.ahead.head? ≠ some (some trouble)

theorem clear_of_nil (disk : Disk) : Clear ⟨disk, []⟩ := by simp [Clear]

theorem request_of_clear {faulty : FaultyDisk} (clear : faulty.Clear)
    (action : StateM Disk (Except Fault α)) (damage : Trouble → Disk → Disk) :
    request action damage faulty =
      ((action faulty.disk).1, ⟨(action faulty.disk).2, faulty.ahead.tail⟩) := by
  rcases faulty with ⟨disk, ahead⟩
  cases ahead with
  | nil => rfl
  | cons next ahead =>
      cases next with
      | none => rfl
      | some trouble => exact absurd rfl (clear trouble)

/-- A relation between disks that a request and its damage keep. -/
theorem request_keeps {R : Disk → Disk → Prop} {action : StateM Disk (Except Fault α)}
    {damage : Trouble → Disk → Disk} (acts : ∀ disk, R disk (action disk).2)
    (damages : ∀ trouble disk, R disk (damage trouble disk)) (faulty : FaultyDisk) :
    R faulty.disk (request action damage faulty).2.disk := by
  unfold request
  split
  · exact damages _ _
  · exact acts _
  · exact acts _

end FaultyDisk
end TypedRoutes
