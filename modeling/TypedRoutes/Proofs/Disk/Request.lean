import TypedRoutes.Proofs.Disk.Walk

namespace TypedRoutes

/-!
# Requests

What each request to a disk needs and what the disk shows after it.  Every request touches the
location of its path and nothing else, whatever the way there looks like.
-/

namespace Disk

open TypedRoutes.Path (names)

variable {disk changed : Disk} {path : Path} {location : Location}

/-! ## Changes of the tree -/

/-- The directory in which a location stands. -/
def HasParent (disk : Disk) (location : Location) : Prop := disk.root.HasParent location

theorem hasParent_append_name {parent : Location} {name : Text}
    (directory : disk.entryAt? parent = some .directory) : disk.HasParent (parent ++ [name]) :=
  fun _ => by rw [List.dropLast_concat]; exact directory

/-- A location that shows something stands in a directory. -/
theorem hasParent_of_entryAt? (shown : disk.entryAt? location ≠ none) : disk.HasParent location := by
  intro nonempty
  refine Node.entryAt?_of_append_ne_none (List.cons_ne_nil (location.getLast nonempty) []) ?_
  rw [List.dropLast_concat_getLast]
  exact shown

theorem entryAt?_put (hasParent : disk.HasParent location) (node : Node) (other : Location) :
    (disk.put location node).entryAt? other =
      if location <+: other then node.entryAt? (other.drop location.length)
      else disk.entryAt? other :=
  Node.entryAt?_put hasParent node other

theorem entryAt?_erase (disk : Disk) (nonempty : location ≠ []) (other : Location) :
    (disk.erase location).entryAt? other =
      if location <+: other then none else disk.entryAt? other :=
  Node.entryAt?_erase disk.root nonempty other

/-- A node without entries, put where there is no directory, changes what its own location shows
and no other. -/
theorem entryAt?_put_leaf (hasParent : disk.HasParent location)
    (noDirectory : disk.entryAt? location ≠ some .directory) {node : Node}
    (leaf : ∀ below ≠ [], node.entryAt? below = none) (other : Location) :
    (disk.put location node).entryAt? other =
      if other = location then some node.entry else disk.entryAt? other := by
  rw [entryAt?_put hasParent]
  by_cases isBelow : location <+: other
  · rcases isBelow with ⟨below, rfl⟩
    by_cases same : below = []
    · simp [same]
    · rw [if_pos (List.prefix_append _ _), List.drop_left, leaf below same, if_neg (by simpa using same)]
      by_contra shown
      exact noDirectory (entryAt?_of_append_ne_none same (Ne.symm shown))
  · have different : other ≠ location := fun same => isBelow (same ▸ List.prefix_rfl)
    rw [if_neg isBelow, if_neg different]

theorem entryAt?_file_below (text : Text) (below : Location) (nonempty : below ≠ []) :
    (Node.file text).entryAt? below = none := by
  rcases List.exists_cons_of_ne_nil nonempty with ⟨name, rest, rfl⟩
  exact Node.entryAt?_file_cons text name rest

theorem entryAt?_emptyDirectory_below (below : Location) (nonempty : below ≠ []) :
    Node.emptyDirectory.entryAt? below = none := by
  rcases List.exists_cons_of_ne_nil nonempty with ⟨name, rest, rfl⟩
  exact Node.entryAt?_directory_cons [] name rest

/-! ## Locating -/

theorem locate_eq_ok_iff :
    disk.locate path = .ok location ↔
      '\x00' ∉ path.text ∧ path.text ≠ [] ∧ Text.utf8Length path.text ≤ pathLimit ∧
        disk.walk (path.start disk.working) path.steps = .ok location := by
  unfold locate
  change (if _ then _ else if _ then _ else if _ then _ else
    disk.walk (path.start disk.working) path.steps) = _ ↔ _
  by_cases nul : '\x00' ∈ path.text
  · simp [nul]
  · by_cases empty : path.text = []
    · simp [empty]
    · by_cases long : pathLimit < Text.utf8Length path.text
      · simp [nul, empty, long, Nat.not_le.2 long]
      · simp [nul, empty, long, Nat.not_lt.1 long]

/-- A request along a path gets to the location of the path or nowhere. -/
theorem eq_location_of_locate (located : disk.locate path = .ok location) :
    location = path.location disk.working :=
  eq_foldl_of_walk (locate_eq_ok_iff.1 located).2.2.2

theorem hasParent_of_locate {before : List Path.Step} {name : Text}
    (shape : path.steps = before ++ [.name name]) (located : disk.locate path = .ok location) :
    disk.HasParent location := by
  have walked := (locate_eq_ok_iff.1 located).2.2.2
  rw [shape] at walked
  rcases walk_concat_name_eq_ok_iff.1 walked with ⟨parent, -, directory, -, rfl⟩
  exact hasParent_append_name directory

theorem fits_of_locate (located : disk.locate path = .ok location) : path.Fits := by
  rcases locate_eq_ok_iff.1 located with ⟨nulFree, -, short, walked⟩
  exact ⟨nulFree, short, short_of_walk walked⟩

/-! ## Finding -/

theorem find_eq_ok_directory_iff :
    (∃ entries, disk.find path = .ok (location, .directory entries)) ↔
      disk.locate path = .ok location ∧ disk.entryAt? location = some .directory := by
  unfold find
  rw [entryAt?, Node.entryAt?_eq_directory_iff]
  change _ ↔ _ ∧ ∃ entries, disk.at? location = some (.directory entries)
  cases located : disk.locate path with
  | error fault => simp
  | ok reached =>
      cases found : disk.at? reached with
      | none =>
          simp only [found, reduceCtorEq, exists_false, Except.ok.injEq, false_iff, not_and]
          rintro rfl
          simp [found]
      | some node =>
          cases node with
          | file text =>
              cases path.endsInSlash <;>
                simp only [found, Except.ok.injEq, reduceCtorEq, exists_false, Prod.mk.injEq,
                  false_iff, not_and, and_false, if_true, if_false, Bool.false_eq_true] <;>
                rintro rfl <;> simp [found]
          | directory entries =>
              simp only [found, Except.ok.injEq, Prod.mk.injEq, Node.directory.injEq]
              constructor
              · rintro ⟨_, rfl, rfl⟩
                exact ⟨rfl, entries, found⟩
              · rintro ⟨rfl, others, same⟩
                rw [found] at same
                exact ⟨others, rfl, by simpa using same⟩

/-! ## Making a directory -/

theorem makeDirectory_eq_ok (made : disk.makeDirectory path = .ok changed) :
    ∃ before name, path.steps = before ++ [.name name] ∧ ∃ location,
      disk.locate path = .ok location ∧ disk.entryAt? location = none ∧
        changed = disk.put location .emptyDirectory := by
  unfold makeDirectory at made
  cases located : disk.locate path with
  | error fault => simp [located] at made
  | ok location =>
      cases last : path.steps.getLast? with
      | none => simp [located, last] at made
      | some step =>
          cases found : disk.at? location with
          | some node => cases step <;> simp [located, last, found] at made
          | none =>
              cases step with
              | here => simp [located, last, found] at made
              | up => simp [located, last, found] at made
              | name name =>
                  rcases List.getLast?_eq_some_iff.1 last with ⟨before, shape⟩
                  simp only [located, last, found, Except.ok.injEq] at made
                  have missing : disk.entryAt? location = none := Option.map_eq_none_iff.2 found
                  exact ⟨before, name, shape, location, rfl, missing, made.symm⟩

/-- A new directory shows at its location and changes nothing else. -/
theorem entryAt?_of_makeDirectory (made : disk.makeDirectory path = .ok changed)
    (other : Location) :
    changed.entryAt? other =
      if other = path.location disk.working then some .directory else disk.entryAt? other := by
  rcases makeDirectory_eq_ok made with ⟨before, name, shape, location, located, missing, rfl⟩
  rw [← eq_location_of_locate located]
  exact entryAt?_put_leaf (hasParent_of_locate shape located) (by simp [missing])
    entryAt?_emptyDirectory_below other

theorem working_of_makeDirectory (made : disk.makeDirectory path = .ok changed) :
    changed.working = disk.working := by
  rcases makeDirectory_eq_ok made with ⟨_, _, _, _, _, _, rfl⟩
  rfl

theorem makeDirectory_of_none {before : List Path.Step} {name : Text}
    (shape : path.steps = before ++ [.name name]) (located : disk.locate path = .ok location)
    (missing : disk.entryAt? location = none) :
    disk.makeDirectory path = .ok (disk.put location .emptyDirectory) := by
  have found : disk.at? location = none := Option.map_eq_none_iff.1 missing
  have last : path.steps.getLast? = some (.name name) := by rw [shape, List.getLast?_concat]
  simp only [makeDirectory, located, last, found]

theorem makeDirectory_of_directory (located : disk.locate path = .ok location)
    (directory : disk.entryAt? location = some .directory) :
    disk.makeDirectory path = .error .alreadyExists := by
  rcases Node.entryAt?_eq_directory_iff.1 directory with ⟨entries, found⟩
  change disk.at? location = _ at found
  simp only [makeDirectory, located, found]
  cases path.steps.getLast? with
  | none => rfl
  | some step => cases step <;> rfl

theorem makeDirectory_of_locate_error {fault : Fault} (failed : disk.locate path = .error fault) :
    disk.makeDirectory path = .error fault := by
  simp only [makeDirectory, failed]

/-! ## Writing -/

theorem write_eq_ok {text : Text} (written : disk.write path text = .ok changed) :
    ∃ before name, path.steps = before ++ [.name name] ∧ ∃ location,
      disk.locate path = .ok location ∧ disk.entryAt? location ≠ some .directory ∧
        changed = disk.put location (.file text) := by
  unfold write at written
  cases located : disk.locate path with
  | error fault => simp [located] at written
  | ok location =>
      cases last : path.steps.getLast? with
      | none => simp [located, last] at written
      | some step =>
          cases step with
          | here => simp [located, last] at written
          | up => simp [located, last] at written
          | name name =>
              rcases List.getLast?_eq_some_iff.1 last with ⟨before, shape⟩
              refine ⟨before, name, shape, location, rfl, ?_⟩
              rw [entryAt?, Ne, Node.entryAt?_eq_directory_iff]
              change (¬ ∃ entries, disk.at? location = some (.directory entries)) ∧ _
              cases slash : path.endsInSlash with
              | true =>
                  cases found : disk.at? location with
                  | none => simp [located, last, found, slash] at written
                  | some node => cases node <;> simp [located, last, found, slash] at written
              | false =>
                  cases found : disk.at? location with
                  | none => simpa [located, last, found, slash, eq_comm] using written
                  | some node =>
                      cases node with
                      | file old => simpa [located, last, found, slash, eq_comm] using written
                      | directory entries => simp [located, last, found] at written

/-- A written file shows at its location and changes nothing else. -/
theorem entryAt?_of_write {text : Text} (written : disk.write path text = .ok changed)
    (other : Location) :
    changed.entryAt? other =
      if other = path.location disk.working then some (.file text) else disk.entryAt? other := by
  rcases write_eq_ok written with ⟨before, name, shape, location, located, noDirectory, rfl⟩
  rw [← eq_location_of_locate located]
  exact entryAt?_put_leaf (hasParent_of_locate shape located) noDirectory
    (entryAt?_file_below text) other

theorem working_of_write {text : Text} (written : disk.write path text = .ok changed) :
    changed.working = disk.working := by
  rcases write_eq_ok written with ⟨_, _, _, _, _, _, rfl⟩
  rfl

theorem write_of_no_directory {before : List Path.Step} {name : Text} (text : Text)
    (shape : path.steps = before ++ [.name name]) (noSlash : path.endsInSlash = false)
    (located : disk.locate path = .ok location)
    (noDirectory : disk.entryAt? location ≠ some .directory) :
    disk.write path text = .ok (disk.put location (.file text)) := by
  have last : path.steps.getLast? = some (.name name) := by rw [shape, List.getLast?_concat]
  rw [entryAt?, Ne, Node.entryAt?_eq_directory_iff] at noDirectory
  change ¬ ∃ entries, disk.at? location = some (.directory entries) at noDirectory
  cases found : disk.at? location with
  | none => simp [write, located, last, found, noSlash]
  | some node =>
      cases node with
      | file old => simp [write, located, last, found, noSlash]
      | directory entries => exact absurd ⟨entries, found⟩ noDirectory

/-! ## Removing -/

theorem removeDirectory_eq_ok (removed : disk.removeDirectory path = .ok changed) :
    ∃ location, disk.locate path = .ok location ∧ changed = disk.erase location := by
  unfold removeDirectory at removed
  cases located : disk.locate path with
  | error fault => simp [located] at removed
  | ok location =>
      refine ⟨location, rfl, ?_⟩
      cases last : path.steps.getLast? with
      | none => simp [located, last] at removed
      | some step =>
          cases step with
          | here => simp [located, last] at removed
          | up => simp [located, last] at removed
          | name name =>
              cases found : disk.at? location with
              | none => simp [located, last, found] at removed
              | some node =>
                  cases node with
                  | file text => simp [located, last, found] at removed
                  | directory entries =>
                      cases entries with
                      | nil => simpa [located, last, found, eq_comm] using removed
                      | cons entry entries => simp [located, last, found] at removed

/-- Removing a directory, done or given up, touches nothing outside of it. -/
theorem removeTree_outside (disk : Disk) (path : Path) :
    (disk.removeTree path).2.working = disk.working ∧
      ∀ other, ¬ path.location disk.working <+: other →
        (disk.removeTree path).2.entryAt? other = disk.entryAt? other := by
  unfold removeTree
  cases found : disk.find path with
  | error fault => exact ⟨rfl, fun _ _ => rfl⟩
  | ok result =>
      rcases result with ⟨location, node⟩
      cases node with
      | file text => exact ⟨rfl, fun _ _ => rfl⟩
      | directory entries =>
          rcases find_eq_ok_directory_iff.1 ⟨entries, found⟩ with ⟨located, directory⟩
          have isLocation := eq_location_of_locate located
          have emptied : ∀ other, ¬ location <+: other →
              (disk.put location .emptyDirectory).entryAt? other = disk.entryAt? other := by
            intro other outside
            rw [entryAt?_put (hasParent_of_entryAt? (by simp [directory])), if_neg outside]
          simp only
          cases removal : (disk.put location .emptyDirectory).removeDirectory path with
          | ok removed =>
              rcases removeDirectory_eq_ok removal with ⟨reached, relocated, rfl⟩
              have same : reached = location := (eq_location_of_locate relocated).trans isLocation.symm
              constructor
              · rfl
              · intro other outside
                rw [← isLocation] at outside
                have nonempty : reached ≠ [] := by
                  rintro rfl
                  exact outside (same ▸ List.nil_prefix)
                rw [entryAt?_erase _ nonempty, same, if_neg outside, emptied other outside]
          | error fault =>
              cases fault <;> exact ⟨rfl, fun other outside => emptied other (isLocation ▸ outside)⟩

/-- A directory goes as a whole where the path still leads to it once its entries are gone. -/
theorem removeTree_of_located {before : List Path.Step} {name : Text}
    (shape : path.steps = before ++ [.name name]) (located : disk.locate path = .ok location)
    (directory : disk.entryAt? location = some .directory)
    (again : (disk.put location .emptyDirectory).locate path = .ok location) :
    disk.removeTree path = (.ok (), (disk.put location .emptyDirectory).erase location) := by
  have found : (disk.put location .emptyDirectory).at? location = some .emptyDirectory :=
    Node.at?_put_self (hasParent_of_locate shape located) _
  have last : path.steps.getLast? = some (.name name) := by rw [shape, List.getLast?_concat]
  have removal : (disk.put location .emptyDirectory).removeDirectory path =
      .ok ((disk.put location .emptyDirectory).erase location) := by
    simp only [removeDirectory, again, last, found]
  rcases find_eq_ok_directory_iff.2 ⟨located, directory⟩ with ⟨entries, foundDirectory⟩
  simp only [removeTree, foundDirectory, removal]

/-- Emptied and erased, a directory leaves nothing behind. -/
theorem entryAt?_erase_put (nonempty : location ≠ []) (hasParent : disk.HasParent location)
    (other : Location) :
    ((disk.put location .emptyDirectory).erase location).entryAt? other
      = if location <+: other then none else disk.entryAt? other := by
  rw [entryAt?_erase _ nonempty, entryAt?_put hasParent]
  split <;> rfl

/-- A path that never goes up and leads to nothing names a location that shows nothing. -/
theorem entryAt?_of_find_notFound (straight : .up ∉ path.steps) (nonempty : path.text ≠ [])
    (failed : disk.find path = .error .notFound) :
    disk.entryAt? (path.location disk.working) = none := by
  unfold find at failed
  cases located : disk.locate path with
  | ok location =>
      cases found : disk.at? location with
      | none => exact eq_location_of_locate located ▸ Option.map_eq_none_iff.2 found
      | some node => cases node <;> cases slash : path.endsInSlash <;> simp_all
  | error fault =>
      have missing : disk.walk (path.start disk.working) path.steps = .error .notFound := by
        have same : fault = .notFound := by simpa [located] using failed
        rw [same] at located
        simp only [locate, if_neg nonempty] at located
        split at located
        · cases located
        · split at located
          · cases located
          · exact located
      rcases exists_missing_of_walk straight missing with ⟨way, ⟨rest, eq⟩, shown⟩
      rw [Path.location_eq_start_append straight, ← eq, ← List.append_assoc]
      exact entryAt?_append_of_none shown rest

/-- A path that does not lead to a directory: nothing is removed. -/
theorem removeTree_of_no_directory (straight : .up ∉ path.steps) (nonempty : path.text ≠ [])
    (noDirectory : ∀ location, disk.locate path = .ok location →
      disk.entryAt? location ≠ some .directory) :
    ∃ fault, disk.removeTree path = (.error fault, disk) ∧
      (fault = .notFound → disk.entryAt? (path.location disk.working) = none) := by
  cases found : disk.find path with
  | error fault =>
      refine ⟨fault, by simp only [removeTree, found], ?_⟩
      rintro rfl
      exact entryAt?_of_find_notFound straight nonempty found
  | ok result =>
      rcases result with ⟨location, node⟩
      cases node with
      | file text => exact ⟨.notDirectory, by simp only [removeTree, found], by simp⟩
      | directory entries =>
          rcases find_eq_ok_directory_iff.1 ⟨entries, found⟩ with ⟨located, directory⟩
          exact absurd directory (noDirectory location located)

end Disk
end TypedRoutes
