import TypedRoutes.Disk.Basic

namespace TypedRoutes

/-!
# What a file system shows

Two trees that differ in the order of entries, or in entries that others hide, are the same file
system.  What counts is what each location shows: a file with its text, a directory, or nothing.
The two changes of a tree are described through that view alone, each by one equation: putting a
node replaces what is at a location and below it, erasing removes it, and the rest stays.
-/

/-- What a location of a file system shows. -/
inductive Entry where
  | directory
  | file (text : Text)
deriving DecidableEq, Repr

namespace Entry

/-- The text of a file. -/
def text? : Entry → Option Text
  | .file text => some text
  | .directory => none

end Entry

namespace Node

/-- What a node is, without what is in it. -/
def entry : Node → Entry
  | .file text => .file text
  | .directory _ => .directory

/-- What a location below a node shows. -/
def entryAt? (node : Node) (location : Location) : Option Entry := (node.at? location).map entry

/-! ## Lookup along a location -/

@[simp] theorem at?_nil (node : Node) : node.at? [] = some node := by simp [at?]

@[simp] theorem at?_file_cons (text name : Text) (rest : Location) :
    (file text).at? (name :: rest) = none := by simp [at?]

theorem at?_directory_cons (entries : List (Text × Node)) (name : Text) (rest : Location) :
    (directory entries).at? (name :: rest) = (entries.lookup name).bind (·.at? rest) := by
  rw [at?]
  cases entries.lookup name <;> rfl

theorem at?_append (node : Node) (first second : Location) :
    node.at? (first ++ second) = (node.at? first).bind (·.at? second) := by
  induction first generalizing node with
  | nil => simp
  | cons name first ih =>
      cases node with
      | file text => simp
      | directory entries =>
          rw [List.cons_append, at?_directory_cons, at?_directory_cons]
          cases entries.lookup name with
          | none => rfl
          | some child => exact ih child

@[simp] theorem entryAt?_nil (node : Node) : node.entryAt? [] = some node.entry := by
  simp [entryAt?]

@[simp] theorem entryAt?_file_cons (text name : Text) (rest : Location) :
    (file text).entryAt? (name :: rest) = none := by simp [entryAt?]

theorem entryAt?_directory_cons (entries : List (Text × Node)) (name : Text) (rest : Location) :
    (directory entries).entryAt? (name :: rest) =
      (entries.lookup name).bind (·.entryAt? rest) := by
  rw [entryAt?, at?_directory_cons]
  cases entries.lookup name <;> rfl

theorem entryAt?_append (node : Node) (first second : Location) :
    node.entryAt? (first ++ second) = (node.at? first).bind (·.entryAt? second) := by
  rw [entryAt?, at?_append]
  cases node.at? first <;> rfl

/-- A location that shows a directory has one. -/
theorem entryAt?_eq_directory_iff {node : Node} {location : Location} :
    node.entryAt? location = some .directory ↔
      ∃ entries, node.at? location = some (.directory entries) := by
  unfold entryAt?
  cases node.at? location with
  | none => simp
  | some found => cases found <;> simp [entry]

/-- Every location above one that shows something shows a directory. -/
theorem entryAt?_of_append_ne_none {node : Node} {above below : Location} (nonempty : below ≠ [])
    (shown : node.entryAt? (above ++ below) ≠ none) : node.entryAt? above = some .directory := by
  rw [entryAt?_append] at shown
  rcases List.exists_cons_of_ne_nil nonempty with ⟨name, rest, rfl⟩
  unfold entryAt?
  cases found : node.at? above with
  | none => simp [found] at shown
  | some inner =>
      cases inner with
      | file text => simp [found] at shown
      | directory entries => rfl

/-! ## Entries of one directory -/

theorem lookup_cons_eq_if (key other : Text) (node : Node) (rest : List (Text × Node)) :
    List.lookup other ((key, node) :: rest) =
      if other = key then some node else rest.lookup other := by
  by_cases same : other = key
  · simp [same]
  · simp [List.lookup_cons, same, beq_eq_false_iff_ne.2 same]

@[simp] theorem lookup_filter_ne (entries : List (Text × Node)) (name other : Text) :
    (entries.filter (·.1 ≠ name)).lookup other =
      if other = name then none else entries.lookup other := by
  induction entries with
  | nil => simp
  | cons first rest ih =>
      rcases first with ⟨key, node⟩
      by_cases same : key = name
      · subst same
        rw [List.filter_cons_of_neg (by simp), ih, lookup_cons_eq_if]
        by_cases equal : other = key <;> simp [equal]
      · rw [List.filter_cons_of_pos (by simpa using same), lookup_cons_eq_if, lookup_cons_eq_if, ih]
        by_cases equal : other = key
        · subst equal
          rw [if_pos rfl, if_neg same, if_pos rfl]
        · rw [if_neg equal, if_neg equal]

@[simp] theorem lookup_setEntry (entries : List (Text × Node)) (name other : Text) (node : Node) :
    (setEntry entries name node).lookup other =
      if other = name then some node else entries.lookup other := by
  induction entries with
  | nil => rw [setEntry, lookup_cons_eq_if]
  | cons first rest ih =>
      rcases first with ⟨key, old⟩
      by_cases same : key = name
      · subst same
        rw [setEntry, if_pos rfl, lookup_cons_eq_if, lookup_cons_eq_if, lookup_filter_ne]
        by_cases equal : other = key <;> simp [equal]
      · rw [setEntry, if_neg same, lookup_cons_eq_if, lookup_cons_eq_if, ih]
        by_cases equal : other = key
        · subst equal
          rw [if_pos rfl, if_neg same, if_pos rfl]
        · rw [if_neg equal, if_neg equal]

/-! ## Changes -/

/-- The tree has a directory in which a location can stand. -/
def HasParent (node : Node) (location : Location) : Prop :=
  location ≠ [] → node.entryAt? location.dropLast = some .directory

theorem HasParent.child {entries : List (Text × Node)} {name : Text} {rest : Location}
    (hasParent : (directory entries).HasParent (name :: rest)) (nonempty : rest ≠ []) :
    ∃ child, entries.lookup name = some child ∧ child.HasParent rest := by
  have parent := hasParent (List.cons_ne_nil name rest)
  rw [List.dropLast_cons_of_ne_nil nonempty, entryAt?_directory_cons] at parent
  cases found : entries.lookup name with
  | none => simp [found] at parent
  | some child => exact ⟨child, rfl, fun _ => by simpa [found] using parent⟩

theorem at?_put_self {node : Node} {location : Location} (hasParent : node.HasParent location)
    (new : Node) : (node.put location new).at? location = some new := by
  induction location generalizing node with
  | nil => simp [put]
  | cons name rest ih =>
      cases node with
      | file text =>
          have parent := hasParent (List.cons_ne_nil name rest)
          cases dropped : (name :: rest).dropLast <;> simp [dropped, entry] at parent
      | directory entries =>
          by_cases last : rest = []
          · subst last
            cases found : entries.lookup name <;>
              simp [put, found, at?_directory_cons]
          · rcases hasParent.child last with ⟨child, found, childParent⟩
            simp [put, found, at?_directory_cons, ih childParent]

/-- Putting a node replaces what is at its location and below it. -/
theorem entryAt?_put {node : Node} {location : Location} (hasParent : node.HasParent location)
    (new : Node) (other : Location) :
    (node.put location new).entryAt? other =
      if location <+: other then new.entryAt? (other.drop location.length)
      else node.entryAt? other := by
  induction location generalizing node other with
  | nil => simp [put]
  | cons name rest ih =>
      cases node with
      | file text =>
          have parent := hasParent (List.cons_ne_nil name rest)
          cases dropped : (name :: rest).dropLast <;> simp [dropped, entry] at parent
      | directory entries =>
          cases other with
          | nil =>
              cases found : entries.lookup name with
              | none => by_cases last : rest = [] <;> simp [put, found, last, entry]
              | some child => simp [put, found, entry]
          | cons head tail =>
              simp only [List.cons_prefix_cons, List.length_cons, List.drop_succ_cons]
              by_cases last : rest = []
              · subst last
                cases found : entries.lookup name <;>
                  by_cases same : head = name <;>
                    simp [put, found, entryAt?_directory_cons, same, Ne.symm]
              · rcases hasParent.child last with ⟨child, found, childParent⟩
                by_cases same : head = name
                · simp [put, found, entryAt?_directory_cons, same, ih childParent]
                · simp [put, found, entryAt?_directory_cons, same, Ne.symm same]

/-- Erasing a location leaves nothing there and below it. -/
theorem entryAt?_erase (node : Node) {location : Location} (nonempty : location ≠ [])
    (other : Location) :
    (node.erase location).entryAt? other =
      if location <+: other then none else node.entryAt? other := by
  induction location generalizing node other with
  | nil => exact absurd rfl nonempty
  | cons name rest ih =>
      cases node with
      | file text => cases other <;> simp [erase]
      | directory entries =>
          cases other with
          | nil =>
              cases found : entries.lookup name with
              | none => simp [erase, found]
              | some child => by_cases last : rest = [] <;> simp [erase, found, last, entry]
          | cons head tail =>
              simp only [List.cons_prefix_cons]
              cases found : entries.lookup name with
              | none =>
                  by_cases same : head = name
                  · simp [erase, found, entryAt?_directory_cons, same]
                  · simp [erase, found, entryAt?_directory_cons, Ne.symm same]
              | some child =>
                  by_cases last : rest = []
                  · subst last
                    simp only [erase, found, if_true, entryAt?_directory_cons, lookup_filter_ne]
                    by_cases same : head = name
                    · simp [same]
                    · simp [same, Ne.symm same]
                  · by_cases same : head = name
                    · simp [erase, found, entryAt?_directory_cons, last, same, ih child last]
                    · simp [erase, found, entryAt?_directory_cons, last, same, Ne.symm same]

end Node
end TypedRoutes
