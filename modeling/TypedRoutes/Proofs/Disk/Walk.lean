import TypedRoutes.Proofs.Disk.Entry
import TypedRoutes.Proofs.Path.Beginnings
import Mathlib.Tactic.ByContra

namespace TypedRoutes

/-!
# Following paths

A request gets along a path where every place on the way shows a directory.  Where it gets to the
end, it is at the location of the path; a file system without links cannot lead elsewhere.
-/

namespace Disk

open TypedRoutes.Path (names)

/-- What a location of the disk shows. -/
def entryAt? (disk : Disk) (location : Location) : Option Entry := disk.root.entryAt? location

/-- The text of the file at a location, if a file is there. -/
def textAt? (disk : Disk) (location : Location) : Option Text :=
  (disk.entryAt? location).bind Entry.text?

/-- Disks that programs cannot tell apart. -/
structure Alike (first second : Disk) : Prop where
  working : first.working = second.working
  entries : ∀ location, first.entryAt? location = second.entryAt? location

theorem textAt?_eq_some_iff {disk : Disk} {location : Location} {text : Text} :
    disk.textAt? location = some text ↔ disk.entryAt? location = some (.file text) := by
  unfold textAt?
  cases disk.entryAt? location with
  | none => simp
  | some entry => cases entry <;> simp [Entry.text?]

/-- Every location above one that shows something shows a directory. -/
theorem entryAt?_of_append_ne_none {disk : Disk} {above below : Location} (nonempty : below ≠ [])
    (shown : disk.entryAt? (above ++ below) ≠ none) : disk.entryAt? above = some .directory :=
  Node.entryAt?_of_append_ne_none nonempty shown

theorem entryAt?_append_of_none {disk : Disk} {above : Location} (missing : disk.entryAt? above = none)
    (below : Location) : disk.entryAt? (above ++ below) = none := by
  by_cases nonempty : below = []
  · rw [nonempty, List.append_nil, missing]
  · by_contra shown
    rw [entryAt?_of_append_ne_none nonempty shown] at missing
    cases missing

theorem not_prefix_above {above rest : Location} (notHere : rest ≠ []) :
    ¬ above ++ rest <+: above := by
  intro isPrefix
  have bound := isPrefix.length_le
  have positive := List.length_pos_iff.2 notHere
  rw [List.length_append] at bound
  omega

/-! ## Walking -/

variable {disk : Disk} {location : Location}

@[simp] theorem walk_nil : disk.walk location [] = .ok location := by rw [walk]

/-- Whether a step names nothing too long. -/
def Short (step : Path.Step) : Prop := ∀ name ∈ step.name?, Text.utf8Length name ≤ nameLimit

theorem short_here : Short .here := by simp [Short, Path.Step.name?]

theorem short_up : Short .up := by simp [Short, Path.Step.name?]

theorem short_name_iff {part : Text} :
    Short (.name part) ↔ Text.utf8Length part ≤ nameLimit := by
  simp [Short, Path.Step.name?]

theorem short_cons {step : Path.Step} {rest : List Path.Step}
    (short : ∀ name ∈ names (step :: rest), Text.utf8Length name ≤ nameLimit) :
    Short step ∧ ∀ name ∈ names rest, Text.utf8Length name ≤ nameLimit := by
  cases step with
  | here => exact ⟨short_here, short⟩
  | up => exact ⟨short_up, short⟩
  | name part =>
      exact ⟨short_name_iff.2 (short part List.mem_cons_self),
        fun name member => short name (List.mem_cons_of_mem _ member)⟩

/-- A walk takes a step where a directory shows, if the step is short. -/
theorem walk_cons_of_directory {step : Path.Step} {rest : List Path.Step}
    (directory : disk.entryAt? location = some .directory) (short : Short step) :
    disk.walk location (step :: rest) = disk.walk (step.apply location) rest := by
  rcases Node.entryAt?_eq_directory_iff.1 directory with ⟨entries, found⟩
  change disk.at? location = _ at found
  cases step with
  | here => simp only [walk, found]
  | up => simp only [walk, found]
  | name part =>
      have fits := Nat.not_lt.2 (short_name_iff.1 short)
      simp only [walk, found, if_neg fits, Path.Step.apply]

theorem walk_cons_of_none {step : Path.Step} {rest : List Path.Step}
    (missing : disk.entryAt? location = none) :
    disk.walk location (step :: rest) = .error .notFound := by
  have found : disk.at? location = none := Option.map_eq_none_iff.1 missing
  simp only [walk, found]

theorem walk_cons_of_file {step : Path.Step} {rest : List Path.Step} {text : Text}
    (file : disk.entryAt? location = some (.file text)) :
    disk.walk location (step :: rest) = .error .notDirectory := by
  rcases Option.map_eq_some_iff.1 file with ⟨node, found, entry⟩
  change disk.at? location = _ at found
  cases node with
  | file other => simp only [walk, found]
  | directory entries => cases entry

theorem walk_cons_of_not_short {step : Path.Step} {rest : List Path.Step}
    (directory : disk.entryAt? location = some .directory) (long : ¬ Short step) :
    disk.walk location (step :: rest) = .error .nameTooLong := by
  rcases Node.entryAt?_eq_directory_iff.1 directory with ⟨entries, found⟩
  change disk.at? location = _ at found
  cases step with
  | here => exact absurd short_here long
  | up => exact absurd short_up long
  | name part => simp only [walk, found, if_pos (Nat.not_le.1 (mt short_name_iff.2 long))]

/-- What one step of a walk needs, and where it leads. -/
theorem walk_cons_eq_ok_iff {step : Path.Step} {rest : List Path.Step} {reached : Location} :
    disk.walk location (step :: rest) = .ok reached ↔
      disk.entryAt? location = some .directory ∧ Short step ∧
        disk.walk (step.apply location) rest = .ok reached := by
  cases shown : disk.entryAt? location with
  | none => simp [walk_cons_of_none shown]
  | some entry =>
      cases entry with
      | file text => simp [walk_cons_of_file shown]
      | directory =>
          by_cases short : Short step
          · simp [walk_cons_of_directory shown short, short]
          · simp [walk_cons_of_not_short shown short, short]

/-- Where a walk comes to nothing. -/
theorem walk_cons_eq_notFound_iff {step : Path.Step} {rest : List Path.Step} :
    disk.walk location (step :: rest) = .error .notFound ↔
      disk.entryAt? location = none ∨
        (disk.entryAt? location = some .directory ∧ Short step ∧
          disk.walk (step.apply location) rest = .error .notFound) := by
  cases shown : disk.entryAt? location with
  | none => simp [walk_cons_of_none shown]
  | some entry =>
      cases entry with
      | file text => simp [walk_cons_of_file shown]
      | directory =>
          by_cases short : Short step
          · simp [walk_cons_of_directory shown short, short]
          · simp [walk_cons_of_not_short shown short, short]

/-- A walk leads where its steps lead. -/
theorem eq_foldl_of_walk {steps : List Path.Step} {reached : Location}
    (walked : disk.walk location steps = .ok reached) :
    reached = steps.foldl Path.Step.apply location := by
  induction steps generalizing location with
  | nil => exact (Except.ok.inj walked).symm
  | cons step rest ih => exact ih (walk_cons_eq_ok_iff.1 walked).2.2

/-- A walk goes on from where it has come to, or ends where it has failed. -/
theorem walk_append {first second : List Path.Step} :
    disk.walk location (first ++ second) =
      match disk.walk location first with
      | .ok middle => disk.walk middle second
      | .error fault => .error fault := by
  induction first generalizing location with
  | nil => rw [List.nil_append, walk_nil]
  | cons step first ih =>
      rw [List.cons_append]
      cases shown : disk.entryAt? location with
      | none => rw [walk_cons_of_none shown, walk_cons_of_none shown]
      | some entry =>
          cases entry with
          | file text => rw [walk_cons_of_file shown, walk_cons_of_file shown]
          | directory =>
              by_cases short : Short step
              · rw [walk_cons_of_directory shown short, walk_cons_of_directory shown short, ih]
              · rw [walk_cons_of_not_short shown short, walk_cons_of_not_short shown short]

theorem walk_append_eq_ok_iff {first second : List Path.Step} {reached : Location} :
    disk.walk location (first ++ second) = .ok reached ↔
      ∃ middle, disk.walk location first = .ok middle ∧ disk.walk middle second = .ok reached := by
  rw [walk_append]
  cases disk.walk location first with
  | ok middle => simp
  | error fault => simp

/-- A walk that ends in a name stands in a directory before. -/
theorem walk_concat_name_eq_ok_iff {steps : List Path.Step} {name : Text} {reached : Location} :
    disk.walk location (steps ++ [.name name]) = .ok reached ↔
      ∃ parent, disk.walk location steps = .ok parent ∧
        disk.entryAt? parent = some .directory ∧ Text.utf8Length name ≤ nameLimit ∧
        parent ++ [name] = reached := by
  simp only [walk_append_eq_ok_iff, walk_cons_eq_ok_iff, short_name_iff, Path.Step.apply, walk_nil,
    Except.ok.injEq]

/-! ## Walks that never go up -/

/-- Directories all along are enough for a walk. -/
theorem walk_of_directories {steps : List Path.Step} (straight : .up ∉ steps)
    (short : ∀ name ∈ names steps, Text.utf8Length name ≤ nameLimit)
    (directories : ∀ way, way <+: names steps → disk.entryAt? (location ++ way) = some .directory) :
    disk.walk location steps = .ok (location ++ names steps) := by
  induction steps generalizing location with
  | nil => simp [walk]
  | cons step rest ih =>
      simp only [List.mem_cons, not_or] at straight
      have here := directories [] List.nil_prefix
      rw [List.append_nil] at here
      cases step with
      | up => exact absurd rfl straight.1
      | here => exact walk_cons_eq_ok_iff.2 ⟨here, short_here, ih straight.2 short directories⟩
      | name part =>
          rw [Path.names_name] at short directories ⊢
          have fits := short_name_iff.2 (short part List.mem_cons_self)
          refine walk_cons_eq_ok_iff.2 ⟨here, fits, ?_⟩
          rw [List.append_cons location part]
          apply ih straight.2 (fun name member => short name (List.mem_cons_of_mem _ member))
          intro way isWay
          rw [Path.Step.apply, ← List.append_cons]
          exact directories (part :: way) (List.cons_prefix_cons.2 ⟨rfl, isWay⟩)

/-- Where no file is in the way, a walk fails for want of a directory only. -/
theorem walk_of_no_file {steps : List Path.Step} (straight : .up ∉ steps)
    (short : ∀ name ∈ names steps, Text.utf8Length name ≤ nameLimit)
    (free : ∀ way text, way <+: names steps → disk.entryAt? (location ++ way) ≠ some (.file text)) :
    (∃ reached, disk.walk location steps = .ok reached) ∨
      disk.walk location steps = .error .notFound := by
  induction steps generalizing location with
  | nil => exact .inl ⟨location, rfl⟩
  | cons step rest ih =>
      simp only [List.mem_cons, not_or] at straight
      cases shown : disk.entryAt? location with
      | none => exact .inr (walk_cons_eq_notFound_iff.2 (.inl shown))
      | some entry =>
          cases entry with
          | file text => exact absurd (by simpa using shown) (free [] text List.nil_prefix)
          | directory =>
              have fits := (short_cons short).1
              have next : (∃ reached, disk.walk (step.apply location) rest = .ok reached) ∨
                  disk.walk (step.apply location) rest = .error .notFound := by
                cases step with
                | up => exact absurd rfl straight.1
                | here => exact ih straight.2 short free
                | name part =>
                    apply ih straight.2 (fun name member => short name (List.mem_cons_of_mem _ member))
                    intro way text isWay
                    rw [Path.Step.apply, ← List.append_cons]
                    exact free (part :: way) text (List.cons_prefix_cons.2 ⟨rfl, isWay⟩)
              rcases next with ⟨reached, walked⟩ | missing
              · exact .inl ⟨reached, walk_cons_eq_ok_iff.2 ⟨shown, fits, walked⟩⟩
              · exact .inr (walk_cons_eq_notFound_iff.2 (.inr ⟨shown, fits, missing⟩))

/-- A walk that comes to nothing met a place that shows nothing. -/
theorem exists_missing_of_walk {steps : List Path.Step} (straight : .up ∉ steps)
    (failed : disk.walk location steps = .error .notFound) :
    ∃ way, way <+: names steps ∧ disk.entryAt? (location ++ way) = none := by
  induction steps generalizing location with
  | nil => cases failed
  | cons step rest ih =>
      simp only [List.mem_cons, not_or] at straight
      rcases walk_cons_eq_notFound_iff.1 failed with missing | ⟨_, _, next⟩
      · exact ⟨[], List.nil_prefix, by simpa using missing⟩
      · rcases ih straight.2 next with ⟨way, isWay, missing⟩
        cases step with
        | up => exact absurd rfl straight.1
        | here => exact ⟨way, isWay, missing⟩
        | name part =>
            refine ⟨part :: way, List.cons_prefix_cons.2 ⟨rfl, isWay⟩, ?_⟩
            rw [List.append_cons]
            exact missing

/-- The places that a walk came by show directories. -/
theorem directories_of_walk {steps : List Path.Step} {reached : Location} (straight : .up ∉ steps)
    (walked : disk.walk location steps = .ok reached)
    (last : disk.entryAt? reached = some .directory) {way : Location} (isWay : way <+: names steps) :
    disk.entryAt? (location ++ way) = some .directory := by
  rcases isWay with ⟨rest, eq⟩
  have shape : reached = location ++ way ++ rest := by
    rw [eq_foldl_of_walk walked, Path.foldl_apply_eq_append_names straight, ← eq, List.append_assoc]
  by_cases nonempty : rest = []
  · rw [shape, nonempty, List.append_nil] at last
    exact last
  · refine entryAt?_of_append_ne_none nonempty ?_
    rw [← shape, last]
    exact Option.some_ne_none _

theorem short_of_walk {steps : List Path.Step} {reached : Location}
    (walked : disk.walk location steps = .ok reached) :
    ∀ name ∈ names steps, Text.utf8Length name ≤ nameLimit := by
  induction steps generalizing location with
  | nil => simp
  | cons step rest ih =>
      rcases walk_cons_eq_ok_iff.1 walked with ⟨_, fits, next⟩
      cases step with
      | here => exact ih next
      | up => exact ih next
      | name part =>
          intro name member
          rcases List.mem_cons.1 member with rfl | member
          · exact fits name rfl
          · exact ih next name member

end Disk
end TypedRoutes
