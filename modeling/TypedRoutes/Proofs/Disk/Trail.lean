import TypedRoutes.Proofs.Disk.Request

namespace TypedRoutes

/-!
# The trail of a path

A path that goes up comes by places that do not lie above its location.  Following it asks each of
them for a directory, so one path may fail where another to the same location does not.  A path is
direct on a disk where that makes no difference: whatever it comes by lies above its location, or is
a directory that stands elsewhere.
-/

namespace Path

/-- The places that steps come by, the first and the last included. -/
def trail : Location → List Step → List Location
  | place, [] => [place]
  | place, step :: rest => place :: trail (step.apply place) rest

theorem trail_concat (place : Location) (steps : List Step) (step : Step) :
    trail place (steps ++ [step])
      = trail place steps ++ [step.apply (steps.foldl Step.apply place)] := by
  induction steps generalizing place with
  | nil => rfl
  | cons first rest ih => rw [List.cons_append, trail, ih]; rfl

theorem foldl_mem_trail (place : Location) (steps : List Step) :
    steps.foldl Step.apply place ∈ trail place steps := by
  induction steps generalizing place with
  | nil => exact List.mem_cons_self
  | cons step rest ih => exact List.mem_cons_of_mem _ (ih _)

/-- Steps that never go up come by what lies above their end, from the start on. -/
theorem prefix_of_mem_trail {steps : List Step} (straight : .up ∉ steps) {start place : Location}
    (passed : place ∈ trail start steps) : place <+: start ++ names steps := by
  induction steps generalizing start with
  | nil =>
      rw [List.mem_singleton.1 passed]
      exact List.prefix_append _ _
  | cons step rest ih =>
      simp only [List.mem_cons, not_or] at straight
      rcases List.mem_cons.1 passed with rfl | later
      · exact List.prefix_append _ _
      · have above := ih straight.2 later
        cases step with
        | here => exact above
        | up => exact absurd rfl straight.1
        | name part =>
            rw [Step.apply, ← List.append_cons] at above
            exact above

/-- A path to an entry that meets nothing on its way but what lies above its location, and
directories that stand elsewhere. -/
structure Direct (path : Path) (disk : Disk) : Prop where
  last : ∃ before name, path.steps = before ++ [.name name]
  start : disk.entryAt? (path.start disk.working) = some .directory
  outside : ¬ path.location disk.working <+: path.start disk.working
  way : ∀ place ∈ trail (path.start disk.working) path.steps,
    place <+: path.location disk.working ∨
      (disk.entryAt? place = some .directory ∧ ¬ path.location disk.working <+: place)

namespace Direct

variable {path : Path} {disk : Disk}

theorem nonempty (direct : path.Direct disk) : path.text ≠ [] := by
  rcases direct.last with ⟨before, name, shape⟩
  intro empty
  have noSteps : path.steps = [] := by
    rcases path with ⟨text⟩
    subst empty
    rfl
  rw [noSteps] at shape
  simp at shape

/-- A path that never goes up and ends in a name is direct on every disk that has its start. -/
theorem of_straight (straight : .up ∉ path.steps)
    (last : ∃ before name, path.steps = before ++ [.name name])
    (start : disk.entryAt? (path.start disk.working) = some .directory) : path.Direct disk where
  last := last
  start := start
  outside := by
    rcases last with ⟨before, name, shape⟩
    intro above
    have bound := above.length_le
    rw [location_eq_start_append straight, shape, names_append] at bound
    simp only [List.length_append, names_name, names_nil, List.length_cons, List.length_nil] at bound
    omega
  way place passed := by
    left
    rw [location_eq_start_append straight]
    exact prefix_of_mem_trail straight passed

/-- Changes at the location of a direct path and below it leave the path direct. -/
theorem of_elsewhere {after : Disk} (direct : path.Direct disk)
    (working : after.working = disk.working)
    (elsewhere : ∀ place, ¬ path.location disk.working <+: place →
      after.entryAt? place = disk.entryAt? place) : path.Direct after where
  last := direct.last
  start := by
    rw [working, elsewhere _ direct.outside]
    exact direct.start
  outside := by
    rw [working]
    exact direct.outside
  way := by
    rw [working]
    intro place passed
    rcases direct.way place passed with above | ⟨directory, apart⟩
    · exact .inl above
    · exact .inr ⟨by rw [elsewhere place apart, directory], apart⟩

end Direct
end Path

namespace Disk

open TypedRoutes.Path (names trail)

variable {disk : Disk} {place : Location} {steps : List Path.Step}

/-- What lies above a directory is a directory. -/
theorem directory_above {above below : Location} (leads : above <+: below)
    (directory : disk.entryAt? below = some .directory) : disk.entryAt? above = some .directory := by
  rcases leads with ⟨rest, rfl⟩
  by_cases here : rest = []
  · rwa [here, List.append_nil] at directory
  · exact entryAt?_of_append_ne_none here (by rw [directory]; exact Option.some_ne_none _)

/-! ## Walking along a trail -/

/-- A walk gets to its end where the trail before the last step shows directories. -/
theorem walk_concat_of_trail {step : Path.Step}
    (short : ∀ name ∈ names (steps ++ [step]), Text.utf8Length name ≤ nameLimit)
    (directories : ∀ passed ∈ trail place steps, disk.entryAt? passed = some .directory) :
    disk.walk place (steps ++ [step]) = .ok (step.apply (steps.foldl Path.Step.apply place)) := by
  induction steps generalizing place with
  | nil => exact walk_cons_eq_ok_iff.2 ⟨directories _ List.mem_cons_self, (short_cons short).1, rfl⟩
  | cons first rest ih =>
      refine walk_cons_eq_ok_iff.2 ⟨directories _ List.mem_cons_self, (short_cons short).1, ?_⟩
      exact ih (short_cons short).2 fun passed member => directories _ (List.mem_cons_of_mem _ member)

theorem directories_of_walk_concat {step : Path.Step} {reached : Location}
    (walked : disk.walk place (steps ++ [step]) = .ok reached) :
    ∀ passed ∈ trail place steps, disk.entryAt? passed = some .directory := by
  induction steps generalizing place with
  | nil =>
      intro passed member
      rw [List.mem_singleton.1 member]
      exact (walk_cons_eq_ok_iff.1 walked).1
  | cons first rest ih =>
      rcases walk_cons_eq_ok_iff.1 walked with ⟨directory, -, next⟩
      intro passed member
      rcases List.mem_cons.1 member with rfl | later
      · exact directory
      · exact ih next passed later

/-- What stops a walk, and that the walk got there. -/
structure Stop (disk : Disk) (start : Location) (steps : List Path.Step) (place : Location)
    (fault : Fault) : Prop where
  passed : place ∈ trail start steps
  reached : place = start ∨ disk.entryAt? place.dropLast = some .directory
  cause : (fault = .notFound ∧ disk.entryAt? place = none) ∨
    (fault = .notDirectory ∧ ∃ text, disk.entryAt? place = some (.file text))

/-- A walk whose names are short is stopped by the first place that shows no directory. -/
theorem exists_stop_of_walk {fault : Fault}
    (short : ∀ name ∈ names steps, Text.utf8Length name ≤ nameLimit)
    (failed : disk.walk place steps = .error fault) : ∃ stop, Stop disk place steps stop fault := by
  induction steps generalizing place with
  | nil => cases failed
  | cons step rest ih =>
      cases shown : disk.entryAt? place with
      | none =>
          rw [walk_cons_of_none shown] at failed
          cases failed
          exact ⟨place, List.mem_cons_self, .inl rfl, .inl ⟨rfl, shown⟩⟩
      | some entry =>
          cases entry with
          | file text =>
              rw [walk_cons_of_file shown] at failed
              cases failed
              exact ⟨place, List.mem_cons_self, .inl rfl, .inr ⟨rfl, text, shown⟩⟩
          | directory =>
              rw [walk_cons_of_directory shown (short_cons short).1] at failed
              rcases ih (short_cons short).2 failed with ⟨stop, passed, reached, cause⟩
              refine ⟨stop, List.mem_cons_of_mem _ passed, ?_, cause⟩
              rcases reached with rfl | directory
              · cases step with
                | here => exact .inl rfl
                | up =>
                    right
                    refine directory_above ?_ shown
                    exact (List.dropLast_prefix _).trans (List.dropLast_prefix _)
                | name part =>
                    right
                    rw [Path.Step.apply, List.dropLast_concat]
                    exact shown
              · exact .inr directory

end Disk
end TypedRoutes
