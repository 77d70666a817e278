import TypedRoutes.Declaration.Placement
import TypedRoutes.Declaration.Register
import TypedRoutes.Declaration.ServerBuild
import TypedRoutes.Proofs.Path.Location

namespace TypedRoutes

/-!
# Where generated files go

Every part of a place is a name, so a place lies below the output directory whatever the id and the
application directory are.  The texts of two places are equal only where the parts are, and no
declaration file takes the place of a file that belongs to no single route.
-/

namespace Placement

open TypedRoutes.Path (IsName)

/-- What replaces a part that a file system would read as a step is a name. -/
theorem isName_plain {part : Text} (nonempty : part ≠ []) (slashFree : '/' ∉ part) :
    IsName (plain part) := by
  unfold plain
  split
  case isTrue => decide
  case isFalse notHere =>
    split
    case isTrue => decide
    case isFalse notUp => exact ⟨nonempty, notHere, notUp, slashFree⟩

theorem isName_of_mem_appParts {appDirectory part : Text} (member : part ∈ appParts appDirectory) :
    IsName part := by
  rcases List.mem_map.1 member with ⟨piece, kept, rfl⟩
  rcases List.mem_filter.1 kept with ⟨isPiece, meaningful⟩
  have nonempty : piece ≠ [] := (by simpa using meaningful : piece ≠ [] ∧ piece ≠ ['.']).1
  exact isName_plain nonempty (Text.sep_not_mem_of_mem_pieces isPiece)

theorem isName_of_mem_idParts {id part : Text} (member : part ∈ idParts id) : IsName part := by
  rcases List.mem_map.1 member with ⟨piece, kept, rfl⟩
  rcases List.mem_filter.1 kept with ⟨isPiece, meaningful⟩
  exact isName_plain (by simpa using meaningful) (Text.sep_not_mem_of_mem_pieces isPiece)

theorem key_ne_nil (id : Text) : key id ≠ [] := by
  unfold key
  split
  · exact List.cons_ne_nil _ _
  · assumption

theorem isName_of_mem_key {id part : Text} (member : part ∈ key id) : IsName part := by
  unfold key at member
  split at member
  · rw [List.mem_singleton.1 member]
    decide
  · exact isName_of_mem_idParts member

/-- A name with the ending of a declaration file is a name. -/
theorem isName_append_ts {part : Text} (isName : IsName part) : IsName (part ++ ".ts") := by
  have long : ∀ short : Text, short.length < 3 → part ++ (".ts" : Text) ≠ short := by
    intro short bound same
    have length := congrArg List.length same
    rw [List.length_append, show (".ts" : Text).length = 3 from rfl] at length
    omega
  refine ⟨long _ (by decide), long _ (by decide), long _ (by decide), ?_⟩
  rw [List.mem_append, not_or]
  exact ⟨isName.slash_free, by decide⟩

/-- Every part of a place is a name. -/
theorem isName_of_mem_components {appDirectory id part : Text}
    (member : part ∈ components appDirectory id) : IsName part := by
  unfold components at member
  simp only [List.mem_append, List.mem_cons, List.not_mem_nil, or_false] at member
  rcases member with (inApp | inKey) | types | file
  · exact isName_of_mem_appParts inApp
  · exact isName_of_mem_key ((List.dropLast_sublist _).subset inKey)
  · rw [types]
    decide
  · rw [file, List.getLastD_eq_getLast?, List.getLast?_eq_some_getLast (key_ne_nil id)]
    exact isName_append_ts (isName_of_mem_key (List.getLast_mem _))

theorem two_le_length_components (appDirectory id : Text) :
    2 ≤ (components appDirectory id).length := by
  simp only [components, List.length_append, List.length_cons, List.length_nil]
  omega

theorem components_ne_nil (appDirectory id : Text) : components appDirectory id ≠ [] := by
  intro none
  have long := two_le_length_components appDirectory id
  rw [none] at long
  cases long

/-- No declaration file lies directly below the output directory. -/
theorem components_ne_singleton (appDirectory id name : Text) :
    components appDirectory id ≠ [name] := by
  intro same
  have long := two_le_length_components appDirectory id
  rw [same, List.length_singleton] at long
  omega

/-- The text of a place determines its parts. -/
theorem components_eq_of_path_eq {appDirectory first second : Text}
    (same : path appDirectory first = path appDirectory second) :
    components appDirectory first = components appDirectory second := by
  have slashFree : ∀ id, ∀ part ∈ components appDirectory id, '/' ∉ part :=
    fun id part member => (isName_of_mem_components member).slash_free
  have cut := congrArg (Text.pieces '/') same
  rwa [path, path, Text.pieces_glue (components_ne_nil _ _) (slashFree first),
    Text.pieces_glue (components_ne_nil _ _) (slashFree second)] at cut

end Placement

namespace Declaration

theorem isName_registerName : Path.IsName registerName := by decide

theorem isName_serverBuildName : Path.IsName serverBuildName := by decide

theorem registerName_ne_serverBuildName : registerName ≠ serverBuildName := by decide

end Declaration
end TypedRoutes
