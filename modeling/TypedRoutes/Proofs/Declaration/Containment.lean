import TypedRoutes.Proofs.Output.Separation

namespace TypedRoutes

/-!
# Places stay inside

Ids and application directories come from outside and may be any text at all: empty, a row of slashes,
an absolute path, a path upwards.  The place that is made of them is nevertheless a row of names, at
least two, of which the last but one is the directory of types and the last is that of a source.  Read
from any output directory, the directory without a text included, such a row leads down and nowhere
else, and never to a file that belongs to no single route.
-/

namespace Path

/-- Names behind a path are covered by it, and they do not cover it. -/
theorem covers_join_ofNames {parts : List Text} (nonempty : parts ≠ [])
    (areNames : ∀ part ∈ parts, IsName part) (output : Path) (working : Location) :
    (output.join (.ofNames parts)).resolve? working = some (output.location working ++ parts) ∧
      covers (output.resolve? working)
        ((output.join (.ofNames parts)).resolve? working) = true ∧
      covers ((output.join (.ofNames parts)).resolve? working)
        (output.resolve? working) = false := by
  have written : (output.join (.ofNames parts)).text ≠ [] := by
    intro empty
    have location := location_of_empty empty []
    rw [location_join_ofNames output nonempty areNames] at location
    exact nonempty (List.append_eq_nil_iff.1 location).2
  have resolved : (output.join (.ofNames parts)).resolve? working =
      some (output.location working ++ parts) := by
    rw [resolve?_eq_location written, location_join_ofNames output nonempty areNames]
  refine ⟨resolved, ?_⟩
  rw [resolved]
  by_cases empty : output.text = []
  · have none : output.resolve? working = none := by rw [resolve?, if_pos empty]
    rw [none]
    exact ⟨rfl, rfl⟩
  · rw [resolve?_eq_location empty]
    constructor
    · exact List.isPrefixOf_iff_prefix.2 (List.prefix_append _ _)
    · apply Bool.eq_false_iff.2
      intro covered
      have short := (List.isPrefixOf_iff_prefix.1 covered).length_le
      rw [List.length_append] at short
      exact nonempty (List.length_eq_zero_iff.1 (by omega))

end Path

namespace Placement

open TypedRoutes.Path (IsName)

/-- The place of a declaration file, and where it leads from an output directory. -/
structure StaysInside (appDirectory id : Text) : Prop where
  deep : 2 ≤ (components appDirectory id).length
  names : ∀ part ∈ components appDirectory id, IsName part
  /-- A file with the ending of a source, directly in a directory of types. -/
  file : ∃ above stem, IsName stem ∧
    components appDirectory id = above ++ [typesDirectory, stem ++ (".ts" : Text)]
  relative : (Path.ofNames (components appDirectory id)).isAbsolute = false
  /-- The text of the place is read as these names and nothing else. -/
  read : path appDirectory id = (Path.ofNames (components appDirectory id)).text ∧
    (Path.ofNames (components appDirectory id)).steps =
      (components appDirectory id).map Path.Step.name
  /-- The output directory is above the file, and the file is not above the output directory. -/
  below : ∀ (output : Path) (working : Location),
    (output.join ⟨path appDirectory id⟩).resolve? working =
        some (output.location working ++ components appDirectory id) ∧
      Path.covers (output.resolve? working)
        ((output.join ⟨path appDirectory id⟩).resolve? working) = true ∧
      Path.covers ((output.join ⟨path appDirectory id⟩).resolve? working)
        (output.resolve? working) = false
  /-- The place is that of no shared file. -/
  own : ∀ name ∈ Declaration.sharedNames, path appDirectory id ≠ name ∧
    ∀ (output : Path) (working : Location),
      (output.join ⟨path appDirectory id⟩).location working ≠
        (output.join ⟨name⟩).location working

/-- Whatever the application directory and the id are, the declaration file stays inside the output
directory, wherever that is. -/
theorem staysInside (appDirectory id : Text) : StaysInside appDirectory id where
  deep := two_le_length_components appDirectory id
  names _ := isName_of_mem_components
  file := by
    rcases exists_key_eq_concat id with ⟨directories, stem, -, isName, isFile⟩
    exact ⟨appParts appDirectory ++ directories, stem, isName, by
      rw [components_eq_append_file, isFile, List.append_assoc]⟩
  relative := Path.isAbsolute_ofNames fun _ => isName_of_mem_components
  read := ⟨rfl, Path.steps_ofNames (components_ne_nil _ _) fun _ => isName_of_mem_components⟩
  below := Path.covers_join_ofNames (components_ne_nil _ _) fun _ => isName_of_mem_components
  own := by
    intro name isShared
    have isName : ∀ part ∈ [name], IsName part := by
      rw [List.forall_mem_singleton]
      exact Declaration.isName_of_mem_sharedNames isShared
    have location : ∀ (output : Path) (working : Location),
        (output.join ⟨path appDirectory id⟩).location working ≠
          (output.join ⟨name⟩).location working := by
      intro output working same
      have own := Path.location_join_ofNames output (components_ne_nil appDirectory id)
        (fun _ => isName_of_mem_components) working
      have shared := Path.location_join_ofNames output (List.cons_ne_nil name []) isName working
      exact components_ne_singleton _ _ _ (List.append_cancel_left (own.symm.trans (same.trans shared)))
    exact ⟨fun same => location ⟨[]⟩ [] (by rw [same]), location⟩

/-- An id that goes up and an application directory that is absolute name a place like any other. -/
example : components "/srv/../app//" "../..//etc/." = ["srv", "__", "app", "__", "__", "etc",
    "+types", "_.ts"] := by decide

end Placement
end TypedRoutes
