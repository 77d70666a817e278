import TypedRoutes.Declaration.Specifier
import TypedRoutes.Proofs.Declaration.Placement
import TypedRoutes.Proofs.Path.Beginnings
import Mathlib.Data.List.Infix

namespace TypedRoutes

/-!
# Following specifiers

A specifier is read from the directory of the file that it stands in: its parts lead on one by one,
and the ending `.js` stands for `.ts`.  A specifier made for another generated file leads to that file,
whichever two files these are, and never above the output directory on its way.
-/

namespace Text

/-- The last of glued pieces is the end of the text. -/
theorem exists_glue_concat (sep : Char) (front : List Text) (last : Text) :
    ∃ before, glue sep (front ++ [last]) = before ++ last := by
  cases front with
  | nil => exact ⟨[], rfl⟩
  | cons piece rest =>
      rw [glue_concat sep (List.cons_ne_nil piece rest)]
      exact ⟨glue sep (piece :: rest) ++ [sep], by simp⟩

/-- The first of glued pieces is the beginning of the text. -/
theorem prefix_glue_cons (sep : Char) (first : Text) (rest : List Text) :
    first <+: glue sep (first :: rest) := by
  cases rest with
  | nil => exact List.prefix_rfl
  | cons next rest => exact List.prefix_append _ _

theorem stripEnding?_append (stem ending : Text) : stripEnding? ending (stem ++ ending) = some stem :=
  List.isSuffixOf?_eq_some_iff_append_eq.2 rfl

/-- Two texts of which one ends in the other's ending are told apart by their last characters. -/
theorem stripEnding?_eq_none {before last ending : Text} (lastNonempty : last ≠ [])
    (endingNonempty : ending ≠ []) (apart : last.getLast? ≠ ending.getLast?) :
    stripEnding? ending (before ++ last) = none := by
  rw [Option.eq_none_iff_forall_ne_some]
  intro stem strips
  have same := congrArg List.getLast? (List.isSuffixOf?_eq_some_iff_append_eq.1 strips)
  rw [List.getLast?_append_of_ne_nil _ endingNonempty,
    List.getLast?_append_of_ne_nil _ lastNonempty] at same
  exact apart same.symm

end Text

namespace Specifier

open TypedRoutes.Path (IsName)

/-! ## Reading a specifier -/

/-- The place that one part of a specifier leads to.  Nothing leads up from the output directory. -/
def follow? (place : Location) (part : Text) : Option Location :=
  if part = ['.'] then some place
  else if part = ['.', '.'] then (if place = [] then none else some place.dropLast)
  else some (place ++ [part])

/-- The name of the source that a compiled file stands for. -/
def sourceName (t : Text) : Text :=
  match Text.stripEnding? ".js" t with
  | some stem => stem ++ ".ts"
  | none => t

/-- The place that a specifier leads to from a directory, both relative to the output directory. -/
def resolve? (directory : Location) (specifier : Text) : Option Location :=
  (Text.pieces '/' (sourceName specifier)).foldlM follow? directory

variable {source target place : Location}

theorem follow?_here (place : Location) : follow? place ['.'] = some place := rfl

theorem follow?_up (place : Location) (part : Text) :
    follow? (place ++ [part]) ['.', '.'] = some place := by
  rw [follow?, if_neg (by decide), if_pos rfl, if_neg (by simp), List.dropLast_concat]

theorem follow?_name {part : Text} (isName : IsName part) (place : Location) :
    follow? place part = some (place ++ [part]) := by
  rw [follow?, if_neg isName.ne_here, if_neg isName.ne_up]

/-- Steps up lead out of what lies below a place. -/
theorem foldlM_up (place below : Location) :
    (List.replicate below.length ['.', '.']).foldlM follow? (place ++ below) = some place := by
  induction below using List.reverseRecOn with
  | nil => simp
  | append_singleton below part ih =>
      rw [List.length_append, List.length_singleton, List.replicate_succ, List.foldlM_cons,
        ← List.append_assoc, follow?_up]
      exact ih

/-- Names lead down. -/
theorem foldlM_names {parts : List Text} (areNames : ∀ part ∈ parts, IsName part)
    (place : Location) : parts.foldlM follow? place = some (place ++ parts) := by
  induction parts generalizing place with
  | nil => simp
  | cons part parts ih =>
      rw [List.foldlM_cons, follow?_name (areNames part List.mem_cons_self)]
      have rest := ih (fun other member => areNames other (List.mem_cons_of_mem _ member))
        (place ++ [part])
      rw [List.append_assoc] at rest
      exact rest

/-! ## The way from one file to another -/

/-- Two lists part after what they share. -/
theorem exists_common (first second : List Text) :
    ∃ shared rest more, first = shared ++ rest ∧ second = shared ++ more ∧
      common first second = shared.length := by
  induction first generalizing second with
  | nil => exact ⟨[], [], second, rfl, rfl, rfl⟩
  | cons part first ih =>
      cases second with
      | nil => exact ⟨[], part :: first, [], rfl, rfl, rfl⟩
      | cons other second =>
          by_cases same : part = other
          · subst same
            rcases ih second with ⟨shared, rest, more, rfl, rfl, count⟩
            exact ⟨part :: shared, rest, more, rfl, rfl, by simp [common, count]⟩
          · exact ⟨[], part :: first, other :: second, rfl, rfl, by simp [common, same]⟩

/-- The steps leave what is left of the directory and enter what is left of the target. -/
theorem exists_steps (source target : Location) :
    ∃ shared rest more, source.dropLast = shared ++ rest ∧ target = shared ++ more ∧
      steps source target = List.replicate rest.length ['.', '.'] ++ more := by
  rcases exists_common source.dropLast target with ⟨shared, rest, more, isDirectory, isTarget, count⟩
  refine ⟨shared, rest, more, isDirectory, isTarget, ?_⟩
  simp only [steps, count]
  rw [isDirectory, isTarget, List.drop_left, List.length_append, Nat.add_sub_cancel_left]

/-- The steps lead to the target. -/
theorem foldlM_steps (areNames : ∀ part ∈ target, IsName part) :
    (steps source target).foldlM follow? source.dropLast = some target := by
  rcases exists_steps source target with ⟨shared, rest, more, isDirectory, rfl, eq⟩
  rw [eq, isDirectory, List.foldlM_append, foldlM_up]
  exact foldlM_names (fun part member => areNames part (List.mem_append_right _ member)) shared

theorem steps_ne_nil (apart : source.dropLast ≠ target) : steps source target ≠ [] := by
  rcases exists_steps source target with ⟨shared, rest, more, isDirectory, rfl, eq⟩
  intro none
  rw [eq, List.append_eq_nil_iff, List.replicate_eq_nil_iff, List.length_eq_zero_iff] at none
  exact apart (by rw [isDirectory, none.1, none.2])

theorem slash_not_mem_steps (areNames : ∀ part ∈ target, IsName part) :
    ∀ part ∈ steps source target, '/' ∉ part := by
  rcases exists_steps source target with ⟨shared, rest, more, -, rfl, eq⟩
  intro part member
  rw [eq, List.mem_append] at member
  rcases member with up | down
  · rw [List.eq_of_mem_replicate up]
    exact (by decide : '/' ∉ (['.', '.'] : Text))
  · exact (areNames part (List.mem_append_right _ down)).slash_free

/-! ## The text of a specifier -/

/-- Marking a compiled file and reading it as its source is marking the source. -/
theorem sourceName_marked_js (stem : Text) :
    ∃ front : Text, sourceName (marked (stem ++ ".js")) = front ++ (stem ++ ".ts") ∧
      (front = [] ∨ front = ['.', '/']) := by
  unfold marked
  split
  · exact ⟨[], by rw [sourceName, Text.stripEnding?_append]; rfl, .inl rfl⟩
  · refine ⟨['.', '/'], ?_, .inr rfl⟩
    rw [← List.append_assoc, sourceName, Text.stripEnding?_append, ← List.append_assoc]
    rfl

/-- A place whose file has the ending of a source. -/
def NamesSource (target : Location) : Prop :=
  ∃ (front : Location) (name : Text), target = front ++ [name ++ (".ts" : Text)]

/-- The steps are found again in the specifier, perhaps after one that stays in place. -/
theorem sourceName_relative (ends : NamesSource target)
    (apart : source.dropLast ≠ target) :
    ∃ front, sourceName (relative source target) =
        front ++ Text.glue '/' (steps source target) ∧ (front = [] ∨ front = ['.', '/']) := by
  rcases exists_steps source target with ⟨shared, rest, more, isDirectory, isTarget, eq⟩
  rw [relative, eq]
  rcases List.eq_nil_or_concat' more with rfl | ⟨init, last, rfl⟩
  · -- The target lies on the way up: the specifier is a row of `..`, which has no ending.
    have nonempty : rest ≠ [] := by
      rintro rfl
      exact apart (isDirectory.trans isTarget.symm)
    rcases List.exists_cons_of_ne_nil nonempty with ⟨part, rest, rfl⟩
    have upwards : ['.', '.'] <+: Text.glue '/' (List.replicate (part :: rest).length ['.', '.']) :=
      Text.prefix_glue_cons _ _ _
    obtain ⟨before, glued⟩ : ∃ before,
        Text.glue '/' (List.replicate (part :: rest).length ['.', '.']) = before ++ ['.', '.'] := by
      rw [List.length_cons, List.replicate_succ']
      exact Text.exists_glue_concat _ _ _
    refine ⟨[], ?_, .inl rfl⟩
    rw [List.append_nil, compiledName, glued,
      Text.stripEnding?_eq_none (by decide) (by decide) (by decide), ← glued, marked,
      if_pos upwards, sourceName, glued,
      Text.stripEnding?_eq_none (by decide) (by decide) (by decide)]
    rfl
  · -- The last step down names the target's file, which has the ending of a source.
    rcases ends with ⟨front, name, isFile⟩
    have isLast : last = name ++ ".ts" := by
      rw [isTarget, ← List.append_assoc] at isFile
      exact List.singleton_inj.1 (List.append_inj_right' isFile rfl)
    rw [← List.append_assoc]
    rcases Text.exists_glue_concat '/' (List.replicate rest.length ['.', '.'] ++ init) last with
      ⟨before, glued⟩
    rw [glued, isLast, ← List.append_assoc, compiledName, Text.stripEnding?_append]
    exact sourceName_marked_js (before ++ name)

/-- A specifier leads from the directory of one file to the other file. -/
theorem resolve?_relative (areNames : ∀ part ∈ target, IsName part) (ends : NamesSource target)
    (apart : source.dropLast ≠ target) :
    resolve? source.dropLast (relative source target) = some target := by
  have cut : Text.pieces '/' (Text.glue '/' (steps source target)) = steps source target :=
    Text.pieces_glue (steps_ne_nil apart) (slash_not_mem_steps areNames)
  have follows : (steps source target).foldlM follow? source.dropLast = some target :=
    foldlM_steps areNames
  rcases sourceName_relative ends apart with ⟨front, eq, rfl | rfl⟩
  · rw [resolve?, eq, List.nil_append, cut, follows]
  · have marked : Text.pieces '/' (['.', '/'] ++ Text.glue '/' (steps source target)) =
        ['.'] :: Text.pieces '/' (Text.glue '/' (steps source target)) :=
      Text.pieces_append_sep (p := ['.']) (by decide) _
    rw [resolve?, eq, marked, List.foldlM_cons, follow?_here, cut]
    exact follows

end Specifier

namespace Placement

/-- A declaration file lies in a directory of types. -/
theorem components_eq (appDirectory id : Text) :
    components appDirectory id = appParts appDirectory ++ (key id).dropLast ++ [typesDirectory] ++
      [(key id).getLastD ['_'] ++ (".ts" : Text)] := by
  simp [components]

/-- Every declaration file has the ending of a source. -/
theorem namesSource_components (appDirectory id : Text) :
    Specifier.NamesSource (components appDirectory id) :=
  ⟨_, _, components_eq appDirectory id⟩

/-- The directory of a declaration file is not the place of one. -/
theorem dropLast_components_ne (appDirectory id other : Text) :
    (components appDirectory id).dropLast ≠ components appDirectory other := by
  rw [components_eq, components_eq, List.dropLast_concat]
  intro same
  have file : typesDirectory = (key other).getLastD ['_'] ++ (".ts" : Text) :=
    List.singleton_inj.1 (List.append_inj_right' same rfl)
  have ends : (".ts" : Text) <:+ typesDirectory := ⟨_, file.symm⟩
  exact absurd ends (by decide)

/-- The specifier of a route's declaration file leads there from the directory of every other. -/
theorem resolve?_relative_components (appDirectory id other : Text) :
    Specifier.resolve? (components appDirectory id).dropLast
        (Specifier.relative (components appDirectory id) (components appDirectory other)) =
      some (components appDirectory other) :=
  Specifier.resolve?_relative (fun _ => isName_of_mem_components)
    (namesSource_components appDirectory other) (dropLast_components_ne appDirectory id other)

/-- An ancestor may lie deeper than the route that imports it. -/
example : Specifier.relative (components "app" "blog") (components "app" "a/b") =
    "../a/+types/b.js" := by decide

end Placement
end TypedRoutes
