import TypedRoutes.Proofs.Declaration.Lines
import TypedRoutes.Proofs.Declaration.Specifier
import TypedRoutes.Proofs.Output.Separation
import TypedRoutes.Proofs.Route.Building

namespace TypedRoutes

/-!
# Relative and bare specifiers

A compiler looks for the file that a specifier names beside the importing file only where the
specifier opens with a step, `./` or `../`; any other name is that of a package.  Marking looks at two
characters and not at the whole step: a part such as `..x` passes for a step upwards.  So a specifier
opens with a step unless the way to the file goes down at once through such a part, or is one step up
and nothing else.  Both are properties of the two ids alone.
-/

namespace Text

/-- What follows a character that a beginning does not have is no part of the beginning. -/
theorem prefix_append_cons_iff {beginning : Text} {c : Char} (absent : c ∉ beginning)
    (before after : Text) : beginning <+: before ++ c :: after ↔ beginning <+: before := by
  constructor
  · intro begins
    rcases List.prefix_or_prefix_of_prefix begins (List.prefix_append before (c :: after)) with
      within | ⟨more, rfl⟩
    · exact within
    · rw [List.prefix_append_right_inj] at begins
      cases more with
      | nil => rw [List.append_nil]
      | cons d more =>
          rw [(List.cons_prefix_cons.1 begins).1] at absent
          simp at absent
  · intro begins
    exact begins.trans (List.prefix_append _ _)

end Text

namespace Specifier

open TypedRoutes.Path (IsName)

/-! ## Opening with a step -/

/-- The specifier opens with a step: `./` or `../`. -/
def IsRelative (specifier : Text) : Prop :=
  ['.', '/'] <+: specifier ∨ ['.', '.', '/'] <+: specifier

instance : DecidablePred IsRelative := fun _ => inferInstanceAs (Decidable (_ ∨ _))

variable {source target : Location} {first : Text} {others : List Text}

/-- Marking misses a text that starts with `..` and not with `../`. -/
theorem isRelative_marked_iff {t : Text} :
    IsRelative (marked t) ↔ (['.', '.'] <+: t → ['.', '.', '/'] <+: t) := by
  unfold marked
  split
  case isTrue dots =>
    have notHere : ¬ ['.', '/'] <+: t := by
      rcases dots with ⟨rest, rfl⟩
      simp
    rw [IsRelative, or_iff_right notHere]
    exact ⟨fun up _ => up, fun up => up dots⟩
  case isFalse noDots =>
    exact iff_of_true (.inl (List.prefix_append ['.', '/'] t)) fun dots => absurd dots noDots

/-- The change of the ending leaves the dots and slashes at the beginning as they are. -/
theorem prefix_compiledName_iff {beginning : Text} (noT : 't' ∉ beginning) (noJ : 'j' ∉ beginning)
    (t : Text) : beginning <+: compiledName t ↔ beginning <+: t := by
  unfold compiledName
  split
  case h_1 stem strips =>
    have compiled : stem ++ (".js" : Text) = (stem ++ ['.']) ++ 'j' :: ['s'] := by simp
    have written : stem ++ (".ts" : Text) = (stem ++ ['.']) ++ 't' :: ['s'] := by simp
    rw [← List.isSuffixOf?_eq_some_iff_append_eq.1 strips, compiled, written,
      Text.prefix_append_cons_iff noJ, Text.prefix_append_cons_iff noT]
  case h_2 => exact Iff.rfl

/-- Two dots at the beginning of a way stand in its first part. -/
theorem dots_prefix_glue_iff :
    ['.', '.'] <+: Text.glue '/' (first :: others) ↔ ['.', '.'] <+: first := by
  cases others with
  | nil => exact Iff.rfl
  | cons next others => exact Text.prefix_append_cons_iff (by decide) _ _

/-- A way opens with a step upwards and goes on exactly if the step is its first part, and not the
last. -/
theorem up_prefix_glue_iff (slashFree : '/' ∉ first) :
    ['.', '.', '/'] <+: Text.glue '/' (first :: others) ↔ first = ['.', '.'] ∧ others ≠ [] := by
  cases others with
  | nil =>
      refine iff_of_false ?_ fun both => both.2 rfl
      rintro ⟨rest, rfl⟩
      simp at slashFree
  | cons next others =>
      rw [Text.glue, and_iff_left (List.cons_ne_nil next others)]
      constructor
      · rintro ⟨rest, same⟩
        have cut := congrArg (Text.pieces '/') same
        rw [Text.pieces_append_sep slashFree,
          show ['.', '.', '/'] ++ rest = ['.', '.'] ++ '/' :: rest from rfl,
          Text.pieces_append_sep (by decide)] at cut
        exact (List.cons.inj cut).1.symm
      · rintro rfl
        exact ⟨Text.glue '/' (next :: others), rfl⟩

/-- The first step decides whether a specifier opens with a step. -/
theorem isRelative_of_steps (slashFree : '/' ∉ first) (way : steps source target = first :: others) :
    IsRelative (relative source target) ↔
      (['.', '.'] <+: first → first = ['.', '.'] ∧ others ≠ []) := by
  rw [relative, way, isRelative_marked_iff, prefix_compiledName_iff (by decide) (by decide),
    prefix_compiledName_iff (by decide) (by decide), dots_prefix_glue_iff,
    up_prefix_glue_iff slashFree]

/-! ## The first step -/

/-- Two lists of which one goes on where the other ends share all of the other. -/
theorem common_append (shared below : Location) :
    common shared (shared ++ below) = shared.length ∧
      common (shared ++ below) shared = shared.length := by
  induction shared with
  | nil => cases below <;> exact ⟨rfl, rfl⟩
  | cons part shared ih => simp [common, ih.1, ih.2]

/-- To a file below the directory, the way goes straight down. -/
theorem steps_of_below {below : Location} (isBelow : target = source.dropLast ++ below) :
    steps source target = below := by
  simp only [steps, isBelow, (common_append _ _).1]
  simp

/-- To a place above the directory, the way goes straight up. -/
theorem steps_of_above {left : Location} (isAbove : source.dropLast = target ++ left) :
    steps source target = List.replicate left.length ['.', '.'] := by
  simp only [steps, isAbove, (common_append _ _).2]
  simp

/-- To every file that is not below the directory, the way goes up at first. -/
theorem exists_steps_up (notBelow : ¬ source.dropLast <+: target) :
    ∃ others, steps source target = ['.', '.'] :: others ∧
      (others = [] ↔ ∃ part, source.dropLast = target ++ [part]) := by
  rcases exists_steps source target with ⟨shared, left, more, isDirectory, isTarget, eq⟩
  cases left with
  | nil =>
      rw [isDirectory, isTarget, List.append_nil] at notBelow
      exact absurd (List.prefix_append shared more) notBelow
  | cons part left =>
      have way : steps source target =
          ['.', '.'] :: (List.replicate left.length ['.', '.'] ++ more) := by rw [eq]; rfl
      refine ⟨_, way, ?_⟩
      constructor
      · intro none
        rw [List.append_eq_nil_iff, List.replicate_eq_nil_iff, List.length_eq_zero_iff] at none
        exact ⟨part, by rw [isDirectory, isTarget, none.1, none.2, List.append_nil]⟩
      · rintro ⟨last, isAbove⟩
        rw [steps_of_above isAbove] at way
        exact (List.cons.inj way).2.symm

/-- A specifier opens with a step unless the way goes down at once through a part that starts with
`..`, or is a single step up. -/
theorem isRelative_relative_iff (areNames : ∀ part ∈ target, IsName part)
    (apart : source.dropLast ≠ target) :
    IsRelative (relative source target) ↔
      (¬ ∃ first others, target = source.dropLast ++ first :: others ∧ ['.', '.'] <+: first) ∧
        ¬ ∃ part, source.dropLast = target ++ [part] := by
  by_cases isBelow : source.dropLast <+: target
  · -- The way down has a first part, and that is a name.
    rcases isBelow with ⟨below, isTarget⟩
    have notAbove : ¬ ∃ part, source.dropLast = target ++ [part] := by
      rintro ⟨part, above⟩
      have lengths := congrArg List.length isTarget
      rw [above] at lengths
      simp only [List.length_append, List.length_singleton] at lengths
      omega
    rw [and_iff_left notAbove]
    cases below with
    | nil => exact absurd (by rw [← isTarget, List.append_nil]) apart
    | cons first others =>
        have isName : IsName first := areNames first (by rw [← isTarget]; simp)
        rw [isRelative_of_steps isName.slash_free (steps_of_below isTarget.symm)]
        constructor
        · rintro opens ⟨other, more, same, dots⟩
          have parts := List.append_cancel_left (isTarget.trans same)
          rw [← (List.cons.inj parts).1] at dots
          exact isName.ne_up (opens dots).1
        · intro free dots
          exact absurd ⟨first, others, isTarget.symm, dots⟩ free
  · have notDown : ¬ ∃ first others, target = source.dropLast ++ first :: others ∧
        ['.', '.'] <+: first := by
      rintro ⟨first, others, isTarget, -⟩
      exact isBelow ⟨first :: others, isTarget.symm⟩
    rcases exists_steps_up isBelow with ⟨others, way, single⟩
    rw [isRelative_of_steps (by decide) way, and_iff_right notDown, ← single]
    exact ⟨fun opens => (opens List.prefix_rfl).2, fun goesOn _ => ⟨rfl, goesOn⟩⟩

end Specifier

namespace Placement

open TypedRoutes.Path (IsName)

/-! ## Ids whose specifiers are bare -/

/-- From the directory of the file of `id`, the way to the file of `other` goes down at once through
a part of `other` that starts with `..`. -/
def GoesDownByDots (id other : Text) : Prop :=
  ∃ part, ['.', '.'] <+: part ∧
    (key other = (key id).dropLast ++ [part] ∨
      ∃ rest, rest ≠ [] ∧ key other = (key id).dropLast ++ typesDirectory :: part :: rest)

variable {appDirectory id other : Text}

/-- To the file of an id with fewer parts no way goes down by dots, so an ancestor that an id names by
its own beginning is safe. -/
theorem not_goesDownByDots_of_length_lt (short : (key other).length < (key id).length) :
    ¬ GoesDownByDots id other := by
  rintro ⟨part, -, same | ⟨rest, -, same⟩⟩ <;>
  · rw [same, List.length_append, List.length_dropLast, List.length_cons] at short
    omega

theorem dropLast_components :
    (components appDirectory id).dropLast =
      appParts appDirectory ++ ((key id).dropLast ++ [typesDirectory]) := by
  rw [components_eq, List.dropLast_concat, List.append_assoc]

/-- The ending of a declaration file adds no dots to the beginning of its name. -/
theorem dots_prefix_append_ts_iff {last : Text} (isName : IsName last) :
    ['.', '.'] <+: last ++ (".ts" : Text) ↔ ['.', '.'] <+: last := by
  rcases last with - | ⟨c, - | ⟨d, last⟩⟩
  · exact absurd rfl isName.nonempty
  · have notDot : '.' ≠ c := fun same => isName.ne_here (by rw [same])
    simp [notDot]
  · simp

/-- Whether the way goes down by dots is a question about the two files, below the application
directory. -/
theorem goesDownByDots_iff_file :
    GoesDownByDots id other ↔ ∃ first others,
      file other = (key id).dropLast ++ typesDirectory :: first :: others ∧
        ['.', '.'] <+: first := by
  rcases exists_key_eq_concat other with ⟨directories, last, isKey, isName, isFile⟩
  rw [GoesDownByDots, isKey, isFile]
  generalize (key id).dropLast = above
  constructor
  · rintro ⟨part, dots, same | ⟨rest, nonempty, same⟩⟩
    · rcases List.append_inj' same rfl with ⟨rfl, eq⟩
      rw [List.singleton_inj.1 eq]
      exact ⟨_, [], rfl, (dots_prefix_append_ts_iff (List.singleton_inj.1 eq ▸ isName)).2 dots⟩
    · rcases (List.eq_nil_or_concat rest).resolve_left nonempty with ⟨front, final, rfl⟩
      rw [List.concat_eq_append, ← List.cons_append, ← List.cons_append, ← List.append_assoc] at same
      rcases List.append_inj' same rfl with ⟨rfl, -⟩
      exact ⟨part, front ++ [typesDirectory, last ++ ".ts"], by simp, dots⟩
  · rintro ⟨first, others, same, dots⟩
    rcases List.eq_nil_or_concat others with rfl | ⟨front, final, rfl⟩
    · -- The file lies in the directory itself.
      rcases List.append_inj' same rfl with ⟨rfl, eq⟩
      rw [← (List.cons.inj (List.cons.inj eq).2).1] at dots
      exact ⟨last, (dots_prefix_append_ts_iff isName).1 dots, .inl rfl⟩
    · -- The part stands before the directory of types that the file lies in.
      rw [List.concat_eq_append, ← List.cons_append, ← List.cons_append, ← List.append_assoc,
        List.append_cons] at same
      have place := (List.append_inj' same rfl).1
      rcases List.eq_nil_or_concat front with rfl | ⟨front, types, rfl⟩
      · have isTypes := List.append_inj' (place.trans (List.append_cons _ _ _)) rfl
        rw [← List.singleton_inj.1 isTypes.2] at dots
        exact absurd dots (by decide)
      · rw [List.concat_eq_append, ← List.cons_append, ← List.cons_append, ← List.append_assoc]
          at place
        rcases List.append_inj' place rfl with ⟨rfl, -⟩
        exact ⟨first, dots, .inr ⟨front ++ [last], by simp, by simp⟩⟩

/-- The specifier by which the file of `id` names that of `other` opens with a step unless the way
goes down by dots, or the last directory of `id` is that file. -/
theorem isRelative_components_iff :
    Specifier.IsRelative
        (Specifier.relative (components appDirectory id) (components appDirectory other)) ↔
      ¬ GoesDownByDots id other ∧ (key id).dropLast ≠ file other := by
  rw [Specifier.isRelative_relative_iff (fun _ => isName_of_mem_components)
    (dropLast_components_ne appDirectory id other), goesDownByDots_iff_file, dropLast_components,
    components_eq_append_file]
  simp only [List.append_assoc, List.append_cancel_left_eq, List.cons_append, List.nil_append]
  refine and_congr_right fun _ => not_congr ⟨?_, fun same => ⟨typesDirectory, by rw [same]⟩⟩
  rintro ⟨part, same⟩
  exact (List.append_inj' same rfl).1

end Placement

namespace Declaration

variable {snapshot : Snapshot} {rootId : Text} {routes : List Route}

/-! ## The imports of a declaration file -/

/-- The imports that stand in the file of a route, and which of them open with a step. -/
structure ImportsBySteps (snapshot : Snapshot) (route : Route) (ancestors : List Route)
    (specifiers : List Text) (text : Text) : Prop where
  lineage : snapshot.tree.lineage route.id = .ok (ancestors ++ [route])
  imports : Text.linesFrom importBeginning text = importLines 0 specifiers
  /-- An import opens with a step unless the way to the ancestor's file goes down by dots, or the
  last directory of the route's id is that file. -/
  relative_iff : List.Forall₂ (fun ancestor specifier =>
    Specifier.IsRelative specifier ↔
      ¬ Placement.GoesDownByDots route.id ancestor.id ∧
        (Placement.key route.id).dropLast ≠ Placement.file ancestor.id) ancestors specifiers

/-- Every route of a built tree has a file, and the ids of the route and of an ancestor decide whether
the import of this ancestor opens with a step. -/
theorem importsBySteps_of_build (frameworkModule : Text)
    (built : RouteTree.build rootId routes = .ok snapshot.tree) :
    ∀ route ∈ snapshot.routes, ∃ ancestors specifiers text,
      routeFile frameworkModule snapshot route = .ok text ∧
        ImportsBySteps snapshot route ancestors specifiers text := by
  intro route declared
  rcases RouteTree.exists_lineage built declared with ⟨lineage, isLineage⟩
  rcases RouteTree.exists_ancestors declared isLineage with ⟨ancestors, rfl⟩
  refine ⟨ancestors, parentSpecifiers snapshot route ancestors,
    routeFileOf frameworkModule snapshot route (ancestors ++ [route]),
    by rw [routeFile, isLineage]; rfl, isLineage, ?_, ?_⟩
  · rw [linesFrom_import_routeFileOf, List.dropLast_concat]
  · rw [parentSpecifiers, List.forall₂_map_right_iff, List.forall₂_same]
    exact fun ancestor _ => Placement.isRelative_components_iff

/-- Below a route with dots in its id, the way goes up first. -/
theorem importsBySteps_of_build_below_dots :
    let root : Route := { id := "root" }
    let layout : Route := { id := "..x" }
    let route : Route := { id := "..x/y" }
    let snapshot : Snapshot := ⟨"app", "production", {}, ⟨"root", [root, layout, route], _, _, rfl, rfl⟩⟩
    RouteTree.build "root" [root, layout, route] = .ok snapshot.tree ∧
      ∃ specifiers text, routeFile "f" snapshot route = .ok text ∧
        ImportsBySteps snapshot route [root, layout] specifiers text ∧
        ∀ specifier ∈ specifiers, Specifier.IsRelative specifier := by
  intro root layout route snapshot
  have built : RouteTree.build "root" [root, layout, route] = .ok snapshot.tree := by rfl
  refine ⟨built, ?_⟩
  rcases importsBySteps_of_build "f" built route (by decide) with
    ⟨ancestors, specifiers, text, made, imports⟩
  have isLineage : snapshot.tree.lineage route.id = .ok ([root, layout] ++ [route]) := by rfl
  have isAncestors : [root, layout] = ancestors :=
    List.append_cancel_right (Except.ok.inj (isLineage.symm.trans imports.lineage))
  subst isAncestors
  refine ⟨specifiers, text, made, imports, ?_⟩
  have opens : ∀ other : Text, (Placement.key other).length < (Placement.key route.id).length →
      (Placement.key route.id).dropLast ≠ Placement.file other →
      ¬ Placement.GoesDownByDots route.id other ∧
        (Placement.key route.id).dropLast ≠ Placement.file other :=
    fun _ short apart => ⟨Placement.not_goesDownByDots_of_length_lt short, apart⟩
  rcases imports.relative_iff with - | ⟨toRoot, - | ⟨toLayout, noMore⟩⟩
  cases noMore
  rw [List.forall_mem_cons, List.forall_mem_singleton]
  constructor
  · exact toRoot.2 (opens _ (by decide) (by decide))
  · exact toLayout.2 (opens _ (by decide) (by decide))

/-- Two dots are not a step.  Here the file of the ancestor lies beside that of the route, and its
name starts with dots, so the import names a package. -/
theorem imports_bare_of_dots :
    let root : Route := { id := "root" }
    let layout : Route := { id := "..x" }
    let route : Route := { id := "y", parentId := some "..x" }
    let snapshot : Snapshot := ⟨"app", "production", {}, ⟨"root", [root, layout, route], _, _, rfl, rfl⟩⟩
    RouteTree.build "root" [root, layout, route] = .ok snapshot.tree ∧
      snapshot.tree.lineage route.id = .ok [root, layout, route] ∧
      (∃ text, routeFile "f" snapshot route = .ok text ∧
        importLine 1 "..x.js" ∈ Text.linesFrom importBeginning text) ∧
      ¬ Specifier.IsRelative "..x.js" := by
  intro root layout route snapshot
  refine ⟨rfl, rfl, ⟨_, rfl, ?_⟩, by decide⟩
  decide

end Declaration
end TypedRoutes
