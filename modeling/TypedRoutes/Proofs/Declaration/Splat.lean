import TypedRoutes.Proofs.Declaration.Members
import TypedRoutes.Proofs.Declaration.Register
import TypedRoutes.Proofs.Route.Inheritance

namespace TypedRoutes

/-!
# The flag of the catch-all

A segment `*` declares the catch-all, and as required.  Its name is not reserved, though: `:*` declares
the same name, and `:*?` declares it as optional.  Of these segments the last one on the whole lineage
counts, so the catch-all is optional where that is `:*?`, and required everywhere else.  The texts that
are generated say the same.
-/

/-! ## Segments that declare the catch-all -/

namespace Param

variable {segment : Text}

theorem declares_splat_false_iff : Declares segment ⟨splat, false⟩ ↔ segment = [':', '*', '?'] := by
  constructor
  · intro declares
    cases declares with
    | optional _ => rfl
  · rintro rfl
    exact @Declares.optional splat (List.cons_ne_nil _ _)

theorem declares_splat_true_iff :
    Declares segment ⟨splat, true⟩ ↔ segment = ['*'] ∨ segment = [':', '*'] := by
  constructor
  · intro declares
    cases declares with
    | splat => exact .inl rfl
    | required _ _ => exact .inr rfl
  · rintro (rfl | rfl)
    · exact .splat
    · exact @Declares.required splat (List.cons_ne_nil _ _) (by decide)

theorem declaresName_splat_iff :
    DeclaresName segment splat ↔
      segment = ['*'] ∨ segment = [':', '*'] ∨ segment = [':', '*', '?'] := by
  rw [DeclaresName, Bool.exists_bool, declares_splat_false_iff, declares_splat_true_iff, or_comm,
    or_assoc]

end Param

/-! ## The last of them -/

namespace Params

open Param (splat)

/-- The last segment that declares the catch-all is `:*?`. -/
def SplatOptional (segments : List Text) : Prop :=
  ∃ before after, segments = before ++ [':', '*', '?'] :: after ∧
    ∀ later ∈ after, later ≠ ['*'] ∧ later ≠ [':', '*'] ∧ later ≠ [':', '*', '?']

/-- Reading backwards, `:*?` is the first segment that declares the catch-all. -/
theorem splatOptional_iff_find? {segments : List Text} :
    SplatOptional segments ↔
      segments.reverse.find? (Param.DeclaresName · splat) = some [':', '*', '?'] := by
  simp only [List.find?_eq_some_iff_append, Param.declaresName_splat_iff]
  constructor
  · rintro ⟨before, after, rfl, last⟩
    refine ⟨by decide, after.reverse, before.reverse, by simp, fun later member => ?_⟩
    simpa using last later (List.mem_reverse.1 member)
  · rintro ⟨-, after, before, shape, last⟩
    refine ⟨before.reverse, after.reverse, ?_, fun later member => ?_⟩
    · rw [← List.reverse_reverse segments, shape]
      simp
    · simpa using last later (List.mem_reverse.1 member)

instance : DecidablePred SplatOptional := fun _ => decidable_of_iff _ splatOptional_iff_find?.symm

/-- The catch-all is a parameter, optional under a condition and required otherwise. -/
structure HasSplat (params : Params) (optional : Prop) : Prop where
  required_iff : ⟨splat, true⟩ ∈ params ↔ ¬ optional
  optional_iff : ⟨splat, false⟩ ∈ params ↔ optional

variable {segments : List Text} {params : Params}

theorem HasSplat.ne_nil {optional : Prop} (has : HasSplat params optional) : params ≠ [] := by
  rintro rfl
  have notOptional : ¬ optional := mt has.optional_iff.2 List.not_mem_nil
  exact List.not_mem_nil (has.required_iff.2 notOptional)

theorem lastDeclared_splat_false_iff :
    LastDeclared segments ⟨splat, false⟩ ↔ SplatOptional segments := by
  unfold LastDeclared SplatOptional
  simp only [Param.declares_splat_false_iff, Param.declaresName_splat_iff, not_or]
  constructor
  · rintro ⟨before, segment, after, shape, rfl, last⟩
    exact ⟨before, after, shape, last⟩
  · rintro ⟨before, after, shape, last⟩
    exact ⟨before, _, after, shape, rfl, last⟩

/-- Where a segment declares the catch-all, the last such segment says whether it is required. -/
theorem Reads.hasSplat (reads : Reads segments params) (member : splat ∈ segments) :
    HasSplat params (SplatOptional segments) := by
  have optional : ⟨splat, false⟩ ∈ params ↔ SplatOptional segments := by
    rw [reads.last, lastDeclared_splat_false_iff]
  have present : splat ∈ params.map Param.name := (reads.names splat).2 ⟨splat, member, true, .splat⟩
  rcases List.mem_map.1 present with ⟨⟨name, required⟩, isParam, rfl⟩
  refine ⟨?_, optional⟩
  rw [← optional]
  constructor
  · intro isRequired isOptional
    have same := List.inj_on_of_nodup_map reads.distinct isRequired isOptional rfl
    cases same
  · intro notOptional
    cases required with
    | false => exact absurd isParam notOptional
    | true => exact isParam

end Params

theorem FullPath.reads_ofLineage (lineage : List Route) :
    Params.Reads (parts lineage) (Params.ofPath (ofLineage lineage)) := by
  rw [Params.ofPath, Params.declarations_eq_filterMap_words, words_ofLineage]
  exact Params.reads_declareAll _

/-! ## What is generated -/

namespace Declaration

open Param (splat)
open Params (HasSplat SplatOptional)

def requiredSplatLine : Text := "    \"*\": string;"

def optionalSplatLine : Text := "    \"*\"?: string;"

theorem memberLine_splat_true : memberLine 2 ⟨splat, true⟩ = requiredSplatLine := by
  decide

theorem memberLine_splat_false : memberLine 2 ⟨splat, false⟩ = optionalSplatLine := by
  decide

/-- One of the members declares the catch-all, as optional under a condition and as required
otherwise. -/
structure WritesSplat (members : List Text) (optional : Prop) : Prop where
  required_iff : requiredSplatLine ∈ members ↔ ¬ optional
  optional_iff : optionalSplatLine ∈ members ↔ optional

/-- What the texts for a route with a given lineage say of the catch-all. -/
structure DeclaresSplat (frameworkModule : Text) (snapshot : Snapshot) (route : Route)
    (lineage : List Route) : Prop where
  file : ∃ text, routeFile frameworkModule snapshot route = .ok text ∧
    WritesSplat (membersIn paramsOpening text) (SplatOptional (FullPath.parts lineage))
  register : ∃ text path, register frameworkModule snapshot = .ok text ∧
    snapshot.tree.fullPath route.id = .ok path ∧
      WritesSplat (membersIn (entryOpening path) text) (SplatOptional (FullPath.parts lineage))

variable {params : Params} {optional : Prop}

theorem writesSplat_members (has : HasSplat params optional) :
    WritesSplat (params.map (memberLine 2)) optional where
  required_iff := by
    rw [← memberLine_splat_true, List.mem_map_of_injective (memberLine_injective 2), has.required_iff]
  optional_iff := by
    rw [← memberLine_splat_false, List.mem_map_of_injective (memberLine_injective 2),
      has.optional_iff]

variable {rootId : Text} {routes lineage : List Route} {route : Route} {snapshot : Snapshot}

theorem declaresSplat_of_lineage (frameworkModule : Text)
    (built : RouteTree.build rootId routes = .ok snapshot.tree) (declared : route ∈ snapshot.routes)
    (isLineage : snapshot.tree.lineage route.id = .ok lineage)
    (member : splat ∈ FullPath.parts lineage) :
    DeclaresSplat frameworkModule snapshot route lineage := by
  have has := (FullPath.reads_ofLineage lineage).hasSplat member
  have nonempty : FullPath.ofLineage lineage ≠ [] := by
    intro empty
    rw [empty] at has
    exact has.ne_nil rfl
  constructor
  · refine ⟨routeFileOf frameworkModule snapshot route lineage, by rw [routeFile, isLineage]; rfl, ?_⟩
    rw [membersIn_routeFileOf _ _ _ has.ne_nil]
    exact writesSplat_members has
  · rcases exists_isRegister built with ⟨entries, registered, isRegister⟩
    have isPath := RouteTree.fullPath_eq_ok_iff.2 ⟨lineage, isLineage, rfl⟩
    refine ⟨registerOf frameworkModule snapshot.future entries, _, by rw [register, registered]; rfl,
      isPath, ?_⟩
    rw [membersIn_registerOf _ _ isRegister.distinct (isRegister.mem declared isPath nonempty)
      has.ne_nil]
    exact writesSplat_members has

/-- In a path with a segment `*`, and for a route with such a segment on its lineage, the catch-all is
required unless `:*?` is the last segment that declares it.  Both texts are generated, and both say
so. -/
theorem splat_flag (frameworkModule : Text)
    (built : RouteTree.build rootId routes = .ok snapshot.tree) :
    (∀ path, splat ∈ Text.pieces '/' path →
      HasSplat (Params.ofPath path) (SplatOptional (Text.pieces '/' path))) ∧
    ∀ route ∈ snapshot.routes, ∃ lineage, snapshot.tree.lineage route.id = .ok lineage ∧
      (splat ∈ FullPath.parts lineage → DeclaresSplat frameworkModule snapshot route lineage) := by
  constructor
  · exact fun path => (Params.reads_declareAll (Text.pieces '/' path)).hasSplat
  · intro route declared
    rcases RouteTree.exists_lineage built declared with ⟨lineage, isLineage⟩
    exact ⟨lineage, isLineage, declaresSplat_of_lineage frameworkModule built declared isLineage⟩

/-- Below an optional catch-all, a layout makes it required, and its child makes it optional again. -/
theorem splat_flag_of_alternating :
    let root : Route := { id := "root", path := some ":*?" }
    let layout : Route := { id := "a", path := some "b/*" }
    let route : Route := { id := "a/c", path := some "/:*?/" }
    let snapshot : Snapshot := ⟨"app", "production", {}, ⟨"root", [root, layout, route], _, _, rfl, rfl⟩⟩
    RouteTree.build "root" [root, layout, route] = .ok snapshot.tree ∧
      HasSplat (Params.ofPath ":*?/b/*") (SplatOptional (Text.pieces '/' ":*?/b/*")) ∧
      DeclaresSplat "f" snapshot layout [root, layout] ∧
      ¬ SplatOptional (FullPath.parts [root, layout]) ∧
      DeclaresSplat "f" snapshot route [root, layout, route] ∧
      SplatOptional (FullPath.parts [root, layout, route]) := by
  intro root layout route snapshot
  have built : RouteTree.build "root" [root, layout, route] = .ok snapshot.tree := by rfl
  rcases splat_flag "f" built with ⟨paths, declares⟩
  refine ⟨built, paths ":*?/b/*" (by decide), ?_, by decide, ?_, by decide⟩
  · rcases declares layout (by decide) with ⟨lineage, isLineage, declares⟩
    cases isLineage
    exact declares (by decide)
  · rcases declares route (by decide) with ⟨lineage, isLineage, declares⟩
    cases isLineage
    exact declares (by decide)

/-- A segment `*` is not enough: what declares the catch-all behind it may make it optional. -/
theorem splat_optional_when_redeclared :
    let root : Route := { id := "root", path := some "*/:*?" }
    let snapshot : Snapshot := ⟨"app", "production", {}, ⟨"root", [root], _, _, rfl, rfl⟩⟩
    splat ∈ Text.pieces '/' "*/:*?" ∧ ⟨splat, true⟩ ∉ Params.ofPath "*/:*?" ∧
      RouteTree.build "root" [root] = .ok snapshot.tree ∧
      (∃ text, routeFile "f" snapshot root = .ok text ∧
        optionalSplatLine ∈ membersIn paramsOpening text) ∧
      ∃ text, register "f" snapshot = .ok text ∧
        optionalSplatLine ∈ membersIn (entryOpening "*/:*?") text := by
  intro root snapshot
  refine ⟨by decide, by decide, by rfl, ⟨_, rfl, ?_⟩, ⟨_, rfl, ?_⟩⟩
  · decide +kernel
  · decide +kernel

end Declaration
end TypedRoutes
