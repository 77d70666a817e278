import TypedRoutes.Proofs.Route.Coherence

namespace TypedRoutes

/-!
# Full paths of declared routes

A full path is empty only where no route on the lineage has a pattern: joining, writing runs of `/`
once and dropping a `/` at the end all keep a path from vanishing.  A route without a pattern has the
full path of its parent, so every full path is also that of a route which has a pattern or is the
root.
-/

namespace Text

variable {sep : Char} {pieces : List Text}

/-- Pieces that are not empty do not vanish when they are glued. -/
theorem glue_eq_nil_iff (nonempty : ∀ piece ∈ pieces, piece ≠ []) :
    glue sep pieces = [] ↔ pieces = [] := by
  cases pieces with
  | nil => exact ⟨fun _ => rfl, fun _ => rfl⟩
  | cons first rest =>
      have notNil := nonempty first List.mem_cons_self
      cases rest with
      | nil => simp [glue, notNil]
      | cons second rest => simp [glue]

end Text

namespace Route

variable {route : Route} {pattern : Text}

theorem segment?_eq_some_iff :
    route.segment? = some pattern ↔ route.path = some pattern ∧ pattern ≠ [] := by
  simp [segment?, Option.filter_eq_some_iff]

end Route

namespace FullPath

variable {t : Text} {lineage : List Route} {route : Route}

/-! ## Empty full paths -/

theorem squeeze_eq_nil_iff : squeeze t = [] ↔ t = [] := by
  induction t with
  | nil => exact ⟨fun _ => rfl, fun _ => rfl⟩
  | cons c rest ih =>
      cases rest with
      | nil => simp [squeeze]
      | cons d rest =>
          rw [squeeze]
          split
          · rw [ih]
            simp
          · simp

theorem dropTrailing_eq_nil_iff : dropTrailing t = [] ↔ t = [] := by
  unfold dropTrailing
  split
  case isTrue long =>
    rw [← List.length_eq_zero_iff, ← List.length_eq_zero_iff, List.length_dropLast]
    omega
  case isFalse => rfl

theorem segment_ne_nil : ∀ pattern ∈ lineage.filterMap Route.segment?, pattern ≠ [] := by
  intro pattern member
  rcases List.mem_filterMap.1 member with ⟨passed, -, isSegment⟩
  exact (Route.segment?_eq_some_iff.1 isSegment).2

/-- A full path is empty where no route on the lineage has a pattern, and nowhere else. -/
theorem ofLineage_eq_nil_iff :
    ofLineage lineage = [] ↔ ∀ passed ∈ lineage, passed.segment? = none := by
  rw [ofLineage, ofPatterns, dropTrailing_eq_nil_iff, squeeze_eq_nil_iff,
    Text.glue_eq_nil_iff segment_ne_nil, List.filterMap_eq_nil_iff]

/-- A route without a pattern adds nothing to the full path. -/
theorem ofLineage_concat_of_none (none : route.segment? = none) :
    ofLineage (lineage ++ [route]) = ofLineage lineage := by
  rw [ofLineage, List.filterMap_append, List.filterMap_cons_none none, List.filterMap_nil,
    List.append_nil, ofLineage]

end FullPath

namespace RouteTree

variable {tree : RouteTree} {route : Route} {way : List Route} {path id : Text}

/-! ## Full paths along the way to the root -/

/-- The full path of an id is that of its lineage. -/
theorem fullPath_eq_ok_iff :
    tree.fullPath id = .ok path ↔
      ∃ lineage, tree.lineage id = .ok lineage ∧ FullPath.ofLineage lineage = path := by
  unfold fullPath
  cases tree.lineage id <;> simp [Except.map]

theorem fullPath_of_ascent (declared : route ∈ tree.routes) (ascent : Ascent tree route way) :
    tree.fullPath route.id = .ok (FullPath.ofLineage way.reverse) :=
  fullPath_eq_ok_iff.2 ⟨way.reverse, ascent.lineage_eq declared, rfl⟩

/-- On the way up from a route, the nearest that has a pattern or is the root has the same full
path. -/
theorem Ascent.exists_nearest (ascent : Ascent tree route way) (declared : route ∈ tree.routes) :
    ∃ nearest ∈ tree.routes, (nearest.id = tree.rootId ∨ nearest.segment? ≠ none) ∧
      ∃ rest, Ascent tree nearest rest ∧
        FullPath.ofLineage rest.reverse = FullPath.ofLineage way.reverse := by
  induction ascent with
  | root isRoot => exact ⟨_, declared, .inl isRoot, _, .root isRoot, rfl⟩
  | @step route parent above notRoot isParent rest ih =>
      cases segment : route.segment? with
      | some pattern =>
          exact ⟨route, declared, .inr (by simp [segment]), _, .step notRoot isParent rest, rfl⟩
      | none =>
          rcases ih (mem_of_find? isParent) with ⟨nearest, isDeclared, has, way, ascent, same⟩
          refine ⟨nearest, isDeclared, has, way, ascent, ?_⟩
          rw [List.reverse_cons, FullPath.ofLineage_concat_of_none segment, same]

/-- Every full path of a declared route is also that of the root or of a route with a pattern. -/
theorem exists_same_fullPath (declared : route ∈ tree.routes)
    (isPath : tree.fullPath route.id = .ok path) :
    ∃ nearest ∈ tree.routes, (nearest.id = tree.rootId ∨ nearest.segment? ≠ none) ∧
      tree.fullPath nearest.id = .ok path := by
  rcases fullPath_eq_ok_iff.1 isPath with ⟨lineage, isLineage, rfl⟩
  have ascent := (lineage_eq_ok_iff declared).1 isLineage
  rcases ascent.exists_nearest declared with ⟨nearest, isDeclared, has, way, ascentNearest, same⟩
  refine ⟨nearest, isDeclared, has, ?_⟩
  rw [fullPath_of_ascent isDeclared ascentNearest, same, List.reverse_reverse]

end RouteTree
end TypedRoutes
