import TypedRoutes.Proofs.Route.Joining
import TypedRoutes.Proofs.Route.Params
import TypedRoutes.Proofs.Route.Tree

namespace TypedRoutes

/-!
# Parameters are handed down

The segments of a full path are those of the patterns along the lineage: joining neither merges nor
splits nor drops one.  The parameters of a route are therefore those of its parent with its own
declared behind them.  From ancestor to descendant names keep their places, and a flag changes only
where a route in between declares the name again.
-/

/-! ## Declaring several parameters -/

namespace Params

variable {params more : Params} {param first second : Param}

theorem declareAll_append (params : Params) (early late : List Param) :
    declareAll params (early ++ late) = declareAll (declareAll params early) late :=
  List.foldl_append

theorem nodup_names_declareAll (distinct : (params.map Param.name).Nodup) (late : List Param) :
    ((declareAll params late).map Param.name).Nodup := by
  induction late generalizing params with
  | nil => exact distinct
  | cons next late ih => exact ih (nodup_names_declare distinct)

/-- Of two declarations of one name, the second counts. -/
theorem declare_declare_of_same (same : first.name = second.name) :
    declare (declare params first) second = declare params second := by
  induction params with
  | nil => simp only [declare, if_pos same]
  | cons old rest ih =>
      by_cases there : old.name = first.name
      · simp only [declare, if_pos there, if_pos same, if_pos (there.trans same)]
      · have notThere : old.name ≠ second.name := fun again => there (again.trans same.symm)
        simp only [declare, if_neg there, if_neg notThere, ih]

/-- A name that has its place may be declared before or after another name. -/
theorem declare_declare_comm (present : first.name ∈ params.map Param.name)
    (different : first.name ≠ second.name) :
    declare (declare params second) first = declare (declare params first) second := by
  induction params with
  | nil => cases present
  | cons old rest ih =>
      by_cases isFirst : old.name = first.name
      · have notSecond : old.name ≠ second.name := fun same => different (isFirst.symm.trans same)
        simp only [declare, if_pos isFirst, if_neg notSecond, if_neg different]
      · have later : first.name ∈ rest.map Param.name := by
          rcases List.mem_cons.1 present with same | later
          · exact absurd same.symm isFirst
          · exact later
        by_cases isSecond : old.name = second.name
        · simp only [declare, if_pos isSecond, if_neg isFirst, if_neg different.symm]
        · simp only [declare, if_neg isSecond, if_neg isFirst, ih later]

theorem declare_declareAll_comm {late : List Param} (present : first.name ∈ params.map Param.name)
    (different : ∀ next ∈ late, first.name ≠ next.name) :
    declare (declareAll params late) first = declareAll (declare params first) late := by
  induction late generalizing params with
  | nil => rfl
  | cons next late ih =>
      have presentStill : first.name ∈ (declare params next).map Param.name :=
        mem_names_declare.2 (.inr present)
      calc declare (declareAll (declare params next) late) first
          = declareAll (declare (declare params next) first) late :=
            ih presentStill fun other member => different other (List.mem_cons_of_mem _ member)
        _ = declareAll (declare (declare params first) next) late := by
            rw [declare_declare_comm present (different next List.mem_cons_self)]

/-- Declaring a list with one parameter more is declaring that parameter last. -/
theorem declareAll_declare (distinct : (more.map Param.name).Nodup) :
    declareAll params (declare more param) = declare (declareAll params more) param := by
  induction more generalizing params with
  | nil => rfl
  | cons old rest ih =>
      rw [List.map_cons, List.nodup_cons] at distinct
      by_cases same : old.name = param.name
      · have others : ∀ next ∈ rest, param.name ≠ next.name := by
          intro next member again
          exact distinct.1 (List.mem_map.2 ⟨next, member, (same.trans again).symm⟩)
        have present : param.name ∈ (declare params old).map Param.name :=
          mem_names_declare.2 (.inl same.symm)
        calc declareAll params (declare (old :: rest) param)
            = declareAll (declare params param) rest := by rw [declare, if_pos same]; rfl
          _ = declareAll (declare (declare params old) param) rest := by
              rw [declare_declare_of_same same]
          _ = declare (declareAll (declare params old) rest) param :=
              (declare_declareAll_comm present others).symm
      · rw [declare, if_neg same]
        exact ih distinct.2

/-- Declaring what a path declares, each name once, is declaring it segment by segment. -/
theorem declareAll_declareAll (params : Params) (late : List Param) :
    declareAll params (declareAll [] late) = declareAll params late := by
  induction late using List.reverseRecOn with
  | nil => rfl
  | append_singleton late last ih =>
      calc declareAll params (declareAll [] (late ++ [last]))
          = declareAll params (declare (declareAll [] late) last) := by
            rw [declareAll_append]; rfl
        _ = declare (declareAll params (declareAll [] late)) last :=
            declareAll_declare (@nodup_names_declareAll [] List.nodup_nil late)
        _ = declareAll params (late ++ [last]) := by rw [ih, declareAll_append]; rfl

/-- Names keep their places. -/
theorem names_prefix_declareAll (params : Params) (late : List Param) :
    params.map Param.name <+: (declareAll params late).map Param.name := by
  induction late generalizing params with
  | nil => exact List.prefix_rfl
  | cons next late ih =>
      refine List.IsPrefix.trans ?_ (ih (declare params next))
      rw [names_declare]
      split
      case isTrue => exact List.prefix_rfl
      case isFalse => exact List.prefix_append _ _

theorem mem_declare_self (params : Params) (param : Param) : param ∈ declare params param := by
  induction params with
  | nil => exact List.mem_singleton_self _
  | cons old rest ih =>
      rw [declare]
      split
      · exact List.mem_cons_self
      · exact List.mem_cons_of_mem _ ih

theorem mem_declare_of_ne (member : first ∈ params) (different : first.name ≠ second.name) :
    first ∈ declare params second := by
  induction params with
  | nil => cases member
  | cons old rest ih =>
      rw [declare]
      rcases List.mem_cons.1 member with rfl | later
      · rw [if_neg different]
        exact List.mem_cons_self
      · split
        · exact List.mem_cons_of_mem _ later
        · exact List.mem_cons_of_mem _ (ih later)

/-- A parameter stays as it is, or is replaced by a later declaration of its name. -/
theorem exists_mem_declareAll {late : List Param} (member : param ∈ params) :
    ∃ kept ∈ declareAll params late, kept.name = param.name ∧ (kept = param ∨ kept ∈ late) := by
  induction late generalizing params param with
  | nil => exact ⟨param, member, rfl, .inl rfl⟩
  | cons next late ih =>
      by_cases same : param.name = next.name
      · rcases ih (mem_declare_self params next) with ⟨kept, isKept, isName, origin⟩
        refine ⟨kept, isKept, isName.trans same.symm, .inr ?_⟩
        rcases origin with rfl | later
        · exact List.mem_cons_self
        · exact List.mem_cons_of_mem _ later
      · rcases ih (mem_declare_of_ne member same) with ⟨kept, isKept, isName, origin⟩
        exact ⟨kept, isKept, isName, origin.imp_right (List.mem_cons_of_mem _)⟩

/-- An empty segment declares nothing, so the words of a path are enough to read it. -/
theorem declarations_eq_filterMap_words (path : Text) :
    declarations path = (Text.words '/' path).filterMap Param.ofSegment? := by
  rw [declarations, Text.words, List.filterMap_filter]
  refine List.filterMap_congr fun segment _ => ?_
  by_cases empty : segment = []
  · rw [empty]
    rfl
  · simp [empty]

end Params

/-! ## What routes declare -/

namespace Route

/-- What the pattern of a route declares, repetitions included. -/
def declarations (route : Route) : List Param := (route.segment?.map Params.declarations).getD []

/-- The parameters of a route's own pattern; a route without one has none. -/
def params (route : Route) : Params := (route.segment?.map Params.ofPath).getD []

/-- A segment of the route's pattern declares the parameter. -/
def Declares (route : Route) (param : Param) : Prop :=
  ∃ pattern, route.path = some pattern ∧
    ∃ segment ∈ Text.pieces '/' pattern, Param.Declares segment param

variable {route : Route} {param : Param}

theorem params_eq_declareAll : route.params = Params.declareAll [] route.declarations := by
  unfold params declarations
  cases route.segment? with
  | none => rfl
  | some pattern => rfl

theorem declares_of_mem_declarations (member : param ∈ route.declarations) :
    route.Declares param := by
  cases has : route.segment? with
  | none => simp [declarations, has] at member
  | some pattern =>
      simp only [declarations, has, Option.map_some, Option.getD_some, Params.declarations,
        List.mem_filterMap, Param.ofSegment?_eq_some_iff] at member
      exact ⟨pattern, (segment?_eq_some_iff.1 has).1, member⟩

end Route

namespace FullPath

/-- A full path declares what the patterns along the lineage declare. -/
theorem declarations_ofLineage (lineage : List Route) :
    Params.declarations (ofLineage lineage) = lineage.flatMap Route.declarations := by
  rw [Params.declarations_eq_filterMap_words, words_ofLineage]
  induction lineage with
  | nil => rfl
  | cons route lineage ih =>
      have own : (parts [route]).filterMap Param.ofSegment? = route.declarations := by
        cases has : route.segment? with
        | none => simp [parts, Route.declarations, has]
        | some pattern =>
            simp [parts, Route.declarations, has, Params.declarations_eq_filterMap_words]
      rw [← List.singleton_append, parts_append, List.filterMap_append, own, ih]
      rfl

/-- The parameters along a longer lineage are those of the shorter one, with more declared. -/
theorem ofPath_ofLineage_append (above below : List Route) :
    Params.ofPath (ofLineage (above ++ below)) =
      (Params.ofPath (ofLineage above)).declareAll (below.flatMap Route.declarations) := by
  rw [Params.ofPath, declarations_ofLineage, List.flatMap_append, Params.declareAll_append,
    ← declarations_ofLineage]
  rfl

end FullPath

/-! ## Ancestors -/

namespace RouteTree

variable {tree : RouteTree} {rootId : Text} {routes lineage before after : List Route}
  {route ancestor : Route}

/-- Behind any route on it, a way up is the way up of that route. -/
theorem Ascent.of_append {front back : List Route}
    (ascent : Ascent tree route (front ++ ancestor :: back)) :
    Ascent tree ancestor (ancestor :: back) := by
  induction front generalizing route with
  | nil =>
      rcases ascent.exists_cons with ⟨above, shape⟩
      cases shape
      exact ascent
  | cons first front ih =>
      generalize whole : first :: front ++ ancestor :: back = way at ascent
      cases ascent with
      | root _ => simp at whole
      | step _ _ rest =>
          rw [List.cons_append, List.cons.injEq] at whole
          rw [← whole.2] at rest
          exact ih rest

/-- The lineage of an ancestor is the part of the lineage that leads to it. -/
theorem lineage_of_mem_lineage (declared : route ∈ tree.routes)
    (isLineage : tree.lineage route.id = .ok (before ++ ancestor :: after)) :
    tree.lineage ancestor.id = .ok (before ++ [ancestor]) := by
  have ascent := (lineage_eq_ok_iff declared).1 isLineage
  have passed : ancestor ∈ tree.routes := ascent.declared declared ancestor (by simp)
  rw [lineage_eq_ok_iff passed]
  rw [List.reverse_append, List.reverse_cons, List.append_assoc, List.singleton_append] at ascent
  simpa using ascent.of_append

/-- The lineage of a route other than the root is that of its parent, and the route. -/
theorem exists_parent_of_lineage (declared : route ∈ tree.routes) (notRoot : route.id ≠ tree.rootId)
    (isLineage : tree.lineage route.id = .ok lineage) :
    ∃ parent above, tree.parent? route.id = some parent ∧ tree.lineage parent.id = .ok above ∧
      lineage = above ++ [route] := by
  have ascent := (lineage_eq_ok_iff declared).1 isLineage
  generalize upward : lineage.reverse = way at ascent
  cases ascent with
  | root isRoot => exact absurd isRoot notRoot
  | @step _ parent above _ isParent rest =>
      refine ⟨parent, above.reverse, ?_, ?_, ?_⟩
      · exact (parent?_eq_some_iff declared).2 ⟨notRoot, isParent⟩
      · exact rest.lineage_eq (mem_of_find? isParent)
      · rw [← List.reverse_reverse lineage, upward, List.reverse_cons]

/-- What parameters become on the way down through some routes. -/
structure HandedDown (params : Params) (through : List Route) (result : Params) : Prop where
  /-- All names are there, in the same order and before any others. -/
  names : params.map Param.name <+: result.map Param.name
  /-- A parameter is unchanged where none of the routes declares its name again. -/
  flags : ∀ param ∈ params, ∃ kept ∈ result, kept.name = param.name ∧
    (kept = param ∨ ∃ route ∈ through, route.Declares kept)

/-- Where a route's parameters come from. -/
structure Inherits (tree : RouteTree) (route : Route) : Prop where
  parent : ∃ parent above path, tree.parent? route.id = some parent ∧
    tree.fullPath parent.id = .ok above ∧ tree.fullPath route.id = .ok path ∧
      Params.ofPath path = (Params.ofPath above).declareAll route.params
  ancestors : ∃ lineage path, tree.lineage route.id = .ok lineage ∧
    tree.fullPath route.id = .ok path ∧
      ∀ before ancestor after, lineage = before ++ ancestor :: after →
        ∃ above, tree.fullPath ancestor.id = .ok above ∧
          HandedDown (Params.ofPath above) after (Params.ofPath path)

theorem handedDown_ofLineage (above through : List Route) :
    HandedDown (Params.ofPath (FullPath.ofLineage above)) through
      (Params.ofPath (FullPath.ofLineage (above ++ through))) where
  names := by
    rw [FullPath.ofPath_ofLineage_append]
    exact Params.names_prefix_declareAll _ _
  flags param member := by
    rw [FullPath.ofPath_ofLineage_append]
    rcases Params.exists_mem_declareAll member with ⟨kept, isKept, isName, origin⟩
    refine ⟨kept, isKept, isName, origin.imp_right fun later => ?_⟩
    rcases List.mem_flatMap.1 later with ⟨route, passed, declares⟩
    exact ⟨route, passed, Route.declares_of_mem_declarations declares⟩

/-- In a tree that was built, every route other than the root has the parameters of its parent with
its own declared behind them, and takes over those of all its ancestors. -/
theorem inherits_of_build (built : build rootId routes = .ok tree) (declared : route ∈ routes)
    (notRoot : route.id ≠ rootId) : Inherits tree route := by
  rcases wellFormed_of_build built with ⟨rfl, rfl, -⟩
  rcases exists_lineage built declared with ⟨lineage, isLineage⟩
  have isPath := fullPath_eq_ok_iff.2 ⟨lineage, isLineage, rfl⟩
  rcases exists_parent_of_lineage declared notRoot isLineage with
    ⟨parent, above, isParent, isAbove, rfl⟩
  constructor
  · refine ⟨parent, _, _, isParent, fullPath_eq_ok_iff.2 ⟨above, isAbove, rfl⟩, isPath, ?_⟩
    rw [FullPath.ofPath_ofLineage_append, Route.params_eq_declareAll, Params.declareAll_declareAll]
    simp
  · refine ⟨_, _, isLineage, isPath, fun before ancestor after shape => ?_⟩
    rw [shape] at isLineage
    have isAncestor := lineage_of_mem_lineage declared isLineage
    refine ⟨_, fullPath_eq_ok_iff.2 ⟨_, isAncestor, rfl⟩, ?_⟩
    have continued := handedDown_ofLineage (before ++ [ancestor]) after
    rwa [List.append_assoc, List.singleton_append, ← shape] at continued

/-- The optional `l` of the root stays in front, and the deepest route makes it required. -/
theorem inherits_of_build_redeclared :
    let root : Route := { id := "root", path := some "/:l?" }
    let middle : Route := { id := "a", path := some ":a/" }
    let route : Route := { id := "a/b", path := some "//:b?/:l" }
    let tree : RouteTree := ⟨"root", [route, middle, root], _, _, rfl, rfl⟩
    build "root" [route, middle, root] = .ok tree ∧ route.id ≠ "root" ∧ Inherits tree route ∧
      tree.fullPath route.id = .ok "/:l?/:a/:b?/:l" ∧
      Params.ofPath "/:l?/:a/:b?/:l" = [⟨"l", true⟩, ⟨"a", true⟩, ⟨"b", false⟩] := by
  intro root middle route tree
  have built : build "root" [route, middle, root] = .ok tree := by rfl
  have notRoot : route.id ≠ "root" := by decide
  exact ⟨built, notRoot, inherits_of_build built (by decide) notRoot, by rfl, by rfl⟩

end RouteTree
end TypedRoutes
