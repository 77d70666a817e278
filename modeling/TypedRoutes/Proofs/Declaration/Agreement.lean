import TypedRoutes.Proofs.Declaration.Fields
import TypedRoutes.Proofs.Declaration.Register

namespace TypedRoutes

/-!
# The register and the declaration files agree

A declaration file states the full path of its route and the parameters of this path, and the register
lists both once more.  The two texts come about in different ways, and several routes may share one
full path; they agree nevertheless, word for word.  The capabilities of the framework are declared
twice too, at the end of the register and at the end of the root's file, and by no other file.
-/

namespace Declaration

/-! ## The capabilities of the framework -/

/-- The line of the block that opens the interface of the capabilities. -/
def interfaceLine : Text := "  interface Future \x7b"

/-- A text that holds the block of the capabilities, whatever they are, has its second line. -/
theorem interfaceLine_mem_of_infix {frameworkModule t : Text} {future : FutureFlags}
    (within : futureBlock frameworkModule future <:+: t) : interfaceLine ∈ Text.pieces '\n' t := by
  rw [futureBlock_eq, futureLines, Text.unlines_cons, Text.unlines_cons] at within
  exact Text.mem_pieces_of_infix (by decide) within

/-- Of the declaration files, only that of the root declares capabilities. -/
theorem interfaceLine_not_mem_routeLines (frameworkModule : Text) {snapshot : Snapshot}
    {route : Route} (notRoot : route.id ≠ snapshot.tree.rootId) (lineage : List Route) :
    interfaceLine ∉ routeLines frameworkModule snapshot route lineage := by
  have imports (specifiers : List Text) : interfaceLine ∉ importBlockLines specifiers :=
    fun member => absurd (begins_of_mem_importBlockLines member) (by decide)
  have object (after : Text) (params : Params) :
      interfaceLine ∉ objectLines "  params: " after params 1 :=
    fun member => absurd (begins_of_mem_objectLines member) (by decide)
  have names : interfaceLine ∉ namespaceLines := by decide
  unfold routeLines infoLines parentsLine capabilityLines
  rw [if_neg notRoot]
  simp only [List.mem_append, not_or]
  unfold interfaceLine at imports object names ⊢
  exact ⟨⟨⟨⟨by simp, imports _⟩, ⟨by simp, object _ _⟩, by simp⟩, names⟩, by simp⟩

theorem futureBlock_suffix_registerOf (frameworkModule : Text) (future : FutureFlags)
    (entries : List (Text × Params)) :
    futureBlock frameworkModule future <:+ registerOf frameworkModule future entries :=
  List.suffix_append _ _

theorem futureBlock_suffix_routeFileOf (frameworkModule : Text) {snapshot : Snapshot}
    {route : Route} (isRoot : route.id = snapshot.tree.rootId) (lineage : List Route) :
    futureBlock frameworkModule snapshot.future <:+
      routeFileOf frameworkModule snapshot route lineage := by
  unfold routeFileOf capabilities
  rw [if_pos isRoot]
  exact (List.suffix_cons _ _).trans (List.suffix_append _ _)

theorem not_futureBlock_infix_routeFileOf (frameworkModule : Text) {snapshot : Snapshot}
    {route : Route} (notRoot : route.id ≠ snapshot.tree.rootId) (lineage : List Route)
    (name : Text) (future : FutureFlags) :
    ¬ futureBlock name future <:+: routeFileOf frameworkModule snapshot route lineage := by
  intro within
  have isLine := interfaceLine_mem_of_infix within
  rw [routeFileOf_eq, Text.pieces_unlines (newline_not_mem_routeLines _ _ _ _), List.mem_append,
    List.mem_singleton] at isLine
  rcases isLine with isLine | isEmpty
  · exact interfaceLine_not_mem_routeLines frameworkModule notRoot lineage isLine
  · exact absurd isEmpty (by decide)

/-! ## Both texts -/

/-- What a declaration file and the register say of a full path: the file states it and begins the
type of the parameters with an object type, and the one field that the register has for it has this
object type. -/
structure SaidAlike (path file register : Text) : Prop where
  fullPath : fieldsNamed "fullpath" (fieldsIn infoOpening file) =
    [["  fullpath: " ++ Text.quote path ++ ";"]]
  params : fieldsNamed "params" (fieldsIn infoOpening file) =
    [Text.pieces '\n' ("  params: " ++ paramsObject (Params.ofPath path) 1 ++
      " & \x7b [key: string]: string | undefined \x7d;")]
  registered : fieldsNamed (Text.quote path) (fieldsIn mapOpening register) =
    [Text.pieces '\n' ("  " ++ Text.quote path ++ ": " ++ paramsObject (Params.ofPath path) 1 ++ ";")]

variable {rootId : Text} {routes lineage : List Route} {route : Route} {snapshot : Snapshot}

theorem saidAlike_of_lineage (frameworkModule : Text) {entries : List (Text × Params)}
    (isRegister : IsRegister snapshot.tree entries) (declared : route ∈ snapshot.routes)
    (isLineage : snapshot.tree.lineage route.id = .ok lineage)
    (nonempty : FullPath.ofLineage lineage ≠ []) :
    SaidAlike (FullPath.ofLineage lineage) (routeFileOf frameworkModule snapshot route lineage)
      (registerOf frameworkModule snapshot.future entries) := by
  have isPath := RouteTree.fullPath_eq_ok_iff.2 ⟨lineage, isLineage, rfl⟩
  have member := isRegister.mem declared isPath nonempty
  constructor
  · rw [fieldsIn_routeFileOf, (fieldsNamed_infoFields _ _ _).1]
  · rw [fieldsIn_routeFileOf, (fieldsNamed_infoFields _ _ _).2,
      pieces_paramsObject (by simp) (by simp)]
  · rw [fieldsIn_registerOf _ _ (List.ne_nil_of_mem member),
      fieldsNamed_entries isRegister.distinct member, pieces_paramsObject (by simp) (by simp),
      entryLines]

/-- The register and the declaration file of every route say the same of a full path that is not
empty, and the block at the end of the register ends the file of the root and stands in no other. -/
theorem register_agrees (frameworkModule : Text)
    (built : RouteTree.build rootId routes = .ok snapshot.tree) :
    ∃ register, Declaration.register frameworkModule snapshot = .ok register ∧
      futureBlock frameworkModule snapshot.future <:+ register ∧
      (∃ root ∈ snapshot.routes, root.id = snapshot.tree.rootId) ∧
      ∀ route ∈ snapshot.routes, ∃ path file, snapshot.tree.fullPath route.id = .ok path ∧
        routeFile frameworkModule snapshot route = .ok file ∧
        (path ≠ [] → SaidAlike path file register) ∧
        (route.id = snapshot.tree.rootId →
          futureBlock frameworkModule snapshot.future <:+ file) ∧
        (route.id ≠ snapshot.tree.rootId → ∀ name future, ¬ futureBlock name future <:+: file) := by
  rcases exists_isRegister built with ⟨entries, registered, isRegister⟩
  have root : ∃ root ∈ snapshot.routes, root.id = snapshot.tree.rootId := by
    rcases RouteTree.wellFormed_of_build built with ⟨isRoot, isRoutes, wellFormed⟩
    rw [Snapshot.routes, isRoot, isRoutes]
    exact List.mem_map.1 wellFormed.root
  refine ⟨registerOf frameworkModule snapshot.future entries, by rw [register, registered]; rfl,
    futureBlock_suffix_registerOf _ _ _, root, fun route declared => ?_⟩
  rcases RouteTree.exists_lineage built declared with ⟨lineage, isLineage⟩
  refine ⟨FullPath.ofLineage lineage, routeFileOf frameworkModule snapshot route lineage,
    RouteTree.fullPath_eq_ok_iff.2 ⟨lineage, isLineage, rfl⟩, by rw [routeFile, isLineage]; rfl,
    ?_, ?_, ?_⟩
  · exact saidAlike_of_lineage frameworkModule isRegister declared isLineage
  · exact fun isRoot => futureBlock_suffix_routeFileOf frameworkModule isRoot lineage
  · exact fun notRoot => not_futureBlock_infix_routeFileOf frameworkModule notRoot lineage

/-- Two routes that share a full path share its entry. -/
theorem register_agrees_layered :
    RouteTree.build ['r'] Snapshot.layered.routes = .ok Snapshot.layered.tree ∧
      ∃ register file other, Declaration.register "f" Snapshot.layered = .ok register ∧
        routeFile "f" Snapshot.layered { id := ['z'], path := some ['b'], parentId := some ['x'] } =
          .ok file ∧
        routeFile "f" Snapshot.layered { id := ['i'], parentId := some ['z'], index := true } =
          .ok other ∧
        SaidAlike "a/b" file register ∧ SaidAlike "a/b" other register := by
  have built : RouteTree.build ['r'] Snapshot.layered.routes = .ok Snapshot.layered.tree := by rfl
  rcases register_agrees "f" built with ⟨register, isRegister, -, -, agree⟩
  rcases agree { id := ['z'], path := some ['b'], parentId := some ['x'] } (by decide) with
    ⟨path, file, isPath, isFile, alike, -, -⟩
  rcases agree { id := ['i'], parentId := some ['z'], index := true } (by decide) with
    ⟨same, other, isSame, isOther, alikeToo, -, -⟩
  cases isPath
  cases isSame
  exact ⟨built, register, file, other, isRegister, isFile, isOther, alike (by decide),
    alikeToo (by decide)⟩

end Declaration
end TypedRoutes
