import TypedRoutes.Declaration.Register
import TypedRoutes.Declaration.RouteFile
import TypedRoutes.Proofs.Route.FullPath
import TypedRoutes.Proofs.Route.Tree
import TypedRoutes.Proofs.Text.Literal

namespace TypedRoutes

/-!
# What generated text tells

Two generated files are equal only where what they were generated from is equal.  Every value in them
stands in a literal that ends where it says, every list is followed by a text that none of its items
begins like, and a missing value, an empty object and an absent block each have a form that nothing
else takes.
-/

namespace Declaration

open Text

/-! ## Pieces -/

theorem delimited_truth : Delimited truth := Delimited.bool (by decide)

theorem apart_quote {stop : Text} (apart : Apart ['"'] stop) (t : Text) : Apart (quote t) stop :=
  apart.append_left (t.flatMap escapeChar ++ ['"'])

/-- A missing value is written without quotes, and every other with them. -/
theorem delimited_optionalLiteral : Delimited optionalLiteral :=
  Delimited.option delimited_quote (apart_quote (by decide))

theorem indentation_succ (level : Nat) : indentation (level + 1) = indentation level ++ "  " := by
  unfold indentation
  induction level with
  | zero => rfl
  | succ level ih =>
      calc times (level + 2) "  " = "  " ++ times (level + 1) "  " := rfl
        _ = "  " ++ times level "  " ++ "  " := by rw [ih, List.append_assoc]
        _ = times (level + 1) "  " ++ "  " := rfl

theorem delimited_member (level : Nat) : Delimited (member level) := by
  have mark : Delimited fun required : Bool =>
      (if required then [] else ['?']) ++ (": string;\n" : Text) := Delimited.bool (by decide)
  rintro ⟨name, required⟩ ⟨otherName, otherRequired⟩ x y same
  simp only [member, List.append_assoc, List.append_cancel_left_eq] at same
  rcases delimited_quote same with ⟨rfl, sameMark⟩
  rw [← List.append_assoc, ← List.append_assoc (if otherRequired then _ else _)] at sameMark
  rcases mark sameMark with ⟨rfl, rest⟩
  exact ⟨rfl, rest⟩

/-- Where the next member would be indented, the brace of the object is not. -/
theorem apart_member_close (level : Nat) (param : Param) :
    Apart (member (level + 1) param) (indentation level ++ "\x7d") := by
  have apart : Apart ("  " : Text) "\x7d" := by decide
  simp only [member, indentation_succ, List.append_assoc]
  exact (apart.append_left _).after (indentation level)

theorem delimited_paramsObject (level : Nat) :
    Delimited fun params => paramsObject params level := by
  have block : Delimited fun params : Params =>
      ("\x7b\n" : Text) ++ params.flatMap (member (level + 1)) ++ indentation level ++ "\x7d" := by
    have members := ((delimited_member (level + 1)).flatMap (apart_member_close level)).after "\x7b\n"
    simpa only [List.append_assoc] using members
  apply block.orEmpty
  intro params _
  have apart : Apart ("\x7b\n" : Text) "\x7b\x7d" := by decide
  simp only [List.append_assoc]
  exact apart.append_left _

theorem delimited_futureBlock :
    Delimited fun both : Text × FutureFlags => futureBlock both.1 both.2 := by
  rintro ⟨name, flags⟩ ⟨otherName, otherFlags⟩ x y same
  unfold futureBlock at same
  simp only [List.append_assoc, List.append_cancel_left_eq] at same
  rcases delimited_quote same with ⟨rfl, sameRest⟩
  simp only [List.append_cancel_left_eq] at sameRest
  rcases delimited_truth sameRest with ⟨sameFlag, last⟩
  simp only [List.append_cancel_left_eq] at last
  cases flags
  cases otherFlags
  cases sameFlag
  exact ⟨rfl, last⟩

/-! ## Route files -/

theorem delimited_parentImport (position : Nat) : Delimited (parentImport position) := by
  have whole := (delimited_quote.before ";\n").after
    ("import type \x7b Info as Parent" ++ ofNat position ++ " \x7d from ")
  intro a b x y same
  apply whole
  unfold parentImport at same
  simpa only [List.append_assoc] using same

def importOpening : Text := "import type \x7b Info as Parent"

theorem apart_parentImport {stop : Text} (apart : Apart importOpening stop) (position : Nat)
    (specifier : Text) : Apart (parentImport position specifier) stop := by
  unfold parentImport
  simp only [List.append_assoc]
  exact apart.append_left _

/-- The imports end in a blank line.  Whether there are any is told by what follows. -/
theorem delimited_importBlock {stop : Text} (apart : Apart importOpening stop) :
    Delimited fun specifiers => importBlock specifiers ++ stop := by
  have apartBlank : Apart importOpening ['\n'] := by decide
  have imports := (Delimited.positions parentImport parentImports (fun _ => rfl) (fun _ _ _ => rfl)
    delimited_parentImport (apart_parentImport apartBlank) 0).before stop
  have apartImports : ∀ specifiers, specifiers ≠ [] →
      Apart (parentImports 0 specifiers ++ ['\n'] ++ stop) stop := by
    intro specifiers some
    cases specifiers with
    | nil => exact absurd rfl some
    | cons specifier rest =>
        simp only [parentImports, List.append_assoc]
        exact (apart_parentImport apart 0 specifier).append_left _
  have shape : ∀ specifiers, importBlock specifiers ++ stop
      = if specifiers = [] then stop else parentImports 0 specifiers ++ ['\n'] ++ stop := by
    intro specifiers
    unfold importBlock
    split <;> rfl
  simpa only [shape] using imports.orEmpty apartImports

/-- The block of capabilities tells the root from every other route. -/
theorem of_capabilities_eq {name otherName : Text} {before after : Snapshot} {route other : Route}
    (same : capabilities name before route = capabilities otherName after other) :
    (route.id = before.tree.rootId ↔ other.id = after.tree.rootId) ∧
      (route.id = before.tree.rootId →
        name = otherName ∧ before.future.middleware = after.future.middleware) := by
  unfold capabilities at same
  by_cases isRoot : route.id = before.tree.rootId
  · by_cases isRootThere : other.id = after.tree.rootId
    · rw [if_pos isRoot, if_pos isRootThere] at same
      have both : (name, before.future) = (otherName, after.future) :=
        delimited_futureBlock.injective (List.cons.inj same).2
      rcases Prod.mk.inj both with ⟨sameName, sameFuture⟩
      exact ⟨⟨fun _ => isRootThere, fun _ => isRoot⟩, fun _ => ⟨sameName, by rw [sameFuture]⟩⟩
    · rw [if_pos isRoot, if_neg isRootThere] at same
      cases same
  · by_cases isRootThere : other.id = after.tree.rootId
    · rw [if_neg isRoot, if_pos isRootThere] at same
      cases same
    · exact ⟨⟨fun here => absurd here isRoot, fun there => absurd there isRootThere⟩,
        fun here => absurd here isRoot⟩

/-- The text of a route file tells every value of the route that is written into it. -/
theorem of_routeFileOf_eq {name otherName : Text} {before after : Snapshot} {route other : Route}
    {lineage way : List Route}
    (same : routeFileOf name before route lineage = routeFileOf otherName after other way) :
    route.id = other.id ∧ route.file = other.file ∧ route.path = other.path
      ∧ route.index = other.index ∧ FullPath.ofLineage lineage = FullPath.ofLineage way
      ∧ parentSpecifiers before route lineage.dropLast = parentSpecifiers after other way.dropLast
      ∧ capabilities name before route = capabilities otherName after other := by
  unfold routeFileOf infoBlock at same
  simp only [List.append_assoc, List.append_cancel_left_eq] at same
  rw [← List.append_assoc (importBlock _), ← List.append_assoc (importBlock _)] at same
  have apart : Apart importOpening ("export type Info = \x7b\n" : Text) := by decide
  rcases delimited_importBlock apart same with ⟨sameSpecifiers, same⟩
  rw [sameSpecifiers] at same
  simp only [List.append_cancel_left_eq] at same
  rcases delimited_quote same with ⟨sameId, same⟩
  simp only [List.append_cancel_left_eq] at same
  rcases delimited_optionalLiteral same with ⟨sameFile, same⟩
  simp only [List.append_cancel_left_eq] at same
  rcases delimited_optionalLiteral same with ⟨samePath, same⟩
  simp only [List.append_cancel_left_eq] at same
  rcases delimited_quote same with ⟨sameFullPath, same⟩
  simp only [List.append_cancel_left_eq] at same
  rcases delimited_truth same with ⟨sameIndex, same⟩
  -- The parameters are those of the full path, so nothing new is learnt from them.
  rw [sameFullPath] at same
  simp only [List.append_cancel_left_eq] at same
  exact ⟨sameId, sameFile, samePath, sameIndex, sameFullPath, sameSpecifiers, same⟩

/-! ## The register -/

theorem delimited_registerMember : Delimited registerMember := by
  have member := ((delimited_quote.before ": ").pair (delimited_paramsObject 1)).before ";\n"
  intro a b x y same
  unfold registerMember at same
  simp only [List.append_assoc, List.append_cancel_left_eq] at same
  apply member
  simpa only [List.append_assoc] using same

theorem apart_registerMember (entry : Text × Params) :
    Apart (registerMember entry) ("\x7d;\n" : Text) := by
  have apart : Apart ("  " : Text) "\x7d;\n" := by decide
  unfold registerMember
  simp only [List.append_assoc]
  exact apart.append_left _

theorem delimited_registerMap : Delimited registerMap := by
  have block := (delimited_registerMember.flatMap apart_registerMember).after "type Params = \x7b\n"
  have apart : Apart ("type Params = \x7b\n" : Text) "type Params = \x7b\x7d;\n" := by
    decide
  have whole := block.orEmpty fun _ _ => apart.append_left _
  intro entries others x y same
  apply whole
  unfold registerMap at same
  simpa only [List.append_assoc] using same

theorem of_registerOf_eq {name otherName : Text} {flags otherFlags : FutureFlags}
    {entries others : List (Text × Params)}
    (same : registerOf name flags entries = registerOf otherName otherFlags others) :
    name = otherName ∧ flags = otherFlags ∧ entries = others := by
  unfold registerOf at same
  simp only [List.append_assoc, List.append_cancel_left_eq] at same
  rcases delimited_quote same with ⟨rfl, same⟩
  simp only [List.append_cancel_left_eq] at same
  rcases delimited_registerMap same with ⟨rfl, same⟩
  simp only [List.append_cancel_left_eq] at same
  have both : (name, flags) = (name, otherFlags) := delimited_futureBlock.injective same
  exact ⟨rfl, (Prod.mk.inj both).2, rfl⟩

/-! ## What texts tell -/

section

variable (name otherName : Text) (before after : Snapshot)

/-- What two routes agree on whose files are the same. -/
structure SameRoute (route other : Route) : Prop where
  id : route.id = other.id
  file : route.file = other.file
  path : route.path = other.path
  index : route.index = other.index
  fullPath : ∃ path, before.tree.fullPath route.id = .ok path
    ∧ after.tree.fullPath other.id = .ok path
  params : ∃ params, (before.tree.fullPath route.id).map Params.ofPath = .ok params
    ∧ (after.tree.fullPath other.id).map Params.ofPath = .ok params
  specifiers : ∃ lineage way, before.tree.lineage route.id = .ok lineage
    ∧ after.tree.lineage other.id = .ok way
    ∧ parentSpecifiers before route lineage.dropLast = parentSpecifiers after other way.dropLast
  root : route.id = before.tree.rootId ↔ other.id = after.tree.rootId
  capabilities : route.id = before.tree.rootId →
    name = otherName ∧ before.future.middleware = after.future.middleware

/-- What two snapshots agree on whose registers are the same. -/
structure SameRegister : Prop where
  name : name = otherName
  capabilities : before.future.middleware = after.future.middleware
  entries : ∃ entries, registeredPaths before.tree = .ok entries
    ∧ registeredPaths after.tree = .ok entries

end

variable {before after : Snapshot} {rootId otherRootId : Text} {routes others : List Route}

/-- Equal texts were generated from equal data, whatever characters are in it. -/
theorem data_of_same_text (name otherName : Text)
    (built : RouteTree.build rootId routes = .ok before.tree)
    (builtThere : RouteTree.build otherRootId others = .ok after.tree) :
    (∀ route ∈ before.routes, ∀ other ∈ after.routes,
      routeFile name before route = routeFile otherName after other →
        SameRoute name otherName before after route other) ∧
    (register name before = register otherName after →
      SameRegister name otherName before after) := by
  constructor
  · intro route declared other declaredThere same
    rcases RouteTree.exists_lineage built declared with ⟨lineage, isLineage⟩
    rcases RouteTree.exists_lineage builtThere declaredThere with ⟨way, isWay⟩
    rw [routeFile, isLineage, routeFile, isWay] at same
    rcases of_routeFileOf_eq (Except.ok.inj same) with
      ⟨sameId, sameFile, samePath, sameIndex, sameFullPath, sameSpecifiers, sameCapabilities⟩
    have isPath : before.tree.fullPath route.id = .ok (FullPath.ofLineage lineage) :=
      RouteTree.fullPath_eq_ok_iff.2 ⟨lineage, isLineage, rfl⟩
    have isPathThere : after.tree.fullPath other.id = .ok (FullPath.ofLineage lineage) :=
      RouteTree.fullPath_eq_ok_iff.2 ⟨way, isWay, sameFullPath.symm⟩
    rcases of_capabilities_eq sameCapabilities with ⟨sameRoot, sameRest⟩
    exact {
      id := sameId
      file := sameFile
      path := samePath
      index := sameIndex
      fullPath := ⟨_, isPath, isPathThere⟩
      params := ⟨_, by rw [isPath]; rfl, by rw [isPathThere]; rfl⟩
      specifiers := ⟨lineage, way, isLineage, isWay, sameSpecifiers⟩
      root := sameRoot
      capabilities := sameRest }
  · intro same
    rcases exists_registeredPaths built with ⟨entries, isEntries⟩
    rcases exists_registeredPaths builtThere with ⟨entriesThere, isEntriesThere⟩
    rw [register, isEntries, register, isEntriesThere] at same
    rcases of_registerOf_eq (Except.ok.inj same) with ⟨sameName, sameFlags, rfl⟩
    exact ⟨sameName, by rw [sameFlags], entries, isEntries, isEntriesThere⟩

/-- Two configurations that differ in their mode and in a route that registers nothing. -/
theorem data_of_same_text_of_hostile_strings :
    let root : Route := { id := "root", file := some "undefined" }
    let route : Route := { id := "a\"; \\", path := some ":x\n\";\n  \"y" }
    let before : Snapshot := ⟨"app", "development", {}, ⟨"root", [root, route], _, _, rfl, rfl⟩⟩
    let after : Snapshot := ⟨"./app", "production", {}, ⟨"root", [{ id := "b" }, root, route], _, _, rfl, rfl⟩⟩
    SameRoute "f" "f" before after root root ∧ SameRoute "f" "f" before after route route
      ∧ SameRegister "f" "f" before after := by
  intro root route before after
  have built : RouteTree.build "root" [root, route] = .ok before.tree := by rfl
  have builtThere : RouteTree.build "root" [{ id := "b" }, root, route] = .ok after.tree := by rfl
  have data := data_of_same_text "f" "f" built builtThere
  refine ⟨data.1 root ?_ root ?_ ?_, data.1 route ?_ route ?_ ?_, data.2 ?_⟩
  · decide
  · decide
  · rfl
  · decide
  · decide
  · rfl
  · rfl

end Declaration
end TypedRoutes
