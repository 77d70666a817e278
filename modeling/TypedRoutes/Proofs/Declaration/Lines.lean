import TypedRoutes.Declaration.RouteFile
import TypedRoutes.Proofs.Text.Delimited
import TypedRoutes.Proofs.Text.Lines

namespace TypedRoutes

/-!
# The lines of a declaration file

Whatever ids, patterns and names a route has, its declaration file consists of the same lines: those
of the imports, those of the information, those of the namespace, and those of the capabilities where
the route is the root.  No text of the configuration begins or ends a line, so a line can be told by
how it begins.
-/

namespace Declaration

/-! ## Lines of the parts -/

def importLine (position : Nat) (specifier : Text) : Text :=
  "import type \x7b Info as Parent" ++ Text.ofNat position ++ " \x7d from "
    ++ Text.quote specifier ++ ";"

/-- The imports of ancestors, from a position on. -/
def importLines (position : Nat) (specifiers : List Text) : List Text :=
  (specifiers.zipIdx position).map fun entry => importLine entry.2 entry.1

def parentsLine (count : Nat) : Text := "  parents: [" ++ parentNames count ++ "];"

def memberLine (level : Nat) (param : Param) : Text :=
  indentation level ++ Text.quote param.name ++ (if param.required then [] else ['?'])
    ++ ": string;"

theorem indentation_prefix_memberLine (level : Nat) (param : Param) :
    indentation level <+: memberLine level param := by
  unfold memberLine
  simp only [List.append_assoc]
  exact List.prefix_append _ _

/-- The lines of an object type, the first and the last with what stands beside it. -/
def objectLines (before after : Text) (params : Params) (level : Nat) : List Text :=
  if params = [] then [before ++ "\x7b\x7d" ++ after]
  else (before ++ "\x7b") :: params.map (memberLine (level + 1))
    ++ [indentation level ++ "\x7d" ++ after]

def importBlockLines (specifiers : List Text) : List Text :=
  if specifiers = [] then [] else importLines 0 specifiers ++ [[]]

def infoLines (route : Route) (parents : Nat) (fullPath : Text) : List Text :=
  [("export type Info = \x7b" : Text),
    parentsLine parents,
    "  id: " ++ Text.quote route.id ++ ";",
    "  file: " ++ optionalLiteral route.file ++ ";",
    "  path: " ++ optionalLiteral route.path ++ ";",
    "  fullpath: " ++ Text.quote fullPath ++ ";",
    "  index: " ++ truth route.index ++ ";"]
  ++ objectLines "  params: " " & \x7b [key: string]: string | undefined \x7d;"
      (Params.ofPath fullPath) 1
  ++ [("\x7d;" : Text), []]

def namespaceLines : List Text :=
  ["export namespace Route \x7b",
    "  export type Params = Info[\"params\"];",
    "  export type Parents = Info[\"parents\"];",
    "  export type Fullpath = Info[\"fullpath\"];",
    "\x7d"]

def futureLines (frameworkModule : Text) (future : FutureFlags) : List Text :=
  ["declare module " ++ Text.quote frameworkModule ++ " \x7b",
    "  interface Future \x7b",
    "    unstable_middleware: " ++ truth future.middleware ++ ";",
    "  \x7d",
    "\x7d"]

def capabilityLines (frameworkModule : Text) (snapshot : Snapshot) (route : Route) : List Text :=
  if route.id = snapshot.tree.rootId then [] :: futureLines frameworkModule snapshot.future else []

/-- The lines of a route's declaration file. -/
def routeLines (frameworkModule : Text) (snapshot : Snapshot) (route : Route)
    (lineage : List Route) : List Text :=
  let specifiers := parentSpecifiers snapshot route lineage.dropLast
  [("// Generated by route-typegen. Do not edit." : Text), []]
    ++ importBlockLines specifiers
    ++ infoLines route specifiers.length (FullPath.ofLineage lineage)
    ++ namespaceLines
    ++ capabilityLines frameworkModule snapshot route

/-! ## The text of the lines -/

open Text (unlines)

theorem parentImport_eq (position : Nat) (specifier : Text) :
    parentImport position specifier = importLine position specifier ++ ['\n'] := by
  unfold parentImport importLine
  simp

theorem parentImports_eq (position : Nat) (specifiers : List Text) :
    parentImports position specifiers = unlines (importLines position specifiers) := by
  induction specifiers generalizing position with
  | nil => rfl
  | cons specifier rest ih =>
      rw [parentImports, ih, parentImport_eq]
      simp [importLines]

theorem importBlock_eq (specifiers : List Text) :
    importBlock specifiers = unlines (importBlockLines specifiers) := by
  unfold importBlock importBlockLines
  split
  · rfl
  · rw [Text.unlines_append, parentImports_eq]
    rfl

theorem member_eq (level : Nat) (param : Param) :
    member level param = memberLine level param ++ ['\n'] := by
  unfold member memberLine
  simp

theorem members_eq (level : Nat) (params : Params) :
    params.flatMap (member level) = unlines (params.map (memberLine level)) := by
  induction params with
  | nil => rfl
  | cons param params ih =>
      rw [List.flatMap_cons, ih, member_eq]
      simp

theorem paramsObject_eq (before after : Text) (params : Params) (level : Nat) :
    before ++ (paramsObject params level ++ (after ++ ['\n'])) =
      unlines (objectLines before after params level) := by
  unfold paramsObject objectLines
  split
  · simp
  · simp [members_eq]

theorem infoBlock_eq (route : Route) (parents : Nat) (fullPath : Text) :
    infoBlock route parents fullPath = unlines (infoLines route parents fullPath) := by
  unfold infoBlock infoLines parentsLine
  simp [← paramsObject_eq]

theorem routeNamespace_eq : routeNamespace = unlines namespaceLines := by
  unfold routeNamespace namespaceLines
  simp

theorem futureBlock_eq (frameworkModule : Text) (future : FutureFlags) :
    futureBlock frameworkModule future = unlines (futureLines frameworkModule future) := by
  unfold futureBlock futureLines
  simp

theorem capabilities_eq (frameworkModule : Text) (snapshot : Snapshot) (route : Route) :
    capabilities frameworkModule snapshot route =
      unlines (capabilityLines frameworkModule snapshot route) := by
  unfold capabilities capabilityLines
  split
  · rw [futureBlock_eq]
    rfl
  · rfl

/-- A declaration file is the text of its lines. -/
theorem routeFileOf_eq (frameworkModule : Text) (snapshot : Snapshot) (route : Route)
    (lineage : List Route) :
    routeFileOf frameworkModule snapshot route lineage =
      unlines (routeLines frameworkModule snapshot route lineage) := by
  unfold routeFileOf routeLines header
  simp [importBlock_eq, infoBlock_eq, routeNamespace_eq, capabilities_eq]

/-! ## No text breaks a line -/

theorem newline_not_mem_glueWith {between : Text} (whole : '\n' ∉ between) {parts : List Text}
    (each : ∀ part ∈ parts, '\n' ∉ part) : '\n' ∉ Text.glueWith between parts := by
  induction parts using Text.glueWith.induct with
  | case1 => exact List.not_mem_nil
  | case2 part => exact each part List.mem_cons_self
  | case3 part next rest ih =>
      have later := ih fun other member => each other (List.mem_cons_of_mem _ member)
      rw [Text.glueWith, List.mem_append, List.mem_append, not_or, not_or]
      exact ⟨⟨each part List.mem_cons_self, whole⟩, later⟩

@[simp] theorem newline_not_mem_parentsLine (count : Nat) : '\n' ∉ parentsLine count := by
  have names : '\n' ∉ parentNames count := by
    unfold parentNames
    apply newline_not_mem_glueWith (by simp)
    intro name member
    rcases List.mem_map.1 member with ⟨i, -, rfl⟩
    simp
  unfold parentsLine
  simp [names]

@[simp] theorem newline_not_mem_importLine (position : Nat) (specifier : Text) :
    '\n' ∉ importLine position specifier := by
  unfold importLine
  simp

@[simp] theorem newline_not_mem_optionalLiteral (t : Option Text) : '\n' ∉ optionalLiteral t := by
  cases t with
  | none => exact (by decide : '\n' ∉ ("undefined" : Text))
  | some t => exact Text.newline_not_mem_quote t

@[simp] theorem newline_not_mem_truth (b : Bool) : '\n' ∉ truth b := by
  cases b with
  | false => decide
  | true => decide

@[simp] theorem newline_not_mem_indentation (level : Nat) : '\n' ∉ indentation level := by
  induction level with
  | zero => exact List.not_mem_nil
  | succ level ih => exact List.not_mem_append (by decide) ih

@[simp] theorem newline_not_mem_memberLine (level : Nat) (param : Param) :
    '\n' ∉ memberLine level param := by
  unfold memberLine
  split
  · simp
  · simp

theorem newline_not_mem_objectLines {before after : Text} (wholeBefore : '\n' ∉ before)
    (wholeAfter : '\n' ∉ after) (params : Params) (level : Nat) :
    ∀ line ∈ objectLines before after params level, '\n' ∉ line := by
  unfold objectLines
  split
  · simp [wholeBefore, wholeAfter]
  · simp only [List.forall_mem_append, List.forall_mem_cons, List.forall_mem_map]
    simp [wholeBefore, wholeAfter]

theorem newline_not_mem_infoLines (route : Route) (parents : Nat) (fullPath : Text) :
    ∀ line ∈ infoLines route parents fullPath, '\n' ∉ line := by
  unfold infoLines
  rw [List.forall_mem_append, List.forall_mem_append]
  refine ⟨⟨by simp, newline_not_mem_objectLines (by simp) (by simp) _ _⟩, by simp⟩

theorem newline_not_mem_capabilityLines (frameworkModule : Text) (snapshot : Snapshot)
    (route : Route) : ∀ line ∈ capabilityLines frameworkModule snapshot route, '\n' ∉ line := by
  unfold capabilityLines futureLines
  split
  · simp
  · simp

theorem newline_not_mem_importBlockLines (specifiers : List Text) :
    ∀ line ∈ importBlockLines specifiers, '\n' ∉ line := by
  unfold importBlockLines
  split
  · simp
  · simp only [importLines, List.forall_mem_append, List.forall_mem_map]
    simp

/-- No line of a declaration file holds a line feed. -/
theorem newline_not_mem_routeLines (frameworkModule : Text) (snapshot : Snapshot) (route : Route)
    (lineage : List Route) :
    ∀ line ∈ routeLines frameworkModule snapshot route lineage, '\n' ∉ line := by
  have names : ∀ line ∈ namespaceLines, '\n' ∉ line := by
    unfold namespaceLines
    simp
  unfold routeLines
  simp only [List.forall_mem_append]
  exact ⟨⟨⟨⟨by simp, newline_not_mem_importBlockLines _⟩, newline_not_mem_infoLines _ _ _⟩, names⟩,
    newline_not_mem_capabilityLines _ _ _⟩

/-! ## Lines by their beginnings -/

/-- How the lines begin that import something. -/
def importBeginning : Text := "import "

/-- How the line begins that lists the parents. -/
def parentsBeginning : Text := "  parents: "

/-- How a line of an object type can begin. -/
theorem begins_of_mem_objectLines {before after line : Text} {params : Params}
    (member : line ∈ objectLines before after params 1) :
    before <+: line ∨ indentation 2 <+: line ∨ (indentation 1 ++ "\x7d" : Text) <+: line := by
  unfold objectLines at member
  split at member
  case isTrue =>
    rw [List.mem_singleton.1 member, List.append_assoc]
    exact .inl (List.prefix_append _ _)
  case isFalse =>
    rw [List.mem_append, List.mem_cons, List.mem_map, List.mem_singleton] at member
    rcases member with (rfl | ⟨param, -, rfl⟩) | rfl
    · exact .inl (List.prefix_append _ _)
    · exact .inr (.inl (indentation_prefix_memberLine 2 param))
    · exact .inr (.inr (List.prefix_append _ _))

/-- Every line of the imports imports something, the blank one excepted. -/
theorem begins_of_mem_importBlockLines {specifiers : List Text} {line : Text}
    (member : line ∈ importBlockLines specifiers) : line = [] ∨ importBeginning <+: line := by
  unfold importBlockLines at member
  split at member
  case isTrue => cases member
  case isFalse =>
    rw [List.mem_append, List.mem_singleton] at member
    rcases member with isImport | rfl
    · rcases List.mem_map.1 isImport with ⟨entry, -, rfl⟩
      unfold importLine importBeginning
      simp
    · exact .inl rfl

/-- No line of the object type of the parameters imports something or lists parents. -/
theorem filter_objectLines {beginning : Text}
    (known : beginning = importBeginning ∨ beginning = parentsBeginning) (after : Text)
    (params : Params) :
    (objectLines "  params: " after params 1).filter beginning.isPrefixOf = [] := by
  have apart : Text.Apart beginning "  params: " ∧ Text.Apart beginning (indentation 2) ∧
      Text.Apart beginning (indentation 1 ++ "\x7d") := by
    rcases known with rfl | rfl
    · decide
    · decide
  rw [List.filter_eq_nil_iff]
  intro line member starts
  rw [List.isPrefixOf_iff_prefix] at starts
  rcases begins_of_mem_objectLines member with first | inside | last
  · exact apart.1.not_begins starts first
  · exact apart.2.1.not_begins starts inside
  · exact apart.2.2.not_begins starts last

theorem filter_import_infoLines (route : Route) (parents : Nat) (fullPath : Text) :
    (infoLines route parents fullPath).filter importBeginning.isPrefixOf = [] := by
  unfold infoLines
  rw [List.filter_append, List.filter_append, filter_objectLines (.inl rfl)]
  unfold parentsLine importBeginning
  simp

theorem filter_parents_infoLines (route : Route) (parents : Nat) (fullPath : Text) :
    (infoLines route parents fullPath).filter parentsBeginning.isPrefixOf =
      [parentsLine parents] := by
  unfold infoLines
  rw [List.filter_append, List.filter_append, filter_objectLines (.inr rfl)]
  unfold parentsLine parentsBeginning
  simp

/-- Nor does a line of the namespace or the capabilities. -/
theorem filter_namespaceLines {beginning : Text}
    (known : beginning = importBeginning ∨ beginning = parentsBeginning) :
    namespaceLines.filter beginning.isPrefixOf = [] := by
  unfold importBeginning parentsBeginning at known
  unfold namespaceLines
  rcases known with rfl | rfl
  · simp
  · simp

theorem filter_capabilityLines {beginning : Text}
    (known : beginning = importBeginning ∨ beginning = parentsBeginning) (frameworkModule : Text)
    (snapshot : Snapshot) (route : Route) :
    (capabilityLines frameworkModule snapshot route).filter beginning.isPrefixOf = [] := by
  unfold importBeginning parentsBeginning at known
  unfold capabilityLines futureLines
  split
  · rcases known with rfl | rfl
    · simp
    · simp
  · rfl

theorem filter_import_importBlockLines (specifiers : List Text) :
    (importBlockLines specifiers).filter importBeginning.isPrefixOf = importLines 0 specifiers := by
  have all : (importLines 0 specifiers).filter importBeginning.isPrefixOf =
      importLines 0 specifiers := by
    rw [List.filter_eq_self]
    intro line member
    rcases List.mem_map.1 member with ⟨⟨specifier, position⟩, -, rfl⟩
    unfold importLine importBeginning
    simp
  unfold importBlockLines
  split
  case isTrue none =>
    rw [none]
    rfl
  case isFalse =>
    rw [List.filter_append, all]
    unfold importBeginning
    simp

theorem filter_parents_importBlockLines (specifiers : List Text) :
    (importBlockLines specifiers).filter parentsBeginning.isPrefixOf = [] := by
  have apart : Text.Apart importBeginning parentsBeginning := by decide
  rw [List.filter_eq_nil_iff]
  intro line member starts
  rw [List.isPrefixOf_iff_prefix] at starts
  rcases begins_of_mem_importBlockLines member with rfl | isImport
  · exact absurd (List.prefix_nil.1 starts) (by decide)
  · exact apart.not_begins isImport starts

/-- The imports of a declaration file are those of the ancestors. -/
theorem filter_import_routeLines (frameworkModule : Text) (snapshot : Snapshot) (route : Route)
    (lineage : List Route) :
    (routeLines frameworkModule snapshot route lineage).filter importBeginning.isPrefixOf =
      importLines 0 (parentSpecifiers snapshot route lineage.dropLast) := by
  unfold routeLines
  simp only [List.filter_append, filter_import_importBlockLines, filter_import_infoLines,
    filter_namespaceLines (.inl rfl), filter_capabilityLines (.inl rfl)]
  unfold importBeginning
  simp

/-- One line of a declaration file lists the parents. -/
theorem filter_parents_routeLines (frameworkModule : Text) (snapshot : Snapshot) (route : Route)
    (lineage : List Route) :
    (routeLines frameworkModule snapshot route lineage).filter parentsBeginning.isPrefixOf =
      [parentsLine lineage.dropLast.length] := by
  unfold routeLines
  simp only [List.filter_append, filter_parents_importBlockLines, filter_parents_infoLines,
    filter_namespaceLines (.inr rfl), filter_capabilityLines (.inr rfl), parentSpecifiers,
    List.length_map]
  unfold parentsBeginning
  simp

/-! ## Reading a declaration file -/

/-- The imports that are read off a declaration file. -/
theorem linesFrom_import_routeFileOf (frameworkModule : Text) (snapshot : Snapshot) (route : Route)
    (lineage : List Route) :
    Text.linesFrom importBeginning (routeFileOf frameworkModule snapshot route lineage) =
      importLines 0 (parentSpecifiers snapshot route lineage.dropLast) := by
  rw [routeFileOf_eq, Text.linesFrom_unlines (by decide) (newline_not_mem_routeLines _ _ _ _),
    filter_import_routeLines]

theorem linesFrom_parents_routeFileOf (frameworkModule : Text) (snapshot : Snapshot)
    (route : Route) (lineage : List Route) :
    Text.linesFrom parentsBeginning (routeFileOf frameworkModule snapshot route lineage) =
      [parentsLine lineage.dropLast.length] := by
  rw [routeFileOf_eq, Text.linesFrom_unlines (by decide) (newline_not_mem_routeLines _ _ _ _),
    filter_parents_routeLines]

end Declaration
end TypedRoutes
