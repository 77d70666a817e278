import TypedRoutes.Declaration.Register
import TypedRoutes.Proofs.Declaration.Determined
import TypedRoutes.Proofs.Declaration.Lines

namespace TypedRoutes

/-!
# Reading parameters off generated text

A declaration file and the register spell parameters out as the members of an object type, one line
each.  The members are read back here from the text alone: they are the lines behind the one that opens
the type, as far as they are indented.  What is read is what was written, since no other line of the
text is like the one that opens the type.
-/

namespace Text

variable {opening start closing : Text} {before inside after : List Text}

/-- The lines behind the first one that equals `opening`, as far as they begin with `start`. -/
def block (opening start t : Text) : List Text :=
  (((pieces '\n' t).dropWhile (· ≠ opening)).drop 1).takeWhile start.isPrefixOf

/-- A block is read back from a text in which no earlier line is like the one that opens it. -/
theorem block_unlines
    (whole : ∀ line ∈ before ++ opening :: inside ++ closing :: after, '\n' ∉ line)
    (fresh : opening ∉ before) (starts : ∀ line ∈ inside, start <+: line)
    (ends : ¬ start <+: closing) :
    block opening start (unlines (before ++ opening :: inside ++ closing :: after)) = inside := by
  have skipped : ∀ line ∈ before, decide (line ≠ opening) = true := by
    intro line member
    rw [decide_eq_true_eq]
    rintro rfl
    exact fresh member
  have kept : ∀ line ∈ inside, start.isPrefixOf line = true :=
    fun line member => List.isPrefixOf_iff_prefix.2 (starts line member)
  rw [block, pieces_unlines whole, List.append_assoc, List.append_assoc,
    List.dropWhile_append_of_pos skipped, List.cons_append,
    List.dropWhile_cons_of_neg (by simp), List.drop_succ_cons, List.drop_zero,
    List.takeWhile_append_of_pos kept, List.cons_append,
    List.takeWhile_cons_of_neg (by rwa [List.isPrefixOf_iff_prefix]), List.append_nil]

end Text

namespace Declaration

open Text (unlines)

/-! ## Members -/

/-- The members of the object type that a line opens. -/
def membersIn (opening t : Text) : List Text := Text.block opening (indentation 2) t

theorem memberLine_injective (level : Nat) : Function.Injective (memberLine level) := by
  intro first second same
  apply (delimited_member level).injective
  rw [member_eq, member_eq, same]

/-- The members end at the brace, which is indented less. -/
theorem membersIn_unlines {opening ending : Text} {params : Params} {before after : List Text}
    (whole : ∀ line ∈ before ++ opening :: params.map (memberLine 2) ++
      (indentation 1 ++ "\x7d" ++ ending) :: after, '\n' ∉ line)
    (fresh : opening ∉ before) :
    membersIn opening (unlines (before ++ opening :: params.map (memberLine 2) ++
      (indentation 1 ++ "\x7d" ++ ending) :: after)) = params.map (memberLine 2) := by
  apply Text.block_unlines whole fresh
  · intro line member
    rcases List.mem_map.1 member with ⟨param, -, rfl⟩
    exact indentation_prefix_memberLine 2 param
  · simp [indentation, Text.times]

/-! ## Declaration files -/

/-- The line that opens the object type of the parameters. -/
def paramsOpening : Text := "  params: \x7b"

/-- The lines of a declaration file before the object type of the parameters. -/
def linesBefore (specifiers : List Text) (route : Route) (fullPath : Text) : List Text :=
  [("// Generated by route-typegen. Do not edit." : Text), []]
    ++ importBlockLines specifiers
    ++ [("export type Info = \x7b" : Text),
      parentsLine specifiers.length,
      "  id: " ++ Text.quote route.id ++ ";",
      "  file: " ++ optionalLiteral route.file ++ ";",
      "  path: " ++ optionalLiteral route.path ++ ";",
      "  fullpath: " ++ Text.quote fullPath ++ ";",
      "  index: " ++ truth route.index ++ ";"]

/-- The lines of a declaration file behind the parameters of an object type with members. -/
def linesAfter (frameworkModule : Text) (snapshot : Snapshot) (route : Route) : List Text :=
  [("\x7d;" : Text), []] ++ namespaceLines ++ capabilityLines frameworkModule snapshot route

theorem paramsOpening_not_mem_linesBefore (specifiers : List Text) (route : Route)
    (fullPath : Text) : paramsOpening ∉ linesBefore specifiers route fullPath := by
  have imports : paramsOpening ∉ importBlockLines specifiers :=
    fun member => absurd (begins_of_mem_importBlockLines member) (by decide)
  unfold linesBefore parentsLine
  simp only [List.mem_append, not_or]
  unfold paramsOpening at imports ⊢
  exact ⟨⟨by simp, imports⟩, by simp⟩

/-- Where the full path has parameters, they stand on lines of their own. -/
theorem routeLines_eq (frameworkModule : Text) (snapshot : Snapshot) (route : Route)
    {lineage : List Route} (some : Params.ofPath (FullPath.ofLineage lineage) ≠ []) :
    routeLines frameworkModule snapshot route lineage =
      linesBefore (parentSpecifiers snapshot route lineage.dropLast) route
          (FullPath.ofLineage lineage) ++
        paramsOpening :: (Params.ofPath (FullPath.ofLineage lineage)).map (memberLine 2) ++
        (indentation 1 ++ "\x7d" ++ " & \x7b [key: string]: string | undefined \x7d;") ::
          linesAfter frameworkModule snapshot route := by
  have opening : ("  params: " : Text) ++ "\x7b" = paramsOpening := by
    unfold paramsOpening
    simp
  unfold routeLines infoLines linesBefore objectLines linesAfter
  rw [if_neg some, opening]
  simp only [List.append_assoc, List.cons_append, List.nil_append]

/-- The members of a declaration file are the parameters of the full path. -/
theorem membersIn_routeFileOf (frameworkModule : Text) (snapshot : Snapshot) (route : Route)
    {lineage : List Route} (some : Params.ofPath (FullPath.ofLineage lineage) ≠ []) :
    membersIn paramsOpening (routeFileOf frameworkModule snapshot route lineage) =
      (Params.ofPath (FullPath.ofLineage lineage)).map (memberLine 2) := by
  have whole := newline_not_mem_routeLines frameworkModule snapshot route lineage
  rw [routeFileOf_eq]
  rw [routeLines_eq _ _ _ some] at whole ⊢
  exact membersIn_unlines whole (paramsOpening_not_mem_linesBefore _ _ _)

/-! ## The register -/

/-- The lines of one entry. -/
def entryLines (entry : Text × Params) : List Text :=
  objectLines ("  " ++ Text.quote entry.1 ++ ": ") ";" entry.2 1

/-- The lines of a register before its map. -/
def registerHead (frameworkModule : Text) : List Text :=
  ["// Generated by route-typegen. Do not edit.",
    [],
    "import " ++ Text.quote frameworkModule ++ ";",
    [],
    "declare module " ++ Text.quote frameworkModule ++ " \x7b",
    "  interface Register \x7b",
    "    params: Params;",
    "  \x7d",
    "\x7d",
    []]

def registerMapLines (entries : List (Text × Params)) : List Text :=
  if entries = [] then ["type Params = \x7b\x7d;"]
  else ("type Params = \x7b" : Text) :: entries.flatMap entryLines ++ [("\x7d;" : Text)]

def registerLines (frameworkModule : Text) (future : FutureFlags)
    (entries : List (Text × Params)) : List Text :=
  registerHead frameworkModule ++ registerMapLines entries
    ++ [] :: futureLines frameworkModule future

theorem registerMember_eq (entry : Text × Params) :
    registerMember entry = unlines (entryLines entry) := by
  unfold registerMember entryLines
  rw [← paramsObject_eq]
  simp

theorem registerMap_eq (entries : List (Text × Params)) :
    registerMap entries = unlines (registerMapLines entries) := by
  have members : entries.flatMap registerMember = unlines (entries.flatMap entryLines) := by
    rw [unlines, List.flatMap_assoc]
    exact List.flatMap_congr fun entry _ => registerMember_eq entry
  unfold registerMap registerMapLines
  split
  · simp
  · simp [members]

/-- A register is the text of its lines. -/
theorem registerOf_eq (frameworkModule : Text) (future : FutureFlags)
    (entries : List (Text × Params)) :
    registerOf frameworkModule future entries =
      unlines (registerLines frameworkModule future entries) := by
  unfold registerOf registerLines registerHead header
  simp [registerMap_eq, futureBlock_eq]

theorem newline_not_mem_entryLines (entry : Text × Params) :
    ∀ line ∈ entryLines entry, '\n' ∉ line :=
  newline_not_mem_objectLines (by simp) (by simp) entry.2 1

theorem newline_not_mem_registerLines (frameworkModule : Text) (future : FutureFlags)
    (entries : List (Text × Params)) :
    ∀ line ∈ registerLines frameworkModule future entries, '\n' ∉ line := by
  have head : ∀ line ∈ registerHead frameworkModule, '\n' ∉ line := by
    unfold registerHead
    simp
  have map : ∀ line ∈ registerMapLines entries, '\n' ∉ line := by
    unfold registerMapLines
    split
    · simp
    · simp only [List.forall_mem_append, List.forall_mem_cons, List.forall_mem_flatMap]
      exact ⟨⟨by simp, fun entry _ => newline_not_mem_entryLines entry⟩, by simp⟩
  have flags : ∀ line ∈ futureLines frameworkModule future, '\n' ∉ line := by
    unfold futureLines
    simp
  unfold registerLines
  simp only [List.forall_mem_append, List.forall_mem_cons]
  exact ⟨⟨head, map⟩, List.not_mem_nil, flags⟩

/-- The line that opens the parameters of a full path that has some. -/
def entryOpening (path : Text) : Text := "  " ++ Text.quote path ++ ": " ++ "\x7b"

theorem entryOpening_injective : Function.Injective entryOpening := by
  intro first second same
  unfold entryOpening at same
  simp only [List.append_assoc, List.append_cancel_left_eq] at same
  exact (Text.delimited_quote same).1

/-- Only the entry of a full path holds the line that opens its parameters. -/
theorem key_of_entryOpening_mem {path : Text} {entry : Text × Params}
    (member : entryOpening path ∈ entryLines entry) : path = entry.1 := by
  unfold entryLines objectLines at member
  split at member
  case isTrue =>
    have same := List.mem_singleton.1 member
    unfold entryOpening at same
    simp only [List.append_assoc, List.append_cancel_left_eq] at same
    exact (Text.delimited_quote same).1
  case isFalse =>
    rw [List.mem_append, List.mem_cons, List.mem_map, List.mem_singleton] at member
    rcases member with (isOpening | ⟨param, -, isMember⟩) | isClosing
    · exact entryOpening_injective isOpening
    · simp [entryOpening, memberLine, indentation, Text.times, Text.quote] at isMember
    · simp [entryOpening, indentation, Text.times, Text.quote] at isClosing

/-- An entry with parameters has a line for each of them. -/
theorem entryLines_of_ne_nil {path : Text} {params : Params} (some : params ≠ []) :
    entryLines (path, params) =
      entryOpening path :: params.map (memberLine 2) ++ [indentation 1 ++ "\x7d" ++ ";"] := by
  unfold entryLines objectLines entryOpening
  rw [if_neg some]

/-- The lines of a register before an entry. -/
def registerBefore (frameworkModule : Text) (front : List (Text × Params)) : List Text :=
  registerHead frameworkModule ++ ("type Params = \x7b" : Text) :: front.flatMap entryLines

theorem entryOpening_not_mem_registerBefore (frameworkModule : Text)
    {front : List (Text × Params)} {path : Text} (new : path ∉ front.map Prod.fst) :
    entryOpening path ∉ registerBefore frameworkModule front := by
  have head : entryOpening path ∉ registerHead frameworkModule := by
    simp [entryOpening, registerHead, Text.quote]
  have map : entryOpening path ≠ ("type Params = \x7b" : Text) := by
    simp [entryOpening]
  have entries : entryOpening path ∉ front.flatMap entryLines := by
    intro member
    rcases List.mem_flatMap.1 member with ⟨entry, isEntry, isLine⟩
    rw [key_of_entryOpening_mem isLine] at new
    exact new (List.mem_map_of_mem isEntry)
  unfold registerBefore
  rw [List.mem_append, List.mem_cons, not_or, not_or]
  exact ⟨head, map, entries⟩

theorem registerLines_eq (frameworkModule : Text) (future : FutureFlags)
    (front back : List (Text × Params)) (path : Text) {params : Params} (some : params ≠ []) :
    registerLines frameworkModule future (front ++ (path, params) :: back) =
      registerBefore frameworkModule front ++ entryOpening path :: params.map (memberLine 2) ++
        (indentation 1 ++ "\x7d" ++ ";") ::
          (back.flatMap entryLines ++ ("\x7d;" : Text) :: [] ::
            futureLines frameworkModule future) := by
  unfold registerLines registerMapLines registerBefore
  rw [if_neg (by simp), List.flatMap_append, List.flatMap_cons, entryLines_of_ne_nil some]
  simp only [List.append_assoc, List.cons_append, List.nil_append]

/-- The members of a registered full path are its parameters. -/
theorem membersIn_registerOf (frameworkModule : Text) (future : FutureFlags)
    {entries : List (Text × Params)} (distinct : (entries.map Prod.fst).Nodup)
    {path : Text} {params : Params} (member : (path, params) ∈ entries) (some : params ≠ []) :
    membersIn (entryOpening path) (registerOf frameworkModule future entries) =
      params.map (memberLine 2) := by
  rcases List.append_of_mem member with ⟨front, back, rfl⟩
  have new : path ∉ front.map Prod.fst := by
    rw [List.map_append, List.map_cons] at distinct
    exact fun early => (List.nodup_append.1 distinct).2.2 path early path List.mem_cons_self rfl
  have whole := newline_not_mem_registerLines frameworkModule future (front ++ (path, params) :: back)
  rw [registerOf_eq]
  rw [registerLines_eq _ _ _ _ _ some] at whole ⊢
  exact membersIn_unlines whole (entryOpening_not_mem_registerBefore _ new)

end Declaration
end TypedRoutes
