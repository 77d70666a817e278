import TypedRoutes.Proofs.Declaration.Members

namespace TypedRoutes

/-!
# Reading fields off generated text

A declaration file and the register each state what they state as the fields of one type, some of one
line and some of several.  The fields are read back here from the text alone: they are the lines behind
the one that opens the type, as far as they are indented, cut where a line is indented by one level and
does not close an object.  What is read is what was written, whatever the strings in it are.
-/

namespace Text

variable {opens : Text → Bool}

/-! ## Groups of lines -/

/-- The groups of lines that begin with a line that opens one; what stands before the first is left
out. -/
def groups (opens : Text → Bool) : List Text → List (List Text)
  | [] => []
  | line :: rest =>
      if opens line then (line :: rest.takeWhile (!opens ·)) :: groups opens rest
      else groups opens rest

/-- A group as it stands in a text: the line that opens it, and lines that open nothing. -/
def IsGroup (opens : Text → Bool) (lines : List Text) : Prop :=
  ∃ first more, lines = first :: more ∧ opens first = true ∧ ∀ line ∈ more, opens line = false

theorem groups_append_of_closed {closed : List Text} (none : ∀ line ∈ closed, opens line = false)
    (rest : List Text) : groups opens (closed ++ rest) = groups opens rest := by
  induction closed with
  | nil => rfl
  | cons line closed ih =>
      rw [List.cons_append, groups, if_neg (by simp [none line List.mem_cons_self])]
      exact ih fun other member => none other (List.mem_cons_of_mem _ member)

/-- Behind a group there is nothing, or the line that opens the next one. -/
theorem takeWhile_flatten_groups {sections : List (List Text)}
    (each : ∀ lines ∈ sections, IsGroup opens lines) :
    sections.flatten.takeWhile (!opens ·) = [] := by
  cases sections with
  | nil => rfl
  | cons lines sections =>
      rcases each lines List.mem_cons_self with ⟨first, more, rfl, isOpen, -⟩
      rw [List.flatten_cons, List.cons_append, List.takeWhile_cons_of_neg (by simp [isOpen])]

/-- Groups that are written one behind the other are found again. -/
theorem groups_flatten {sections : List (List Text)}
    (each : ∀ lines ∈ sections, IsGroup opens lines) :
    groups opens sections.flatten = sections := by
  induction sections with
  | nil => rfl
  | cons lines sections ih =>
      have later : ∀ lines ∈ sections, IsGroup opens lines :=
        fun other member => each other (List.mem_cons_of_mem _ member)
      rcases each lines List.mem_cons_self with ⟨first, more, rfl, isOpen, closed⟩
      have stays : ∀ line ∈ more, (!opens line) = true := fun line member => by simp [closed line member]
      rw [List.flatten_cons, List.cons_append, groups, if_pos isOpen,
        List.takeWhile_append_of_pos stays, takeWhile_flatten_groups later, List.append_nil,
        groups_append_of_closed closed, ih later]

end Text

namespace Declaration

open Text (unlines)

/-! ## Fields -/

/-- Whether a line opens a field: it is indented by one level, and by no more, and does not close an
object. -/
def opensField : Text → Bool
  | ' ' :: ' ' :: c :: _ => c ≠ ' ' && c ≠ '\x7d'
  | _ => false

@[simp] theorem opensField_cons (c : Char) (rest : Text) :
    opensField (' ' :: ' ' :: c :: rest) = (c ≠ ' ' && c ≠ '\x7d') := rfl

/-- The fields of the type that a line opens, each with all its lines. -/
def fieldsIn (opening t : Text) : List (List Text) :=
  Text.groups opensField (Text.block opening (indentation 1) t)

/-- Whether a field has a given name, as it is written there. -/
def isNamed (name : Text) (lines : List Text) : Bool :=
  lines.head?.any (indentation 1 ++ name ++ ": ").isPrefixOf

@[simp] theorem isNamed_cons (name line : Text) (more : List Text) :
    isNamed name (line :: more) = (indentation 1 ++ name ++ ": ").isPrefixOf line := rfl

/-- The fields with a given name. -/
def fieldsNamed (name : Text) (fields : List (List Text)) : List (List Text) :=
  fields.filter (isNamed name)

/-- The lines of a field: the first opens it, and all are indented. -/
structure IsField (lines : List Text) : Prop where
  isGroup : Text.IsGroup opensField lines
  indented : ∀ line ∈ lines, indentation 1 <+: line

theorem indentation_prefix_of_opensField {line : Text} (opens : opensField line = true) :
    indentation 1 <+: line := by
  unfold opensField at opens
  split at opens
  case h_1 c rest => exact ⟨c :: rest, rfl⟩
  case h_2 => cases opens

theorem isField_singleton {line : Text} (opens : opensField line = true) : IsField [line] where
  isGroup := ⟨line, [], rfl, opens, by simp⟩
  indented := by
    rw [List.forall_mem_singleton]
    exact indentation_prefix_of_opensField opens

/-- An object type behind the name of a field is one field with it. -/
theorem isField_objectLines {before : Text} (opens : ∀ rest, opensField (before ++ rest) = true)
    (after : Text) (params : Params) : IsField (objectLines before after params 1) := by
  unfold objectLines
  split
  case isTrue =>
    rw [List.append_assoc]
    exact isField_singleton (opens _)
  case isFalse =>
    -- Of its lines only the first opens a field: members are indented further, and the last closes.
    have member : ∀ param ∈ params, opensField (memberLine 2 param) = false := by
      intro param _
      simp [memberLine, indentation, Text.times]
    have closing : opensField (indentation 1 ++ "\x7d" ++ after) = false := by
      simp [indentation, Text.times]
    constructor
    · refine ⟨_, params.map (memberLine 2) ++ [indentation 1 ++ "\x7d" ++ after], rfl, opens _, ?_⟩
      rw [List.forall_mem_append, List.forall_mem_map, List.forall_mem_singleton]
      exact ⟨member, closing⟩
    · rw [List.forall_mem_append, List.forall_mem_cons, List.forall_mem_map,
        List.forall_mem_singleton]
      refine ⟨⟨indentation_prefix_of_opensField (opens _), fun param _ => ?_⟩, ?_⟩
      · exact (List.prefix_append (indentation 1) (indentation 1)).trans
          (indentation_prefix_memberLine 2 param)
      · rw [List.append_assoc]
        exact List.prefix_append _ _

/-- The fields of a type are read back from a text in which no earlier line is like the one that
opens the type. -/
theorem fieldsIn_unlines {opening closing : Text} {fields : List (List Text)}
    {before after : List Text}
    (whole : ∀ line ∈ before ++ opening :: fields.flatten ++ closing :: after, '\n' ∉ line)
    (fresh : opening ∉ before) (each : ∀ lines ∈ fields, IsField lines)
    (ends : ¬ indentation 1 <+: closing) :
    fieldsIn opening (unlines (before ++ opening :: fields.flatten ++ closing :: after)) =
      fields := by
  have indented : ∀ line ∈ fields.flatten, indentation 1 <+: line := by
    intro line member
    rcases List.mem_flatten.1 member with ⟨lines, isField, isLine⟩
    exact (each lines isField).indented line isLine
  rw [fieldsIn, Text.block_unlines whole fresh indented ends]
  exact Text.groups_flatten fun lines isField => (each lines isField).isGroup

/-- An object type as it is written in one piece has the lines of the object type. -/
theorem pieces_paramsObject {before after : Text} (wholeBefore : '\n' ∉ before)
    (wholeAfter : '\n' ∉ after) (params : Params) :
    Text.pieces '\n' (before ++ paramsObject params 1 ++ after) =
      objectLines before after params 1 := by
  have lines := Text.pieces_unlines
    (newline_not_mem_objectLines wholeBefore wholeAfter params 1)
  rw [← paramsObject_eq, ← List.append_assoc, ← List.append_assoc, Text.pieces_append] at lines
  exact List.append_cancel_right lines

/-- An object type stands behind what its first line begins with. -/
theorem exists_objectLines_eq (before after : Text) (params : Params) (level : Nat) :
    ∃ rest more, objectLines before after params level = (before ++ rest) :: more := by
  unfold objectLines
  split
  · exact ⟨("\x7b\x7d" : Text) ++ after, [], by rw [List.append_assoc]⟩
  · exact ⟨"\x7b", _, rfl⟩

/-! ## The map of the register -/

/-- The line that opens the map of a register with entries. -/
def mapOpening : Text := "type Params = \x7b"

theorem isField_entryLines (entry : Text × Params) : IsField (entryLines entry) := by
  apply isField_objectLines
  intro rest
  simp [Text.quote]

theorem mapOpening_not_mem_registerHead (frameworkModule : Text) :
    mapOpening ∉ registerHead frameworkModule := by
  unfold mapOpening registerHead
  simp

/-- The fields of the map are the entries. -/
theorem fieldsIn_registerOf (frameworkModule : Text) (future : FutureFlags)
    {entries : List (Text × Params)} (some : entries ≠ []) :
    fieldsIn mapOpening (registerOf frameworkModule future entries) = entries.map entryLines := by
  have shape : registerLines frameworkModule future entries =
      registerHead frameworkModule ++ mapOpening :: (entries.map entryLines).flatten ++
        ("\x7d;" : Text) :: [] :: futureLines frameworkModule future := by
    unfold registerLines registerMapLines mapOpening
    rw [if_neg some, ← List.flatMap_def]
    simp only [List.append_assoc, List.cons_append, List.nil_append]
  have whole := newline_not_mem_registerLines frameworkModule future entries
  rw [registerOf_eq]
  rw [shape] at whole ⊢
  refine fieldsIn_unlines whole (mapOpening_not_mem_registerHead _) ?_ (by decide)
  rw [List.forall_mem_map]
  exact fun entry _ => isField_entryLines entry

/-- The name of an entry is its full path. -/
theorem isNamed_entryLines_iff {path : Text} {entry : Text × Params} :
    isNamed (Text.quote path) (entryLines entry) = true ↔ entry.1 = path := by
  rcases exists_objectLines_eq ("  " ++ Text.quote entry.1 ++ ": ") ";" entry.2 1 with
    ⟨rest, more, lines⟩
  rw [entryLines, lines, isNamed_cons, List.isPrefixOf_iff_prefix]
  constructor
  · rintro ⟨behind, same⟩
    simp only [List.append_assoc] at same
    exact (Text.delimited_quote (List.append_cancel_left same)).1.symm
  · rintro rfl
    exact List.prefix_append _ _

/-- Where no full path is listed twice, each names one entry. -/
theorem fieldsNamed_entries {entries : List (Text × Params)}
    (distinct : (entries.map Prod.fst).Nodup) {path : Text} {params : Params}
    (member : (path, params) ∈ entries) :
    fieldsNamed (Text.quote path) (entries.map entryLines) = [entryLines (path, params)] := by
  rcases List.append_of_mem member with ⟨front, back, rfl⟩
  rw [List.map_append, List.map_cons, List.nodup_middle, List.nodup_cons, List.mem_append,
    not_or] at distinct
  have others : ∀ entries : List (Text × Params), path ∉ entries.map Prod.fst →
      fieldsNamed (Text.quote path) (entries.map entryLines) = [] := by
    intro entries new
    rw [fieldsNamed, List.filter_eq_nil_iff, List.forall_mem_map]
    intro entry isEntry named
    rw [← isNamed_entryLines_iff.1 named] at new
    exact new (List.mem_map_of_mem isEntry)
  have isThis : isNamed (Text.quote path) (entryLines (path, params)) = true :=
    isNamed_entryLines_iff.2 rfl
  have first := others front distinct.1.1
  have last := others back distinct.1.2
  unfold fieldsNamed at first last ⊢
  rw [List.map_append, List.filter_append, List.map_cons, first, List.nil_append,
    List.filter_cons_of_pos isThis, last]

/-! ## The information of a declaration file -/

/-- The line that opens the information. -/
def infoOpening : Text := "export type Info = \x7b"

/-- The fields of the information. -/
def infoFields (route : Route) (parents : Nat) (fullPath : Text) : List (List Text) :=
  [[parentsLine parents],
    ["  id: " ++ Text.quote route.id ++ ";"],
    ["  file: " ++ optionalLiteral route.file ++ ";"],
    ["  path: " ++ optionalLiteral route.path ++ ";"],
    ["  fullpath: " ++ Text.quote fullPath ++ ";"],
    ["  index: " ++ truth route.index ++ ";"],
    objectLines "  params: " " & \x7b [key: string]: string | undefined \x7d;"
      (Params.ofPath fullPath) 1]

theorem isField_infoFields (route : Route) (parents : Nat) (fullPath : Text) :
    ∀ lines ∈ infoFields route parents fullPath, IsField lines := by
  have opens : ∀ rest : Text, opensField (("  params: " : Text) ++ rest) = true := by
    intro rest
    simp
  have params := isField_objectLines opens " & \x7b [key: string]: string | undefined \x7d;"
    (Params.ofPath fullPath)
  unfold infoFields parentsLine
  simp only [List.forall_mem_cons]
  refine ⟨?_, ?_, ?_, ?_, ?_, ?_, params, by simp⟩
  all_goals
    apply isField_singleton
    simp

/-- The fields of the information are read back from a declaration file. -/
theorem fieldsIn_routeFileOf (frameworkModule : Text) (snapshot : Snapshot) (route : Route)
    (lineage : List Route) :
    fieldsIn infoOpening (routeFileOf frameworkModule snapshot route lineage) =
      infoFields route lineage.dropLast.length (FullPath.ofLineage lineage) := by
  have shape : routeLines frameworkModule snapshot route lineage =
      ([("// Generated by route-typegen. Do not edit." : Text), []] ++
          importBlockLines (parentSpecifiers snapshot route lineage.dropLast)) ++
        infoOpening ::
          (infoFields route lineage.dropLast.length (FullPath.ofLineage lineage)).flatten ++
        ("\x7d;" : Text) :: ([] :: namespaceLines ++
          capabilityLines frameworkModule snapshot route) := by
    unfold routeLines infoLines infoFields infoOpening
    simp [parentSpecifiers]
  have whole := newline_not_mem_routeLines frameworkModule snapshot route lineage
  rw [routeFileOf_eq]
  rw [shape] at whole ⊢
  refine fieldsIn_unlines whole ?_ (isField_infoFields _ _ _) (by decide)
  rw [List.mem_append, not_or]
  refine ⟨by decide, fun member => ?_⟩
  exact absurd (begins_of_mem_importBlockLines member) (by decide)

/-- The full path and the parameters are the fields with these names. -/
theorem fieldsNamed_infoFields (route : Route) (parents : Nat) (fullPath : Text) :
    fieldsNamed "fullpath" (infoFields route parents fullPath) =
        [["  fullpath: " ++ Text.quote fullPath ++ ";"]] ∧
      fieldsNamed "params" (infoFields route parents fullPath) =
        [objectLines "  params: " " & \x7b [key: string]: string | undefined \x7d;"
          (Params.ofPath fullPath) 1] := by
  rcases exists_objectLines_eq "  params: " " & \x7b [key: string]: string | undefined \x7d;"
    (Params.ofPath fullPath) 1 with ⟨rest, more, lines⟩
  unfold fieldsNamed infoFields parentsLine
  rw [lines]
  constructor
  · simp [indentation, Text.times]
  · simp [indentation, Text.times]

end Declaration
end TypedRoutes
