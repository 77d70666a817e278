import TypedRoutes.Path.Basic
import TypedRoutes.Proofs.Text.Pieces

namespace TypedRoutes

/-!
# Where paths lead

The location of a path is what its steps make of the place that it starts from.  It takes no look at
the file system: a request that gets anywhere along a path gets to this location.  A path without
`..` adds names to its start, and gluing a relative path behind another adds the steps of the one to
those of the other.
-/

namespace Path

/-! ## Steps -/

namespace Step

/-- The name that a step adds. -/
def name? : Step → Option Text
  | .name part => some part
  | .here | .up => none

end Step

/-- The names that steps add, in order. -/
def names (steps : List Step) : List Text := steps.filterMap Step.name?

@[simp] theorem names_nil : names [] = [] := rfl

@[simp] theorem names_here (steps : List Step) : names (.here :: steps) = names steps := rfl

@[simp] theorem names_name (part : Text) (steps : List Step) :
    names (.name part :: steps) = part :: names steps := rfl

@[simp] theorem names_append (first second : List Step) :
    names (first ++ second) = names first ++ names second :=
  List.filterMap_append

theorem names_map_name (parts : List Text) : names (parts.map Step.name) = parts := by
  induction parts with
  | nil => rfl
  | cons part parts ih => rw [List.map_cons, names_name, ih]

/-- Steps that never go up add their names. -/
theorem foldl_apply_eq_append_names {steps : List Step} (straight : .up ∉ steps)
    (location : Location) : steps.foldl Step.apply location = location ++ names steps := by
  induction steps generalizing location with
  | nil => simp
  | cons step steps ih =>
      simp only [List.mem_cons, not_or] at straight
      rw [List.foldl_cons, ih straight.2]
      cases step with
      | here => rfl
      | up => exact absurd rfl straight.1
      | name part => simp [Step.apply]

/-! ## Locations -/

/-- The place where a path starts. -/
def start (working : Location) (path : Path) : Location := if path.isAbsolute then [] else working

/-- The place where a path leads.  The empty path leads to the working directory. -/
def location (working : Location) (path : Path) : Location :=
  path.steps.foldl Step.apply (path.start working)

theorem resolve?_eq_location {path : Path} (nonempty : path.text ≠ []) (working : Location) :
    path.resolve? working = some (path.location working) := by
  rw [resolve?, if_neg nonempty]
  rfl

/-- A path that is not written is above every path and below no other. -/
theorem covers_iff {outer inner : Path} {working : Location} :
    covers (outer.resolve? working) (inner.resolve? working) = true ↔
      outer.text = [] ∨
        inner.text ≠ [] ∧ outer.location working <+: inner.location working := by
  by_cases outerEmpty : outer.text = []
  · simp [resolve?, outerEmpty, covers]
  · by_cases innerEmpty : inner.text = []
    · simp [resolve?, outerEmpty, innerEmpty, covers]
    · rw [resolve?_eq_location outerEmpty, resolve?_eq_location innerEmpty]
      simp [covers, outerEmpty, innerEmpty]

/-- A path that never goes up and whose last step is not `.`. -/
structure IsPlain (path : Path) : Prop where
  straight : .up ∉ path.steps
  last_ne_here : path.steps.getLast? ≠ some .here

theorem location_eq_start_append {path : Path} (straight : .up ∉ path.steps) (working : Location) :
    path.location working = path.start working ++ names path.steps :=
  foldl_apply_eq_append_names straight _

/-! ## A path behind another -/

/-- The part of a path that is cut into pieces. -/
def inner (path : Path) : Text := if path.isAbsolute then path.text.drop 1 else path.text

theorem body_eq_pieces (path : Path) : path.body = Text.pieces '/' path.inner := rfl

theorem isAbsolute_append {text : Text} (nonempty : text ≠ []) (rest : Text) :
    isAbsolute ⟨text ++ rest⟩ = isAbsolute ⟨text⟩ := by
  cases text with
  | nil => exact absurd rfl nonempty
  | cons c text => rfl

theorem inner_append {text : Text} (nonempty : text ≠ []) (rest : Text) :
    inner ⟨text ++ rest⟩ = inner ⟨text⟩ ++ rest := by
  unfold inner
  rw [isAbsolute_append nonempty]
  split
  · exact List.drop_append_of_le_length (List.length_pos_iff.2 nonempty)
  · rfl

/-- A joined path ends with the text of the path behind. -/
theorem exists_text_join (base : Path) :
    ∃ front, ∀ rest : Path, rest.isAbsolute = false → (base.join rest).text = front ++ rest.text := by
  by_cases direct : base.text = [] ∨ base.endsInSlash
  · refine ⟨base.text, fun rest relative => ?_⟩
    rw [join, relative, if_neg Bool.false_ne_true, if_pos direct]
  · refine ⟨base.text ++ ['/'], fun rest relative => ?_⟩
    rw [join, relative, if_neg Bool.false_ne_true, if_neg direct]
    simp

/-- Behind the empty path a path stands for itself. -/
theorem join_of_empty {base : Path} (empty : base.text = []) (rest : Path) : base.join rest = rest := by
  unfold join
  split
  · rfl
  · rw [if_pos (.inl empty), empty, List.nil_append]

/-- The pieces that a path contributes where another one follows it. -/
def bodyBefore (base : Path) : List Text :=
  if base.endsInSlash then base.body.dropLast else base.body

/-- A `/` at the end of a path stands before an empty piece. -/
theorem body_eq_of_endsInSlash {text : Text} :
    body ⟨text ++ ['/']⟩ = bodyBefore ⟨text ++ ['/']⟩ ++ [[]] := by
  have ends : endsInSlash ⟨text ++ ['/']⟩ = true := by simp [endsInSlash]
  have last : ∃ front, body ⟨text ++ ['/']⟩ = front ++ [[]] := by
    cases text with
    | nil => exact ⟨[], rfl⟩
    | cons c text =>
        refine ⟨Text.pieces '/' (inner ⟨c :: text⟩), ?_⟩
        rw [body_eq_pieces, inner_append (List.cons_ne_nil c text), Text.pieces_append]
        rfl
  rcases last with ⟨front, eq⟩
  rw [bodyBefore, if_pos ends, eq, List.dropLast_concat]

/-- The pieces of a joined path are those of its two parts. -/
theorem body_join {base rest : Path} (nonempty : base.text ≠ [])
    (relative : rest.isAbsolute = false) :
    (base.join rest).body = base.bodyBefore ++ rest.body := by
  have innerRest : rest.inner = rest.text := by simp [inner, relative]
  cases ends : base.endsInSlash with
  | false =>
      have joined : base.join rest = ⟨base.text ++ '/' :: rest.text⟩ := by
        simp [join, relative, ends, nonempty]
      rw [joined, body_eq_pieces, inner_append nonempty, Text.pieces_append, bodyBefore, ends,
        body_eq_pieces rest, innerRest]
      rfl
  | true =>
      have joined : base.join rest = ⟨base.text ++ rest.text⟩ := by simp [join, relative, ends]
      obtain ⟨front, shape⟩ : ∃ front, base.text = front ++ ['/'] :=
        List.getLast?_eq_some_iff.1 (by simpa [endsInSlash] using ends)
      rcases base with ⟨text⟩
      subst shape
      have cut : body ⟨front ++ '/' :: rest.text⟩ = bodyBefore ⟨front ++ ['/']⟩ ++ rest.body := by
        cases front with
        | nil => rw [body_eq_pieces, body_eq_pieces rest, innerRest]; rfl
        | cons c front =>
            have same : body ⟨c :: front ++ ['/']⟩ = Text.pieces '/' (inner ⟨c :: front⟩) ++ [[]] := by
              rw [body_eq_pieces, inner_append (List.cons_ne_nil c front), Text.pieces_append]
              rfl
            have before : bodyBefore ⟨c :: front ++ ['/']⟩ = Text.pieces '/' (inner ⟨c :: front⟩) :=
              List.append_cancel_right (body_eq_of_endsInSlash.symm.trans same)
            rw [before, body_eq_pieces, inner_append (List.cons_ne_nil c front),
              Text.pieces_append, body_eq_pieces rest, innerRest]
      rw [joined, show front ++ ['/'] ++ rest.text = front ++ '/' :: rest.text by simp]
      exact cut

/-- A path whose last piece is not empty does not end in a `/`. -/
theorem endsInSlash_of_body {path : Path} (nonempty : path.body.getLast? ≠ some []) :
    path.endsInSlash = false := by
  cases ends : path.endsInSlash with
  | false => rfl
  | true =>
      obtain ⟨front, shape⟩ : ∃ front, path.text = front ++ ['/'] :=
        List.getLast?_eq_some_iff.1 (by simpa [endsInSlash] using ends)
      rcases path with ⟨text⟩
      subst shape
      rw [body_eq_of_endsInSlash, List.getLast?_concat] at nonempty
      exact absurd rfl nonempty

theorem filterMap_bodyBefore (base : Path) :
    base.bodyBefore.filterMap Step.ofPiece? = base.steps := by
  cases ends : base.endsInSlash with
  | false => rw [bodyBefore, ends]; rfl
  | true =>
      obtain ⟨front, shape⟩ : ∃ front, base.text = front ++ ['/'] :=
        List.getLast?_eq_some_iff.1 (by simpa [endsInSlash] using ends)
      rcases base with ⟨text⟩
      subst shape
      rw [steps, body_eq_of_endsInSlash, List.filterMap_append]
      simp [Step.ofPiece?]

theorem steps_join {base rest : Path} (nonempty : base.text ≠ [])
    (relative : rest.isAbsolute = false) : (base.join rest).steps = base.steps ++ rest.steps := by
  rw [steps, body_join nonempty relative, List.filterMap_append, filterMap_bodyBefore]
  rfl

theorem isAbsolute_join {base rest : Path} (nonempty : base.text ≠ [])
    (relative : rest.isAbsolute = false) : (base.join rest).isAbsolute = base.isAbsolute := by
  unfold join
  rw [relative]
  simp only [Bool.false_eq_true, if_false]
  split <;> exact isAbsolute_append nonempty _

theorem text_join_ne_nil {base rest : Path} (nonempty : base.text ≠ [])
    (relative : rest.isAbsolute = false) : (base.join rest).text ≠ [] := by
  intro empty
  rw [join, relative] at empty
  simp only [Bool.false_eq_true, if_false] at empty
  split at empty <;> simp [nonempty] at empty

/-- A relative path that is written at all has a step. -/
theorem steps_ne_nil_of_relative {path : Path} (nonempty : path.text ≠ [])
    (relative : path.isAbsolute = false) : path.steps ≠ [] := by
  rcases List.exists_cons_of_ne_nil nonempty with ⟨c, rest, shape⟩
  have different : c ≠ '/' := by simpa [isAbsolute, shape] using relative
  have first : Step.ofPiece? (c :: (Text.cut '/' rest).1) ≠ none := by
    unfold Step.ofPiece?
    rw [if_neg (List.cons_ne_nil _ _)]
    split
    · simp
    · split <;> simp
  rcases Option.ne_none_iff_exists'.1 first with ⟨step, eq⟩
  rw [steps, body_eq_pieces, inner, relative, shape]
  simp [Text.pieces_cons different, eq]

/-! ## Paths of names -/

/-- A piece that a file system reads as the name of an entry. -/
structure IsName (part : Text) : Prop where
  nonempty : part ≠ []
  ne_here : part ≠ ['.']
  ne_up : part ≠ ['.', '.']
  slash_free : '/' ∉ part

instance (part : Text) : Decidable (IsName part) :=
  decidable_of_iff (part ≠ [] ∧ part ≠ ['.'] ∧ part ≠ ['.', '.'] ∧ '/' ∉ part)
    ⟨fun ⟨nonempty, neHere, neUp, slashFree⟩ => ⟨nonempty, neHere, neUp, slashFree⟩,
      fun isName => ⟨isName.nonempty, isName.ne_here, isName.ne_up, isName.slash_free⟩⟩

theorem IsName.ofPiece? {part : Text} (isName : IsName part) :
    Step.ofPiece? part = some (.name part) := by
  rw [Step.ofPiece?, if_neg isName.nonempty, if_neg isName.ne_here, if_neg isName.ne_up]

theorem filterMap_ofPiece?_of_names {parts : List Text} (areNames : ∀ part ∈ parts, IsName part) :
    parts.filterMap Step.ofPiece? = parts.map Step.name := by
  induction parts with
  | nil => rfl
  | cons part parts ih =>
      rw [List.filterMap_cons, (areNames part List.mem_cons_self).ofPiece?]
      simp only [List.map_cons, ih fun other member => areNames other (List.mem_cons_of_mem _ member)]

/-- The path that names make. -/
def ofNames (parts : List Text) : Path := ⟨Text.glue '/' parts⟩

theorem isAbsolute_ofNames {parts : List Text} (areNames : ∀ part ∈ parts, IsName part) :
    (ofNames parts).isAbsolute = false := by
  cases parts with
  | nil => rfl
  | cons part parts =>
      have first := areNames part List.mem_cons_self
      rcases List.exists_cons_of_ne_nil first.nonempty with ⟨c, rest, rfl⟩
      have different : c ≠ '/' := fun same => first.slash_free (same ▸ List.mem_cons_self)
      cases parts <;> simpa [isAbsolute, ofNames, Text.glue] using different

theorem body_ofNames {parts : List Text} (nonempty : parts ≠ [])
    (areNames : ∀ part ∈ parts, IsName part) : (ofNames parts).body = parts := by
  rw [body_eq_pieces, inner, isAbsolute_ofNames areNames]
  exact Text.pieces_glue nonempty fun part member => (areNames part member).slash_free

/-- Names behind a path are its last pieces. -/
theorem body_join_ofNames {base : Path} {parts : List Text} (baseNonempty : base.text ≠ [])
    (nonempty : parts ≠ []) (areNames : ∀ part ∈ parts, IsName part) :
    (base.join (ofNames parts)).body = base.bodyBefore ++ parts := by
  rw [body_join baseNonempty (isAbsolute_ofNames areNames), body_ofNames nonempty areNames]

theorem endsInSlash_join_ofNames {base : Path} {parts : List Text} (baseNonempty : base.text ≠ [])
    (nonempty : parts ≠ []) (areNames : ∀ part ∈ parts, IsName part) :
    (base.join (ofNames parts)).endsInSlash = false := by
  apply endsInSlash_of_body
  rw [body_join_ofNames baseNonempty nonempty areNames]
  rcases (List.eq_nil_or_concat parts).resolve_left nonempty with ⟨front, last, rfl⟩
  rw [List.concat_eq_append, ← List.append_assoc, List.getLast?_concat]
  intro empty
  exact (areNames last (by simp)).nonempty (Option.some.inj empty)

theorem steps_ofNames {parts : List Text} (nonempty : parts ≠ [])
    (areNames : ∀ part ∈ parts, IsName part) : (ofNames parts).steps = parts.map Step.name := by
  rw [steps, body_ofNames nonempty areNames, filterMap_ofPiece?_of_names areNames]

theorem steps_join_ofNames {base : Path} {parts : List Text} (baseNonempty : base.text ≠ [])
    (nonempty : parts ≠ []) (areNames : ∀ part ∈ parts, IsName part) :
    (base.join (ofNames parts)).steps = base.steps ++ parts.map Step.name := by
  rw [steps_join baseNonempty (isAbsolute_ofNames areNames), steps_ofNames nonempty areNames]

/-- The empty path leads to where reading starts. -/
theorem location_of_empty {path : Path} (empty : path.text = []) (working : Location) :
    path.location working = working := by
  rcases path with ⟨text⟩
  subst empty
  rfl

theorem location_ofNames {parts : List Text} (nonempty : parts ≠ [])
    (areNames : ∀ part ∈ parts, IsName part) (working : Location) :
    (ofNames parts).location working = working ++ parts := by
  have straight : .up ∉ (ofNames parts).steps := by simp [steps_ofNames nonempty areNames]
  rw [location_eq_start_append straight, steps_ofNames nonempty areNames, names_map_name, start,
    isAbsolute_ofNames areNames]
  rfl

/-- Names behind a path lead to that many entries below it, also behind the empty path. -/
theorem location_join_ofNames (base : Path) {parts : List Text} (nonempty : parts ≠ [])
    (areNames : ∀ part ∈ parts, IsName part) (working : Location) :
    (base.join (ofNames parts)).location working = base.location working ++ parts := by
  by_cases empty : base.text = []
  · rw [join_of_empty empty, location_of_empty empty, location_ofNames nonempty areNames]
  · have straight : .up ∉ parts.map Step.name := by simp
    rw [location, start, steps_join_ofNames empty nonempty areNames,
      isAbsolute_join empty (isAbsolute_ofNames areNames), List.foldl_append,
      foldl_apply_eq_append_names straight, names_map_name]
    rfl

/-! ## Plain absolute paths -/

theorem isName_of_mem_steps {path : Path} {part : Text} (member : .name part ∈ path.steps) :
    IsName part := by
  rcases List.mem_filterMap.1 member with ⟨piece, isPiece, isStep⟩
  have slashFree : '/' ∉ piece := Text.sep_not_mem_of_mem_pieces isPiece
  unfold Step.ofPiece? at isStep
  split at isStep
  case isTrue => cases isStep
  case isFalse nonempty =>
    split at isStep
    case isTrue => cases isStep
    case isFalse ne_here =>
      split at isStep
      case isTrue => cases isStep
      case isFalse ne_up =>
        cases isStep
        exact ⟨nonempty, ne_here, ne_up, slashFree⟩

/-- Steps lead from names to names. -/
theorem isName_of_mem_foldl {steps : List Step} {place : Location}
    (areNames : ∀ part, .name part ∈ steps → IsName part) (start : ∀ name ∈ place, IsName name) :
    ∀ name ∈ steps.foldl Step.apply place, IsName name := by
  induction steps generalizing place with
  | nil => exact start
  | cons step rest ih =>
      refine ih (fun part member => areNames part (List.mem_cons_of_mem _ member)) ?_
      intro name member
      cases step with
      | here => exact start name member
      | up => exact start name (List.dropLast_subset _ member)
      | name part =>
          rcases List.mem_append.1 member with earlier | last
          · exact start name earlier
          · rw [List.mem_singleton.1 last]
            exact areNames part List.mem_cons_self

theorem isName_of_mem_location {path : Path} {working : Location}
    (areNames : ∀ name ∈ working, IsName name) :
    ∀ name ∈ path.location working, IsName name := by
  refine isName_of_mem_foldl (fun _ => isName_of_mem_steps) ?_
  unfold start
  split
  case isTrue => exact fun _ none => absurd none List.not_mem_nil
  case isFalse => exact areNames

/-- The plain absolute path to a location. -/
def ofLocation (place : Location) : Path := ⟨'/' :: Text.glue '/' place⟩

section OfLocation

variable {place : Location} (areNames : ∀ name ∈ place, IsName name)

include areNames

theorem steps_ofLocation : (ofLocation place).steps = place.map Step.name := by
  by_cases top : place = []
  · subst top
    rfl
  · have body : (ofLocation place).body = place :=
      Text.pieces_glue top fun name member => (areNames name member).slash_free
    rw [steps, body, filterMap_ofPiece?_of_names areNames]

theorem straight_ofLocation : .up ∉ (ofLocation place).steps := by
  rw [steps_ofLocation areNames]
  simp

theorem location_ofLocation (working : Location) : (ofLocation place).location working = place := by
  rw [location_eq_start_append (straight_ofLocation areNames), steps_ofLocation areNames,
    names_map_name]
  rfl

end OfLocation

/-- The plain absolute path to where a path leads, read lexically. -/
def normalized (working : Location) (path : Path) : Path := ofLocation (path.location working)

end Path
end TypedRoutes
