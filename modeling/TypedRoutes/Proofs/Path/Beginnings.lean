import TypedRoutes.Proofs.Path.Location
import TypedRoutes.Disk.Basic
import Mathlib.Data.List.Induction

namespace TypedRoutes

/-!
# The directories above a path

The directories above a path are given by the beginnings of its pieces.  Written out, a beginning
has its pieces again, and its text is a beginning of the text of the whole.  So what a file system
accepts of a path by its length and its characters, it accepts of the directories above it.
-/

namespace Text

theorem glue_concat (sep : Char) {front : List Text} (nonempty : front ≠ []) (last : Text) :
    glue sep (front ++ [last]) = glue sep front ++ sep :: last :=
  glue_append sep nonempty (List.cons_ne_nil last [])

theorem utf8Length_append (first second : Text) :
    utf8Length (first ++ second) = utf8Length first + utf8Length second := by
  induction first with
  | nil => simp [utf8Length]
  | cons c first ih => simp [utf8Length, ih, Nat.add_assoc]

end Text

namespace Path

/-- What a file system accepts of a path whatever it holds: no name and no path is too long, and
there is no NUL. -/
structure Fits (path : Path) : Prop where
  nul_free : '\x00' ∉ path.text
  short : Text.utf8Length path.text ≤ Disk.pathLimit
  names_short : ∀ name ∈ names path.steps, Text.utf8Length name ≤ Disk.nameLimit

instance (path : Path) : Decidable path.Fits :=
  decidable_of_iff ('\x00' ∉ path.text ∧ Text.utf8Length path.text ≤ Disk.pathLimit ∧
      ∀ name ∈ names path.steps, Text.utf8Length name ≤ Disk.nameLimit)
    ⟨fun ⟨nulFree, short, namesShort⟩ => ⟨nulFree, short, namesShort⟩,
      fun fits => ⟨fits.nul_free, fits.short, fits.names_short⟩⟩

/-- Pieces that stay apart when a path is made of them. -/
structure IsBody (absolute : Bool) (pieces : List Text) : Prop where
  slash_free : ∀ piece ∈ pieces, '/' ∉ piece
  first_ne_nil : absolute = false → pieces.head? ≠ some []

theorem isBody_body {path : Path} (nonempty : path.text ≠ []) :
    IsBody path.isAbsolute path.body where
  slash_free _ member := Text.sep_not_mem_of_mem_pieces member
  first_ne_nil relative := by
    rcases List.exists_cons_of_ne_nil nonempty with ⟨c, rest, shape⟩
    have different : c ≠ '/' := by simpa [isAbsolute, shape] using relative
    rw [body_eq_pieces, inner, relative, shape]
    simp [Text.pieces_cons different]

/-- The steps of pieces that are given from the last to the first. -/
def stepsOf (pieces : List Text) : List Step := pieces.reverse.filterMap Step.ofPiece?

theorem stepsOf_cons (piece : Text) (before : List Text) :
    stepsOf (piece :: before) = stepsOf before ++ (Step.ofPiece? piece).toList := by
  rw [stepsOf, List.reverse_cons, List.filterMap_append]
  cases shown : Step.ofPiece? piece <;> simp [stepsOf, shown]

theorem steps_eq_stepsOf (path : Path) : path.steps = stepsOf path.body.reverse := by
  rw [stepsOf, List.reverse_reverse]
  rfl

theorem straight_init {piece : Text} {before : List Text}
    (straight : .up ∉ stepsOf (piece :: before)) : .up ∉ stepsOf before := by
  intro member
  rw [stepsOf_cons] at straight
  exact straight (List.mem_append_left _ member)

theorem names_stepsOf_init (piece : Text) (before : List Text) :
    names (stepsOf before) <+: names (stepsOf (piece :: before)) := by
  rw [stepsOf_cons, names_append]
  exact List.prefix_append _ _

/-- A piece that adds nothing adds no name. -/
theorem names_stepsOf_of_blank {absolute : Bool} {piece : Text} {before : List Text}
    (blank : isBlank absolute before piece = true) :
    names (stepsOf (piece :: before)) = names (stepsOf before) := by
  have noName : piece = [] ∨ piece = ['.'] := by
    simp only [isBlank, Bool.or_eq_true, Bool.and_eq_true, decide_eq_true_eq] at blank
    exact blank.imp_right And.left
  rw [stepsOf_cons]
  rcases noName with rfl | rfl <;> simp [Step.ofPiece?]

/-- A piece that adds something is a name, unless the path goes up or is `.` alone. -/
theorem name_or_here_of_not_blank {absolute : Bool} {piece : Text} {before : List Text}
    (notBlank : isBlank absolute before piece = false)
    (straight : .up ∉ stepsOf (piece :: before)) :
    stepsOf (piece :: before) = stepsOf before ++ [.name piece] ∨
      (absolute = false ∧ before = [] ∧ stepsOf (piece :: before) = [.here]) := by
  simp only [isBlank, Bool.or_eq_false_iff, decide_eq_false_iff_not] at notBlank
  rw [stepsOf_cons] at straight ⊢
  by_cases here : piece = ['.']
  · right
    subst here
    obtain ⟨relative, rfl⟩ : absolute = false ∧ before = [] := by simpa using notBlank.2
    exact ⟨relative, rfl, rfl⟩
  · by_cases up : piece = ['.', '.']
    · subst up
      simp [Step.ofPiece?] at straight
    · left
      simp [Step.ofPiece?, notBlank.1, here, up]

namespace IsBody

variable {absolute : Bool} {piece : Text} {before : List Text}

/-- Pieces without the last one still stay apart. -/
theorem init (isBody : IsBody absolute (piece :: before).reverse) :
    IsBody absolute before.reverse where
  slash_free other member :=
    isBody.slash_free other (by rw [List.reverse_cons]; exact List.mem_append_left _ member)
  first_ne_nil relative := by
    have notEmpty := isBody.first_ne_nil relative
    cases reversed : before.reverse with
    | nil => simp
    | cons first rest => simpa [reversed] using notEmpty

theorem isAbsolute_ofReversed {pieces : List Text} (isBody : IsBody absolute pieces.reverse) :
    (ofReversed absolute pieces).isAbsolute = absolute := by
  cases absolute with
  | true => rfl
  | false =>
      cases reversed : pieces.reverse with
      | nil => simp [isAbsolute, ofReversed, reversed, Text.glue]
      | cons first rest =>
          have nonempty : first ≠ [] := by simpa [reversed] using isBody.first_ne_nil rfl
          rcases List.exists_cons_of_ne_nil nonempty with ⟨c, first, rfl⟩
          have slashFree : '/' ∉ c :: first :=
            isBody.slash_free _ (by rw [reversed]; exact List.mem_cons_self)
          have different : c ≠ '/' := fun same => slashFree (same ▸ List.mem_cons_self)
          cases rest <;> simpa [isAbsolute, ofReversed, reversed, Text.glue] using different

theorem body_ofReversed {pieces : List Text} (isBody : IsBody absolute pieces.reverse)
    (nonempty : pieces ≠ []) : (ofReversed absolute pieces).body = pieces.reverse := by
  rw [body_eq_pieces, inner, isBody.isAbsolute_ofReversed]
  have cut : Text.pieces '/' (Text.glue '/' pieces.reverse) = pieces.reverse :=
    Text.pieces_glue (by simpa using nonempty) isBody.slash_free
  cases absolute <;> exact cut

theorem steps_ofReversed {pieces : List Text} (isBody : IsBody absolute pieces.reverse)
    (nonempty : pieces ≠ []) : (ofReversed absolute pieces).steps = stepsOf pieces := by
  rw [steps, isBody.body_ofReversed nonempty, stepsOf]

theorem start_ofReversed {pieces : List Text} (isBody : IsBody absolute pieces.reverse)
    (working : Location) :
    (ofReversed absolute pieces).start working = if absolute then [] else working := by
  rw [start, isBody.isAbsolute_ofReversed]

end IsBody

/-- A path is made of its pieces. -/
theorem ofReversed_body (path : Path) : ofReversed path.isAbsolute path.body.reverse = path := by
  rcases path with ⟨text⟩
  have glued := Text.glue_pieces '/' (inner ⟨text⟩)
  simp only [ofReversed, List.reverse_reverse, body_eq_pieces, glued]
  unfold inner
  cases absolute : isAbsolute ⟨text⟩ with
  | false => rfl
  | true =>
      cases text with
      | nil => simp [isAbsolute] at absolute
      | cons c text =>
          have slash : c = '/' := by simpa [isAbsolute] using absolute
          rw [slash]
          rfl

/-- A shorter beginning of a path is a beginning of its text. -/
theorem text_ofReversed_init (absolute : Bool) (piece : Text) (before : List Text) :
    (ofReversed absolute before).text <+: (ofReversed absolute (piece :: before)).text := by
  have glued : Text.glue '/' before.reverse <+: Text.glue '/' (piece :: before).reverse := by
    rw [List.reverse_cons]
    by_cases nonempty : before.reverse = []
    · simp [nonempty, Text.glue]
    · rw [Text.glue_concat '/' nonempty]
      exact List.prefix_append _ _
  cases absolute with
  | false => exact glued
  | true => exact List.cons_prefix_cons.2 ⟨rfl, glued⟩

theorem text_ofReversed_ne_nil {absolute : Bool} {piece : Text} {before : List Text}
    (notBlank : isBlank absolute before piece = false) :
    (ofReversed absolute (piece :: before)).text ≠ [] := by
  simp only [isBlank, Bool.or_eq_false_iff, decide_eq_false_iff_not] at notBlank
  cases absolute with
  | true => exact List.cons_ne_nil _ _
  | false =>
      simp only [ofReversed, List.reverse_cons, Bool.false_eq_true, if_false]
      by_cases nonempty : before.reverse = []
      · simpa [nonempty, Text.glue] using notBlank.1
      · simp [Text.glue_concat '/' nonempty]

/-- What fits, fits from its beginning. -/
theorem fits_init {absolute : Bool} {piece : Text} {before : List Text} (nonempty : before ≠ [])
    (isBody : IsBody absolute (piece :: before).reverse)
    (fits : (ofReversed absolute (piece :: before)).Fits) : (ofReversed absolute before).Fits := by
  rcases text_ofReversed_init absolute piece before with ⟨rest, text⟩
  rcases fits with ⟨nulFree, short, namesShort⟩
  rw [← text] at nulFree short
  rw [Text.utf8Length_append] at short
  refine ⟨fun member => nulFree (List.mem_append_left _ member), by omega, fun name member => ?_⟩
  apply namesShort name
  rw [isBody.steps_ofReversed (List.cons_ne_nil piece before)]
  rw [isBody.init.steps_ofReversed nonempty] at member
  exact (names_stepsOf_init piece before).subset member

/-! ## Names behind a path -/

/-- What a file system accepts of a path it accepts of the path that it continues. -/
theorem fits_of_join {base rest : Path} (nonempty : base.text ≠ [])
    (relative : rest.isAbsolute = false) (fits : (base.join rest).Fits) : base.Fits := by
  obtain ⟨more, joined⟩ : ∃ more, (base.join rest).text = base.text ++ more := by
    rw [join, relative]
    simp only [Bool.false_eq_true, if_false]
    split
    · exact ⟨_, rfl⟩
    · exact ⟨_, rfl⟩
  have nulFree := fits.nul_free
  have short := fits.short
  have namesShort := fits.names_short
  rw [joined, List.mem_append, not_or] at nulFree
  rw [joined, Text.utf8Length_append] at short
  rw [steps_join nonempty relative, names_append] at namesShort
  exact ⟨nulFree.1, by omega, fun name member => namesShort name (List.mem_append_left _ member)⟩

/-- The path with names behind it, one after the other. -/
def behind (base : Path) (parts : List Text) : Path :=
  parts.foldl (fun path part => path.join (ofNames [part])) base

theorem behind_concat (base : Path) (parts : List Text) (part : Text) :
    base.behind (parts ++ [part]) = (base.behind parts).join (ofNames [part]) := by
  rw [behind, List.foldl_append]
  rfl

theorem text_behind_ne_nil {base : Path} {parts : List Text} (nonempty : base.text ≠ [])
    (areNames : ∀ part ∈ parts, IsName part) : (base.behind parts).text ≠ [] := by
  induction parts generalizing base with
  | nil => exact nonempty
  | cons part parts ih =>
      apply ih
      · exact text_join_ne_nil nonempty (isAbsolute_ofNames (by simpa using areNames part (by simp)))
      · exact fun other member => areNames other (List.mem_cons_of_mem _ member)

/-- Several names behind a path are the last one behind the others. -/
theorem join_ofNames_concat {base : Path} {parts : List Text} {part : Text}
    (baseNonempty : base.text ≠ []) (nonempty : parts ≠ [])
    (areNames : ∀ other ∈ parts ++ [part], IsName other) :
    base.join (ofNames (parts ++ [part])) = (base.join (ofNames parts)).join (ofNames [part]) := by
  have areNamesBefore : ∀ other ∈ parts, IsName other :=
    fun other member => areNames other (List.mem_append_left _ member)
  have relativeBefore := isAbsolute_ofNames areNamesBefore
  have relativeLast : (ofNames [part]).isAbsolute = false :=
    isAbsolute_ofNames fun other member => areNames other (List.mem_append_right _ member)
  have noSlash := endsInSlash_join_ofNames baseNonempty nonempty areNamesBefore
  have joined : ∀ rest : Path, rest.isAbsolute = false → base.join rest
      = ⟨base.text ++ (if base.endsInSlash then rest.text else '/' :: rest.text)⟩ := by
    intro rest relative
    rw [join, relative]
    cases base.endsInSlash <;> simp [baseNonempty]
  have nonemptyJoined := text_join_ne_nil baseNonempty relativeBefore
  have last : (base.join (ofNames parts)).join (ofNames [part])
      = ⟨(base.join (ofNames parts)).text ++ '/' :: part⟩ := by
    rw [join, relativeLast, noSlash]
    simp only [nonemptyJoined, Bool.false_eq_true, or_self, if_false]
    rfl
  rw [last, joined _ (isAbsolute_ofNames areNames), joined _ relativeBefore, ofNames,
    Text.glue_concat '/' nonempty, ofNames]
  cases base.endsInSlash <;> simp

theorem join_ofNames_eq_behind {base : Path} {parts : List Text} (baseNonempty : base.text ≠ [])
    (nonempty : parts ≠ []) (areNames : ∀ part ∈ parts, IsName part) :
    base.join (ofNames parts) = base.behind parts := by
  induction parts using List.reverseRecOn with
  | nil => exact absurd rfl nonempty
  | append_singleton parts part ih =>
      rw [behind_concat]
      by_cases first : parts = []
      · rw [first]
        rfl
      · rw [join_ofNames_concat baseNonempty first areNames,
          ih first fun other member => areNames other (List.mem_append_left _ member)]

theorem beginnings_bodyBefore (base : Path) :
    beginnings base.isAbsolute base.bodyBefore.reverse
      = beginnings base.isAbsolute base.body.reverse := by
  cases ends : base.endsInSlash with
  | false => rw [bodyBefore, ends]; rfl
  | true =>
      obtain ⟨front, shape⟩ : ∃ front, base.text = front ++ ['/'] :=
        List.getLast?_eq_some_iff.1 (by simpa [endsInSlash] using ends)
      rcases base with ⟨text⟩
      subst shape
      rw [body_eq_of_endsInSlash, List.reverse_append]
      simp [beginnings, isBlank]

/-- The directories above a name behind a path are those along the path. -/
theorem upward_join_name {base : Path} {name : Text} (nonempty : base.text ≠ [])
    (isName : IsName name) :
    (base.join (ofNames [name])).upward = base.join (ofNames [name]) :: base.upward := by
  have areNames : ∀ part ∈ [name], IsName part := by simpa using isName
  have notBlank : isBlank base.isAbsolute base.bodyBefore.reverse name = false := by
    simp [isBlank, isName.nonempty, isName.ne_here]
  have body := body_join_ofNames nonempty (List.cons_ne_nil _ _) areNames
  have whole := ofReversed_body (base.join (ofNames [name]))
  rw [isAbsolute_join nonempty (isAbsolute_ofNames areNames), body, List.reverse_append,
    List.reverse_singleton, List.singleton_append] at whole
  rw [upward, isAbsolute_join nonempty (isAbsolute_ofNames areNames), body, List.reverse_append,
    List.reverse_singleton, List.singleton_append, beginnings, notBlank, upward,
    ← beginnings_bodyBefore]
  simp only [Bool.false_eq_true, if_false, List.map_cons, whole]

theorem above_join_name {base : Path} {name : Text} (nonempty : base.text ≠ [])
    (isName : IsName name) : (base.join (ofNames [name])).above = base.upward := by
  rw [above, upward_join_name nonempty isName, List.tail_cons]

end Path
end TypedRoutes
