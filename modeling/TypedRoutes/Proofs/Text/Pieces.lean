import TypedRoutes.Text.Basic

namespace TypedRoutes

/-!
# Pieces of composed texts

A separator between two texts separates their pieces, so the pieces of texts that are glued together
are the pieces of each.  Where empty pieces mean nothing, what a text says is its words, the pieces that
are not empty.
-/

namespace Text

/-! ## Pieces -/

/-- Cutting distributes over a separator. -/
theorem pieces_append (sep : Char) (before after : Text) :
    pieces sep (before ++ sep :: after) = pieces sep before ++ pieces sep after := by
  induction before with
  | nil => simp
  | cons c before ih =>
      by_cases same : c = sep
      · subst same
        simp only [List.cons_append, pieces_sep, ih]
      · simp only [pieces, List.cons_append, List.cons.injEq] at ih
        rw [List.cons_append, pieces_cons same, pieces_cons same, ih.1, ih.2]
        rfl

/-- Gluing puts one separator between two groups of texts. -/
theorem glue_append (sep : Char) {front back : List Text} (nonempty : front ≠ [])
    (nonemptyBack : back ≠ []) :
    glue sep (front ++ back) = glue sep front ++ sep :: glue sep back := by
  induction front with
  | nil => exact absurd rfl nonempty
  | cons first front ih =>
      cases front with
      | nil =>
          cases back with
          | nil => exact absurd rfl nonemptyBack
          | cons next back => rfl
      | cons second front =>
          have rest := ih (List.cons_ne_nil second front)
          simp only [List.cons_append, glue, List.append_assoc] at rest ⊢
          rw [rest]

/-- The pieces of glued texts are those of each text. -/
theorem pieces_glue_eq_flatMap (sep : Char) {texts : List Text} (nonempty : texts ≠ []) :
    pieces sep (glue sep texts) = texts.flatMap (pieces sep) := by
  induction texts with
  | nil => exact absurd rfl nonempty
  | cons first rest ih =>
      cases rest with
      | nil => simp [glue]
      | cons second rest =>
          rw [glue, pieces_append, ih (List.cons_ne_nil second rest), ← List.flatMap_cons]

/-! ## Words -/

/-- The pieces that are not empty. -/
def words (sep : Char) (t : Text) : List Text := (pieces sep t).filter (· ≠ [])

@[simp] theorem words_nil (sep : Char) : words sep [] = [] := rfl

@[simp] theorem words_sep (sep : Char) (t : Text) : words sep (sep :: t) = words sep t := by
  rw [words, pieces_sep, List.filter_cons_of_neg (by simp), words]

theorem words_append (sep : Char) (before after : Text) :
    words sep (before ++ sep :: after) = words sep before ++ words sep after := by
  rw [words, pieces_append, List.filter_append, words, words]

/-- The words of glued texts are those of each text. -/
theorem words_glue (sep : Char) (texts : List Text) :
    words sep (glue sep texts) = texts.flatMap (words sep) := by
  cases texts with
  | nil => rfl
  | cons first rest =>
      rw [words, pieces_glue_eq_flatMap sep (List.cons_ne_nil first rest), List.filter_flatMap]
      rfl

end Text
end TypedRoutes
