import TypedRoutes.Proofs.Text.Literal
import TypedRoutes.Proofs.Text.Pieces

namespace TypedRoutes

/-!
# Lines

Generated text is made of lines that a line feed ends.  Cutting it at the line feeds gives the lines
back, because nothing that is put into a line can hold one: numerals are digits, and a quoted text
has no character below U+0020.
-/

namespace Text

/-! ## Texts of lines -/

/-- The text of lines, each with the line feed that ends it. -/
def unlines (lines : List Text) : Text := lines.flatMap (· ++ ['\n'])

@[simp] theorem unlines_nil : unlines [] = [] := rfl

@[simp] theorem unlines_cons (line : Text) (lines : List Text) :
    unlines (line :: lines) = line ++ '\n' :: unlines lines := by
  simp [unlines]

@[simp] theorem unlines_append (first second : List Text) :
    unlines (first ++ second) = unlines first ++ unlines second :=
  List.flatMap_append

/-- The lines of a text, and the empty piece after the last line feed. -/
theorem pieces_unlines {lines : List Text} (whole : ∀ line ∈ lines, '\n' ∉ line) :
    pieces '\n' (unlines lines) = lines ++ [[]] := by
  induction lines with
  | nil => rfl
  | cons line lines ih =>
      rw [unlines_cons, pieces_append_sep (whole line List.mem_cons_self),
        ih fun other member => whole other (List.mem_cons_of_mem _ member), List.cons_append]

/-- The lines of a text that begin in a given way. -/
def linesFrom (beginning t : Text) : List Text := (pieces '\n' t).filter beginning.isPrefixOf

/-- Of a text of lines, the lines that begin in a given way are those of its lines. -/
theorem linesFrom_unlines {beginning : Text} (nonempty : beginning ≠ []) {lines : List Text}
    (whole : ∀ line ∈ lines, '\n' ∉ line) :
    linesFrom beginning (unlines lines) = lines.filter beginning.isPrefixOf := by
  have notEmpty : beginning.isPrefixOf [] = false := by
    cases beginning with
    | nil => exact absurd rfl nonempty
    | cons c rest => rfl
  rw [linesFrom, pieces_unlines whole, List.filter_append, List.filter_cons_of_neg (by simp [notEmpty]),
    List.filter_nil, List.append_nil]

/-- A text between two line feeds is a line. -/
theorem mem_pieces_of_infix {first line rest t : Text} (whole : '\n' ∉ line)
    (within : first ++ '\n' :: (line ++ '\n' :: rest) <:+: t) : line ∈ pieces '\n' t := by
  rcases within with ⟨before, after, rfl⟩
  have shape : before ++ (first ++ '\n' :: (line ++ '\n' :: rest)) ++ after =
      (before ++ first) ++ '\n' :: (line ++ '\n' :: (rest ++ after)) := by simp
  rw [shape, pieces_append, pieces_append_sep whole]
  simp

/-! ## What lines hold -/

@[simp] theorem newline_not_mem_ofNat (n : Nat) : '\n' ∉ ofNat n := by
  intro member
  have digit := Nat.isDigit_of_mem_toDigits (by decide) (by decide) member
  exact absurd digit (by decide)

theorem space_le_hexDigit {n : Nat} (bound : n < 16) : 0x20 ≤ (hexDigit n).toNat := by
  have each : ∀ n : Fin 16, 0x20 ≤ (hexDigit n).toNat := by decide
  exact each ⟨n, bound⟩

/-- An escape holds no character below U+0020. -/
theorem space_le_of_mem_escapeChar {c d : Char} (member : d ∈ escapeChar c) : 0x20 ≤ d.toNat := by
  rcases escape_cases c with ⟨letter, isEscape, meaning⟩ | ⟨control, isEscape⟩ | ⟨-, -, visible, isEscape⟩
  all_goals
    rw [isEscape] at member
    simp only [List.mem_cons, List.not_mem_nil, or_false] at member
  · rcases member with rfl | rfl
    · decide
    · exact space_le_of_escaped? meaning
  · rcases member with rfl | rfl | rfl | rfl | rfl | rfl
    · decide
    · decide
    · decide
    · decide
    · exact space_le_hexDigit (by omega)
    · exact space_le_hexDigit (by omega)
  · rw [member]
    exact visible

/-- A quoted text holds no character below U+0020. -/
theorem space_le_of_mem_quote {t : Text} {d : Char} (member : d ∈ quote t) : 0x20 ≤ d.toNat := by
  rw [quote, List.mem_append, List.mem_cons, List.mem_singleton, List.mem_flatMap] at member
  rcases member with (rfl | ⟨c, -, escaped⟩) | rfl
  · decide
  · exact space_le_of_mem_escapeChar escaped
  · decide

@[simp] theorem newline_not_mem_quote (t : Text) : '\n' ∉ quote t := by
  intro member
  have bound := space_le_of_mem_quote member
  exact absurd bound (by decide)

end Text
end TypedRoutes
