namespace TypedRoutes

/-!
# Text

Ids, path patterns, file names and generated sources are lists of characters, the form that
recursion and induction speak of.  The two operations that everything else rests on are cutting
a text at a separator (`pieces`) and gluing pieces with one (`glue`); the main statements are that
cutting loses nothing (`glue_pieces`) and that separator-free pieces are found again
(`pieces_glue`).
-/

abbrev Text := List Char

instance : Coe String Text := ⟨String.toList⟩

namespace Text

def ofNat (n : Nat) : Text := Nat.toDigits 10 n

/-- The decimal numeral of an integer, with a sign only when it is negative. -/
def ofInt : Int → Text
  | .ofNat n => ofNat n
  | .negSucc n => '-' :: ofNat (n + 1)

def utf8Length : Text → Nat
  | [] => 0
  | c :: rest => c.utf8Size + utf8Length rest

def times : Nat → Text → Text
  | 0, _ => []
  | n + 1, t => t ++ times n t

/-! ## Cutting and gluing -/

/-- The piece before the first separator, and the pieces after it. -/
def cut (sep : Char) : Text → Text × List Text
  | [] => ([], [])
  | c :: rest =>
      let found := cut sep rest
      if c = sep then ([], found.1 :: found.2) else (c :: found.1, found.2)

/-- All pieces between separators; `n` separators give `n + 1` pieces. -/
def pieces (sep : Char) (t : Text) : List Text := (cut sep t).1 :: (cut sep t).2

def glue (sep : Char) : List Text → Text
  | [] => []
  | [p] => p
  | p :: q :: rest => p ++ sep :: glue sep (q :: rest)

def glueWith (between : Text) : List Text → Text
  | [] => []
  | [p] => p
  | p :: q :: rest => p ++ between ++ glueWith between (q :: rest)

@[simp] theorem pieces_nil (sep : Char) : pieces sep [] = [[]] := rfl

@[simp] theorem pieces_sep (sep : Char) (t : Text) :
    pieces sep (sep :: t) = [] :: pieces sep t := by
  simp [pieces, cut]

theorem pieces_cons {sep c : Char} (h : c ≠ sep) (t : Text) :
    pieces sep (c :: t) = (c :: (cut sep t).1) :: (cut sep t).2 := by
  simp [pieces, cut, h]

/-- Gluing the pieces gives the text back. -/
theorem glue_pieces (sep : Char) (t : Text) : glue sep (pieces sep t) = t := by
  induction t with
  | nil => rfl
  | cons c t ih =>
      by_cases h : c = sep
      · subst h
        rw [pieces_sep]
        simpa [pieces, glue] using ih
      · rw [pieces_cons h]
        unfold pieces at ih
        cases hs : (cut sep t).2 with
        | nil =>
            rw [hs] at ih
            simpa [glue] using ih
        | cons p ps =>
            rw [hs] at ih
            simpa [glue] using ih

/-- No piece holds the separator. -/
theorem sep_not_mem_of_mem_pieces {sep : Char} {t p : Text} (h : p ∈ pieces sep t) : sep ∉ p := by
  induction t generalizing p with
  | nil => simp_all
  | cons c t ih =>
      by_cases hc : c = sep
      · subst hc
        rw [pieces_sep] at h
        rcases List.mem_cons.1 h with rfl | h
        · simp
        · exact ih h
      · rw [pieces_cons hc] at h
        rcases List.mem_cons.1 h with rfl | h
        · have := ih (p := (cut sep t).1) (by simp [pieces])
          simp only [List.mem_cons, not_or]
          exact ⟨Ne.symm hc, this⟩
        · exact ih (List.mem_cons_of_mem _ h)

/-- A text without the separator is its own only piece. -/
theorem pieces_eq_singleton {sep : Char} {p : Text} (h : sep ∉ p) : pieces sep p = [p] := by
  induction p with
  | nil => rfl
  | cons c p ih =>
      simp only [List.mem_cons, not_or] at h
      have hp := ih h.2
      simp only [pieces, List.cons.injEq] at hp
      rw [pieces_cons (Ne.symm h.1), hp.1, hp.2]

/-- A separator after a separator-free piece ends that piece. -/
theorem pieces_append_sep {sep : Char} {p : Text} (h : sep ∉ p) (t : Text) :
    pieces sep (p ++ sep :: t) = p :: pieces sep t := by
  induction p with
  | nil => simp
  | cons c p ih =>
      simp only [List.mem_cons, not_or] at h
      have hp := ih h.2
      simp only [pieces, List.cons.injEq] at hp
      rw [List.cons_append, pieces_cons (Ne.symm h.1), hp.1, hp.2, pieces]

/-- Pieces that hold no separator are found again after gluing. -/
theorem pieces_glue {sep : Char} {ps : List Text} (hne : ps ≠ []) (h : ∀ p ∈ ps, sep ∉ p) :
    pieces sep (glue sep ps) = ps := by
  induction ps with
  | nil => exact absurd rfl hne
  | cons p ps ih =>
      cases ps with
      | nil => exact pieces_eq_singleton (h p (by simp))
      | cons q ps =>
          rw [glue, pieces_append_sep (h p (by simp)), ih (by simp)]
          intro x hx
          exact h x (List.mem_cons_of_mem _ hx)

/-! ## Ends -/

/-- The text without one given last character, if it ends in it. -/
def stripLast? (c : Char) (t : Text) : Option Text :=
  if t.getLast? = some c then some t.dropLast else none

/-- The text without a given ending, if it has it. -/
def stripEnding? (ending t : Text) : Option Text := ending.isSuffixOf? t

/-- The text cut at its last separator, if it has one. -/
def cutLast? (sep : Char) : Text → Option (Text × Text)
  | [] => none
  | c :: rest =>
      match cutLast? sep rest with
      | some (before, after) => some (c :: before, after)
      | none => if c = sep then some ([], rest) else none

end Text
end TypedRoutes
