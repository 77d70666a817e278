import TypedRoutes.Proofs.Path.Location

namespace TypedRoutes

/-!
# Reading a path piece by piece

A path says where to go one piece after the other, from the top of the file system or from the working
directory.  An empty piece and `.` stay where they are, `..` goes up and stays at the top, and every
other piece goes down to the entry of that name.  The location of a path is where this leads.
-/

namespace Path

/-! ## Pieces -/

/-- Going along pieces, from one place to another. -/
inductive Leads : Location → List Text → Location → Prop where
  | arrived {place : Location} : Leads place [] place
  | empty {place finish : Location} {rest : List Text} (after : Leads place rest finish) :
      Leads place ([] :: rest) finish
  | here {place finish : Location} {rest : List Text} (after : Leads place rest finish) :
      Leads place (['.'] :: rest) finish
  | up {place finish : Location} {name : Text} {rest : List Text} (after : Leads place rest finish) :
      Leads (place ++ [name]) (['.', '.'] :: rest) finish
  | top {finish : Location} {rest : List Text} (after : Leads [] rest finish) :
      Leads [] (['.', '.'] :: rest) finish
  | down {place finish : Location} {name : Text} {rest : List Text} (isName : IsName name)
      (after : Leads (place ++ [name]) rest finish) : Leads place (name :: rest) finish

variable {place finish working : Location} {pieces rest : List Text}

/-- `..` is read everywhere. -/
theorem Leads.up_of_dropLast (after : Leads place.dropLast rest finish) :
    Leads place (['.', '.'] :: rest) finish := by
  rcases List.eq_nil_or_concat place with rfl | ⟨above, name, rfl⟩
  · exact .top after
  · rw [List.concat_eq_append] at after ⊢
    rw [List.dropLast_concat] at after
    exact .up after

/-- The steps of pieces lead where the pieces do. -/
theorem leads_iff (slashFree : ∀ piece ∈ pieces, '/' ∉ piece) :
    Leads place pieces finish ↔
      (pieces.filterMap Step.ofPiece?).foldl Step.apply place = finish := by
  constructor
  · intro leads
    clear slashFree
    induction leads with
    | arrived => rfl
    | empty after ih => exact ih
    | here after ih => exact ih
    | up after ih =>
        have isUp : Step.ofPiece? ['.', '.'] = some .up := rfl
        rw [List.filterMap_cons_some isUp, List.foldl_cons, Step.apply, List.dropLast_concat]
        exact ih
    | top after ih => exact ih
    | down isName after ih =>
        rw [List.filterMap_cons_some isName.ofPiece?]
        exact ih
  · intro leads
    induction pieces generalizing place with
    | nil =>
        cases leads
        exact .arrived
    | cons piece rest ih =>
        have go : ∀ {next}, (rest.filterMap Step.ofPiece?).foldl Step.apply next = finish →
            Leads next rest finish :=
          ih fun other member => slashFree other (List.mem_cons_of_mem _ member)
        by_cases isEmpty : piece = []
        · subst isEmpty
          exact .empty (go leads)
        by_cases isHere : piece = ['.']
        · subst isHere
          exact .here (go leads)
        by_cases isUp : piece = ['.', '.']
        · subst isUp
          exact .up_of_dropLast (go leads)
        have isName : IsName piece := ⟨isEmpty, isHere, isUp, slashFree piece List.mem_cons_self⟩
        rw [List.filterMap_cons_some isName.ofPiece?] at leads
        exact .down isName (go leads)

/-- Cutting what pieces are glued to gives the same steps, also where there are no pieces. -/
theorem filterMap_pieces_glue (slashFree : ∀ piece ∈ pieces, '/' ∉ piece) :
    (Text.pieces '/' (Text.glue '/' pieces)).filterMap Step.ofPiece? =
      pieces.filterMap Step.ofPiece? := by
  by_cases none : pieces = []
  · subst none
    rfl
  · rw [Text.pieces_glue none slashFree]

/-! ## Paths -/

/-- Where a path leads that is read from a working directory.  A `/` at its front sends it to the top of
the file system first. -/
inductive LeadsTo (working : Location) : Path → Location → Prop where
  | absolute {pieces : List Text} {place : Location} (slashFree : ∀ piece ∈ pieces, '/' ∉ piece)
      (leads : Leads [] pieces place) : LeadsTo working ⟨'/' :: Text.glue '/' pieces⟩ place
  | relative {pieces : List Text} {place : Location} (slashFree : ∀ piece ∈ pieces, '/' ∉ piece)
      (relative : (Text.glue '/' pieces).head? ≠ some '/') (leads : Leads working pieces place) :
      LeadsTo working ⟨Text.glue '/' pieces⟩ place

/-- Every path leads to its location and nowhere else. -/
theorem leadsTo_iff {path : Path} : LeadsTo working path place ↔ path.location working = place := by
  constructor
  · rintro (⟨slashFree, leads⟩ | ⟨slashFree, relative, leads⟩)
    · rw [leads_iff slashFree, ← filterMap_pieces_glue slashFree] at leads
      exact leads
    · rw [leads_iff slashFree, ← filterMap_pieces_glue slashFree] at leads
      rw [location, steps, body_eq_pieces, start, inner, isAbsolute, decide_eq_false relative]
      exact leads
  · rintro rfl
    rcases path with ⟨text⟩
    have slashFree : ∀ piece ∈ body ⟨text⟩, '/' ∉ piece := fun _ => Text.sep_not_mem_of_mem_pieces
    have leads : Leads (start working ⟨text⟩) (body ⟨text⟩) (location working ⟨text⟩) :=
      (leads_iff slashFree).2 rfl
    by_cases absolute : text.head? = some '/'
    · rcases List.head?_eq_some_iff.1 absolute with ⟨rest, rfl⟩
      have whole : LeadsTo working ⟨'/' :: Text.glue '/' (body ⟨'/' :: rest⟩)⟩ _ :=
        .absolute slashFree leads
      rwa [body_eq_pieces, Text.glue_pieces] at whole
    · have isInner : inner ⟨text⟩ = text := by simp [inner, isAbsolute, absolute]
      have starts : start working ⟨text⟩ = working := by simp [start, isAbsolute, absolute]
      rw [starts] at leads
      rw [body_eq_pieces, isInner] at slashFree leads
      have whole := LeadsTo.relative slashFree (by rwa [Text.glue_pieces]) leads
      rwa [Text.glue_pieces] at whole

end Path
end TypedRoutes
