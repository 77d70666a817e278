import TypedRoutes.Route.Basic

namespace TypedRoutes

/-!
# The parent that a route names

Every route names exactly one parent: the one that is given, or else the part of its id before the
last `/`, or else the root.  The rule is stated here on the id as a whole, without cutting it.
-/

namespace Text

variable {sep : Char} {t before after : Text}

/-- A text is cut nowhere exactly if the separator is not in it. -/
theorem cutLast?_eq_none_iff : cutLast? sep t = none ↔ sep ∉ t := by
  induction t with
  | nil => simp [cutLast?]
  | cons c rest ih =>
      cases cutRest : cutLast? sep rest with
      | some parts =>
          rw [cutRest] at ih
          have inRest : sep ∈ rest := by simpa using ih
          simp [cutLast?, cutRest, inRest]
      | none =>
          have free := ih.1 cutRest
          by_cases same : c = sep
          · simp [cutLast?, cutRest, same]
          · simp [cutLast?, cutRest, same, Ne.symm same, free]

/-- The parts at a separator with none behind it are determined by the text. -/
theorem eq_of_append_sep_eq {first second more : Text} (free : sep ∉ after) (freeMore : sep ∉ more)
    (same : first ++ sep :: after = second ++ sep :: more) : first = second ∧ after = more := by
  rcases List.append_eq_append_iff.1 same with ⟨between, rfl, shape⟩ | ⟨between, rfl, shape⟩
  · cases between with
    | nil => simpa using shape
    | cons c between =>
        cases shape
        simp at free
  · cases between with
    | nil => simpa [eq_comm] using shape
    | cons c between =>
        cases shape
        simp at freeMore

/-- A text is cut at a separator with none behind it. -/
theorem cutLast?_eq_some_iff :
    cutLast? sep t = some (before, after) ↔ t = before ++ sep :: after ∧ sep ∉ after := by
  have sound : ∀ {before after}, cutLast? sep t = some (before, after) →
      t = before ++ sep :: after ∧ sep ∉ after := by
    induction t with
    | nil => simp [cutLast?]
    | cons c rest ih =>
        intro before after cut
        cases cutRest : cutLast? sep rest with
        | some parts =>
            simp only [cutLast?, cutRest, Option.some.injEq, Prod.mk.injEq] at cut
            rcases cut with ⟨rfl, rfl⟩
            rcases ih cutRest with ⟨shape, free⟩
            exact ⟨congrArg (c :: ·) shape, free⟩
        | none =>
            simp only [cutLast?, cutRest] at cut
            split at cut
            · rename_i same
              cases cut
              exact ⟨by rw [same]; rfl, cutLast?_eq_none_iff.1 cutRest⟩
            · cases cut
  constructor
  · exact sound
  · rintro ⟨shape, free⟩
    cases cut : cutLast? sep t with
    | none =>
        have missing := cutLast?_eq_none_iff.1 cut
        simp [shape] at missing
    | some parts =>
        rcases sound cut with ⟨shapeCut, freeCut⟩
        rcases eq_of_append_sep_eq freeCut free (shapeCut.symm.trans shape) with ⟨rfl, rfl⟩
        rfl

end Text

namespace Route

/-- The parent that a route names below a root. -/
inductive NamesParent (rootId : Text) (route : Route) : Text → Prop where
  | given {parent : Text} (given : route.parentId = some parent) : NamesParent rootId route parent
  | before {parent last : Text} (notGiven : route.parentId = none)
      (shape : route.id = parent ++ '/' :: last) (isLast : '/' ∉ last) (nonempty : parent ≠ []) :
      NamesParent rootId route parent
  | root (notGiven : route.parentId = none) (shape : '/' ∉ route.id.tail) :
      NamesParent rootId route rootId

variable {rootId parent : Text} {route : Route}

/-- An id names the part before its last `/`, unless there is none. -/
theorem parentOfId_eq_iff {id : Text} :
    parentOfId rootId id = parent ↔
      (∃ last, id = parent ++ '/' :: last ∧ '/' ∉ last ∧ parent ≠ []) ∨
        ('/' ∉ id.tail ∧ parent = rootId) := by
  unfold parentOfId
  cases cut : Text.cutLast? '/' id with
  | none =>
      have free := Text.cutLast?_eq_none_iff.1 cut
      constructor
      · rintro rfl
        exact .inr ⟨fun member => free (List.mem_of_mem_tail member), rfl⟩
      · rintro (⟨last, rfl, -, -⟩ | ⟨-, rfl⟩)
        · simp at free
        · rfl
  | some parts =>
      rcases parts with ⟨front, last⟩
      rcases Text.cutLast?_eq_some_iff.1 cut with ⟨rfl, isLast⟩
      cases front with
      | nil =>
          simp only [if_true]
          constructor
          · rintro rfl
            exact .inr ⟨isLast, rfl⟩
          · rintro (⟨other, same, otherLast, nonempty⟩ | ⟨-, rfl⟩)
            · exact absurd (Text.eq_of_append_sep_eq isLast otherLast same).1.symm nonempty
            · rfl
      | cons c front =>
          simp only [reduceCtorEq, if_false]
          constructor
          · rintro rfl
            exact .inl ⟨last, rfl, isLast, List.cons_ne_nil c front⟩
          · rintro (⟨other, same, otherLast, -⟩ | ⟨free, -⟩)
            · exact (Text.eq_of_append_sep_eq isLast otherLast same).1
            · simp at free

/-- Of the rules for a parent one applies, and it gives the parent of the route. -/
theorem namesParent_iff : NamesParent rootId route parent ↔ route.parent rootId = parent := by
  unfold Route.parent
  constructor
  · intro names
    cases names with
    | given given => rw [given, Option.getD_some]
    | before notGiven shape isLast nonempty =>
        rw [notGiven, Option.getD_none, parentOfId_eq_iff]
        exact .inl ⟨_, shape, isLast, nonempty⟩
    | root notGiven shape =>
        rw [notGiven, Option.getD_none, parentOfId_eq_iff]
        exact .inr ⟨shape, rfl⟩
  · intro isParent
    cases given : route.parentId with
    | some named =>
        rw [given, Option.getD_some] at isParent
        exact .given (given.trans (congrArg some isParent))
    | none =>
        rw [given, Option.getD_none, parentOfId_eq_iff] at isParent
        rcases isParent with ⟨last, shape, isLast, nonempty⟩ | ⟨shape, rfl⟩
        · exact .before given shape isLast nonempty
        · exact .root given shape

end Route
end TypedRoutes
