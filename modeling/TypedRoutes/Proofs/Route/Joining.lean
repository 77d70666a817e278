import TypedRoutes.Proofs.Route.FullPath
import TypedRoutes.Proofs.Text.Pieces

namespace TypedRoutes

/-!
# Full paths have one spelling

However the patterns of a lineage are spelled, their full path has the words of all of them, one slash
between two words, and a slash in front exactly if the first pattern begins with one.  A text of this
form is determined by its words and by how it begins.  Two full paths are therefore equal as soon as
these agree, which is how the laws of joining are proved.
-/

namespace FullPath

variable {s t : Text} {patterns : List Text} {lineage : List Route}

/-! ## Normal texts -/

/-- No two slashes stand side by side, and none at the end of anything but itself. -/
structure Normal (t : Text) : Prop where
  single : ¬ ['/', '/'] <:+: t
  ending : t.getLast? = some '/' ↔ t = ['/']

/-- An empty piece would show as a slash at an end or as a double one. -/
theorem words_eq_pieces (nonempty : t ≠ []) (single : ¬ ['/', '/'] <:+: t)
    (first : t.head? ≠ some '/') (last : t.getLast? ≠ some '/') :
    Text.words '/' t = Text.pieces '/' t := by
  rw [Text.words, List.filter_eq_self]
  intro piece member
  rw [decide_eq_true_eq]
  rintro rfl
  rcases List.append_of_mem member with ⟨before, after, cut⟩
  have whole := Text.glue_pieces '/' t
  rw [cut] at whole
  cases before with
  | nil =>
      cases after with
      | nil => exact nonempty whole.symm
      | cons next after => exact first (by rw [← whole]; rfl)
  | cons piece before =>
      rw [Text.glue_append '/' (List.cons_ne_nil piece before) (List.cons_ne_nil [] after)] at whole
      cases after with
      | nil => exact last (by rw [← whole]; simp [Text.glue])
      | cons next after =>
          refine single ⟨Text.glue '/' (piece :: before), Text.glue '/' (next :: after), ?_⟩
          rw [← whole]
          simp [Text.glue]

namespace Normal

/-- A normal text is its words, a slash between two, behind the slash that it may begin with. -/
theorem eq_glue_words (normal : Normal t) :
    t = (if t.head? = some '/' then ['/'] else []) ++ Text.glue '/' (Text.words '/' t) := by
  cases t with
  | nil => rfl
  | cons c rest =>
      by_cases slash : c = '/'
      · subst slash
        rw [Text.words_sep, List.head?_cons, if_pos rfl, List.singleton_append]
        cases rest with
        | nil => rfl
        | cons d rest =>
            have first : (d :: rest).head? ≠ some '/' := by
              intro same
              cases same
              exact normal.single ⟨[], rest, rfl⟩
            have last : (d :: rest).getLast? ≠ some '/' := by
              intro same
              rw [← List.getLast?_cons_cons, normal.ending] at same
              cases same
            have single : ¬ ['/', '/'] <:+: d :: rest :=
              fun double => normal.single (List.infix_cons_iff.2 (.inr double))
            rw [words_eq_pieces (List.cons_ne_nil d rest) single first last, Text.glue_pieces]
      · have first : (c :: rest).head? ≠ some '/' := by simpa using slash
        have last : (c :: rest).getLast? ≠ some '/' := by
          rw [ne_eq, normal.ending]
          rintro same
          cases same
          exact slash rfl
        rw [if_neg first, words_eq_pieces (List.cons_ne_nil c rest) normal.single first last,
          Text.glue_pieces, List.nil_append]

/-- Normal texts that begin alike and have the same words are the same. -/
theorem eq_of_words (normal : Normal s) (normalToo : Normal t)
    (sameFirst : s.head? = some '/' ↔ t.head? = some '/')
    (sameWords : Text.words '/' s = Text.words '/' t) : s = t := by
  rw [normal.eq_glue_words, normalToo.eq_glue_words, sameWords]
  simp only [sameFirst]

end Normal

/-! ## What joining does to a text -/

theorem head?_squeeze (t : Text) : (squeeze t).head? = t.head? := by
  induction t using squeeze.induct with
  | case1 => rfl
  | case2 c => rfl
  | case3 c d rest double ih =>
      rw [squeeze, if_pos double, ih, List.head?_cons, List.head?_cons, double.1, double.2]
  | case4 c d rest different ih => rw [squeeze, if_neg different, List.head?_cons, List.head?_cons]

theorem single_squeeze (t : Text) : ¬ ['/', '/'] <:+: squeeze t := by
  induction t using squeeze.induct with
  | case1 => simp [squeeze]
  | case2 c => simp [squeeze, List.infix_cons_iff]
  | case3 c d rest double ih => rwa [squeeze, if_pos double]
  | case4 c d rest different ih =>
      rw [squeeze, if_neg different, List.infix_cons_iff, not_or]
      refine ⟨fun begins => ?_, ih⟩
      rcases List.cons_prefix_cons.1 begins with ⟨isSlash, more, shape⟩
      have next := head?_squeeze (d :: rest)
      rw [← shape] at next
      cases next
      exact different ⟨isSlash.symm, rfl⟩

/-- Writing a run of slashes once changes the empty pieces only, and not the first piece. -/
theorem cut_squeeze (t : Text) :
    (Text.cut '/' (squeeze t)).1 = (Text.cut '/' t).1 ∧
      (Text.cut '/' (squeeze t)).2.filter (· ≠ []) = (Text.cut '/' t).2.filter (· ≠ []) := by
  induction t using squeeze.induct with
  | case1 => exact ⟨rfl, rfl⟩
  | case2 c => exact ⟨rfl, rfl⟩
  | case3 c d rest double ih =>
      rcases double with ⟨rfl, rfl⟩
      rw [squeeze, if_pos ⟨rfl, rfl⟩, ih.1, ih.2]
      simp [Text.cut]
  | case4 c d rest different ih =>
      rw [squeeze, if_neg different, Text.cut, Text.cut.eq_2 '/' c]
      by_cases slash : c = '/'
      · rw [if_pos slash, if_pos slash]
        simp only [List.filter_cons, ih.1, ih.2, and_self]
      · rw [if_neg slash, if_neg slash]
        simp only [ih.1, ih.2, and_self]

theorem words_squeeze (t : Text) : Text.words '/' (squeeze t) = Text.words '/' t := by
  rw [Text.words, Text.words, Text.pieces, Text.pieces, List.filter_cons, List.filter_cons,
    (cut_squeeze t).1, (cut_squeeze t).2]

theorem head?_dropTrailing (t : Text) : (dropTrailing t).head? = t.head? := by
  unfold dropTrailing
  split
  case isTrue ends => rw [List.head?_dropLast, if_pos ends.1]
  case isFalse => rfl

theorem words_dropTrailing (t : Text) : Text.words '/' (dropTrailing t) = Text.words '/' t := by
  unfold dropTrailing
  split
  case isTrue ends =>
    rcases List.getLast?_eq_some_iff.1 ends.2 with ⟨front, rfl⟩
    rw [List.dropLast_concat, Text.words_append, Text.words_nil, List.append_nil]
  case isFalse => rfl

/-- Without double slashes, dropping the last slash leaves none at the end. -/
theorem normal_dropTrailing (single : ¬ ['/', '/'] <:+: t) : Normal (dropTrailing t) := by
  unfold dropTrailing
  split
  case isTrue ends =>
    rcases List.getLast?_eq_some_iff.1 ends.2 with ⟨front, rfl⟩
    rw [List.dropLast_concat]
    constructor
    · exact fun double => single (double.trans (List.prefix_append front ['/']).isInfix)
    · constructor
      · intro endsAgain
        rcases List.getLast?_eq_some_iff.1 endsAgain with ⟨rest, rfl⟩
        exact absurd ⟨rest, [], by simp⟩ single
      · rintro rfl
        rfl
  case isFalse short =>
    refine ⟨single, fun endsInSlash => ?_, fun isSlash => by rw [isSlash]; rfl⟩
    have bound : ¬ 1 < t.length := fun long => short ⟨long, endsInSlash⟩
    rcases List.getLast?_eq_some_iff.1 endsInSlash with ⟨front, rfl⟩
    cases front with
    | nil => rfl
    | cons c front => simp at bound

/-! ## Joined patterns -/

theorem normal_ofPatterns (patterns : List Text) : Normal (ofPatterns patterns) :=
  normal_dropTrailing (single_squeeze _)

theorem words_ofPatterns (patterns : List Text) :
    Text.words '/' (ofPatterns patterns) = patterns.flatMap (Text.words '/') := by
  rw [ofPatterns, words_dropTrailing, words_squeeze, Text.words_glue]

/-- Joined patterns begin like the first of them. -/
theorem head?_ofPatterns (nonempty : ∀ pattern ∈ patterns, pattern ≠ []) :
    (ofPatterns patterns).head? = patterns.head?.bind List.head? := by
  rw [ofPatterns, head?_dropTrailing, head?_squeeze]
  cases patterns with
  | nil => rfl
  | cons first rest =>
      cases first with
      | nil => exact absurd rfl (nonempty [] List.mem_cons_self)
      | cons c first => cases rest <;> rfl

/-! ## Lineages -/

/-- The words of the patterns along a lineage, in order. -/
def parts (lineage : List Route) : List Text :=
  (lineage.filterMap Route.segment?).flatMap (Text.words '/')

/-- How the first pattern of a lineage begins, if there is one. -/
def beginning (lineage : List Route) : Option Char :=
  (lineage.filterMap Route.segment?).head?.bind List.head?

/-- What the full path of a lineage is, and which laws of joining follow. -/
structure Joins (lineage : List Route) (path : Text) : Prop where
  shape : path =
    (if beginning lineage = some '/' then ['/'] else []) ++ Text.glue '/' (parts lineage)
  single : ¬ ['/', '/'] <:+: path
  ending : path.getLast? = some '/' ↔ path = ['/']
  /-- A route alone whose pattern is the path has the path. -/
  again : ∀ route : Route, route.path = some path → ofLineage [route] = path
  /-- A longer lineage may be cut behind this one, and each half stand as one pattern. -/
  extended : ∀ below, ∀ upper lower : Route, upper.path = some path →
    lower.path = some (ofLineage below) → ofLineage (lineage ++ below) = ofLineage [upper, lower]

theorem parts_append (above below : List Route) :
    parts (above ++ below) = parts above ++ parts below := by
  rw [parts, List.filterMap_append, List.flatMap_append, parts, parts]

theorem beginning_append (above below : List Route) :
    beginning (above ++ below) = (beginning above).or (beginning below) := by
  unfold beginning
  rw [List.filterMap_append]
  cases patterns : above.filterMap Route.segment? with
  | nil => rfl
  | cons first rest =>
      cases first with
      | nil => exact absurd rfl (@segment_ne_nil above [] (by simp [patterns]))
      | cons c first => rfl

/-- An empty pattern has no words and no beginning, so it makes no difference that it is skipped. -/
theorem filterMap_segment?_singleton {route : Route} {path : Text} (isPath : route.path = some path) :
    [route].filterMap Route.segment? = if path = [] then [] else [path] := by
  rw [List.filterMap_cons, Route.segment?, isPath, Option.filter_some]
  by_cases empty : path = []
  · simp [empty]
  · simp [empty]

theorem parts_singleton {route : Route} {path : Text} (isPath : route.path = some path) :
    parts [route] = Text.words '/' path := by
  rw [parts, filterMap_segment?_singleton isPath]
  by_cases empty : path = []
  · simp [empty]
  · simp [empty]

theorem beginning_singleton {route : Route} {path : Text} (isPath : route.path = some path) :
    beginning [route] = path.head? := by
  rw [beginning, filterMap_segment?_singleton isPath]
  by_cases empty : path = []
  · simp [empty]
  · simp [empty]

theorem normal_ofLineage (lineage : List Route) : Normal (ofLineage lineage) :=
  normal_ofPatterns _

theorem words_ofLineage (lineage : List Route) :
    Text.words '/' (ofLineage lineage) = parts lineage :=
  words_ofPatterns _

theorem head?_ofLineage (lineage : List Route) : (ofLineage lineage).head? = beginning lineage :=
  head?_ofPatterns segment_ne_nil

/-- Lineages whose patterns begin alike and have the same words have the same full path. -/
theorem ofLineage_eq {other : List Route} (sameBeginning : beginning lineage = beginning other)
    (sameParts : parts lineage = parts other) : ofLineage lineage = ofLineage other := by
  apply (normal_ofLineage lineage).eq_of_words (normal_ofLineage other)
  · rw [head?_ofLineage, head?_ofLineage, sameBeginning]
  · rw [words_ofLineage, words_ofLineage, sameParts]

/-- The full path of every lineage is its patterns joined. -/
theorem joins_ofLineage (lineage : List Route) : Joins lineage (ofLineage lineage) where
  shape := by
    have whole := (normal_ofLineage lineage).eq_glue_words
    rwa [head?_ofLineage, words_ofLineage] at whole
  single := (normal_ofLineage lineage).single
  ending := (normal_ofLineage lineage).ending
  again route isPath := by
    apply ofLineage_eq
    · rw [beginning_singleton isPath, head?_ofLineage]
    · rw [parts_singleton isPath, words_ofLineage]
  extended below upper lower isUpper isLower := by
    have halves : [upper, lower] = [upper] ++ [lower] := rfl
    apply ofLineage_eq
    · rw [halves, beginning_append, beginning_append, beginning_singleton isUpper,
        beginning_singleton isLower, head?_ofLineage, head?_ofLineage]
    · rw [halves, parts_append, parts_append, parts_singleton isUpper, parts_singleton isLower,
        words_ofLineage, words_ofLineage]

end FullPath
end TypedRoutes
