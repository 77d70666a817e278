import TypedRoutes.Route.Params
import TypedRoutes.Proofs.Text.Pieces
import Mathlib.Data.List.Induction
import Mathlib.Data.List.Nodup

namespace TypedRoutes

/-!
# What a path declares

A segment of a path declares one parameter or none, by a grammar of three rules.  The parameters of a
path are the declarations of its segments, each name once: it stands where it was first declared, and
its last declaration says whether it is required.  Reading one segment more keeps this true, so it is
true of every path.
-/

/-! ## Segments -/

namespace Param

/-- The grammar of segments: the catch-all, a required parameter, and an optional one, whose mark is
the last character and not part of the name. -/
inductive Declares : Text → Param → Prop where
  | splat : Declares ['*'] ⟨['*'], true⟩
  | required {name : Text} (nonempty : name ≠ []) (unmarked : name.getLast? ≠ some '?') :
      Declares (':' :: name) ⟨name, true⟩
  | optional {name : Text} (nonempty : name ≠ []) : Declares (':' :: name ++ ['?']) ⟨name, false⟩

/-- A segment declares a parameter of this name. -/
def DeclaresName (segment name : Text) : Prop := ∃ required, Declares segment ⟨name, required⟩

/-- A segment that declares nothing: it is empty, static or malformed. -/
def Idle (segment : Text) : Prop := ∀ param, ¬ Declares segment param

variable {segment name : Text} {param other : Param}

theorem ofSegment?_eq_some_iff : ofSegment? segment = some param ↔ Declares segment param := by
  constructor
  · intro read
    unfold ofSegment? at read
    split at read
    · cases read
      exact .splat
    · rename_i marked
      by_cases isMarked : marked.getLast? = some '?'
      · rcases List.getLast?_eq_some_iff.1 isMarked with ⟨name, rfl⟩
        by_cases empty : name = []
        · simp [Text.stripLast?, empty] at read
        · simp only [Text.stripLast?, isMarked, if_true, List.dropLast_concat, empty, if_false] at read
          cases read
          exact .optional empty
      · by_cases empty : marked = []
        · simp [Text.stripLast?, empty] at read
        · simp only [Text.stripLast?, isMarked, if_false, empty] at read
          cases read
          exact .required empty isMarked
    · cases read
  · intro declares
    cases declares with
    | splat => rfl
    | required nonempty unmarked => simp [ofSegment?, Text.stripLast?, unmarked, nonempty]
    | optional nonempty => simp [ofSegment?, Text.stripLast?, nonempty]

theorem ofSegment?_eq_none_iff : ofSegment? segment = none ↔ Idle segment := by
  rw [Option.eq_none_iff_forall_ne_some]
  exact forall_congr' fun param => not_congr ofSegment?_eq_some_iff

/-- A segment declares one parameter at most. -/
theorem Declares.unique (declares : Declares segment param) (declaresToo : Declares segment other) :
    param = other := by
  rw [← ofSegment?_eq_some_iff] at declares declaresToo
  exact Option.some.inj (declares.symm.trans declaresToo)

theorem Declares.declaresName_iff (declares : Declares segment param) :
    DeclaresName segment name ↔ param.name = name := by
  constructor
  · rintro ⟨required, declaresName⟩
    rw [declares.unique declaresName]
  · rintro rfl
    exact ⟨param.required, declares⟩

theorem Idle.not_declaresName (idle : Idle segment) : ¬ DeclaresName segment name :=
  fun ⟨_, declares⟩ => idle _ declares

instance : DecidablePred fun segment => DeclaresName segment name := fun segment =>
  decidable_of_iff ((ofSegment? segment).map Param.name = some name) <| by
    cases read : ofSegment? segment with
    | none => simp [(ofSegment?_eq_none_iff.1 read).not_declaresName]
    | some param => simp [(ofSegment?_eq_some_iff.1 read).declaresName_iff]

/-- A name is not empty, and it is part of the segment that declares it. -/
theorem Declares.name_ne_nil (declares : Declares segment param) : param.name ≠ [] := by
  cases declares with
  | splat => exact List.cons_ne_nil _ _
  | required nonempty _ => exact nonempty
  | optional nonempty => exact nonempty

theorem Declares.name_subset (declares : Declares segment param) : param.name ⊆ segment := by
  cases declares with
  | splat => exact List.Subset.refl _
  | required _ _ => exact List.subset_cons_self _ _
  | optional _ => exact List.subset_append_of_subset_left _ (List.subset_cons_self _ _)

end Param

/-! ## Declaring one parameter -/

namespace Params

open Param (Declares DeclaresName Idle)

variable {params : Params} {param other : Param} {segments : List Text} {segment name : Text}

/-- A name that is already there keeps its place, and a new one is put behind the others. -/
theorem names_declare :
    (declare params param).map Param.name =
      if param.name ∈ params.map Param.name then params.map Param.name
      else params.map Param.name ++ [param.name] := by
  induction params with
  | nil => rfl
  | cons old rest ih =>
      rw [declare]
      by_cases same : old.name = param.name
      · rw [if_pos same, if_pos (by simp [same]), List.map_cons, List.map_cons, same]
      · rw [if_neg same, List.map_cons, List.map_cons, ih]
        by_cases later : param.name ∈ rest.map Param.name
        · rw [if_pos later, if_pos (List.mem_cons_of_mem _ later)]
        · rw [if_neg later, if_neg (by simpa [Ne.symm same] using later), List.cons_append]

theorem mem_names_declare :
    name ∈ (declare params param).map Param.name ↔
      name = param.name ∨ name ∈ params.map Param.name := by
  rw [names_declare]
  split
  case isTrue present =>
    constructor
    · exact .inr
    · rintro (rfl | member)
      · exact present
      · exact member
  case isFalse => rw [List.mem_append, List.mem_singleton, or_comm]

theorem nodup_names_declare (distinct : (params.map Param.name).Nodup) :
    ((declare params param).map Param.name).Nodup := by
  rw [names_declare]
  split
  case isTrue => exact distinct
  case isFalse new =>
    rw [← List.concat_eq_append]
    exact distinct.concat new

/-- Where names are distinct, a declaration replaces what was declared of its name. -/
theorem mem_declare (distinct : (params.map Param.name).Nodup) :
    other ∈ declare params param ↔ other = param ∨ other ∈ params ∧ other.name ≠ param.name := by
  induction params with
  | nil => simp [declare]
  | cons old rest ih =>
      rw [List.map_cons, List.nodup_cons] at distinct
      rw [declare]
      by_cases same : old.name = param.name
      · have others : ∀ later ∈ rest, later.name ≠ param.name := by
          intro later member again
          exact distinct.1 (List.mem_map.2 ⟨later, member, again.trans same.symm⟩)
        rw [if_pos same, List.mem_cons, List.mem_cons]
        refine or_congr_right ⟨fun member => ⟨.inr member, others other member⟩, ?_⟩
        rintro ⟨rfl | member, different⟩
        · exact absurd same different
        · exact member
      · rw [if_neg same, List.mem_cons, ih distinct.2, List.mem_cons]
        constructor
        · rintro (rfl | rfl | ⟨member, different⟩)
          · exact .inr ⟨.inl rfl, same⟩
          · exact .inl rfl
          · exact .inr ⟨.inr member, different⟩
        · rintro (rfl | ⟨rfl | member, different⟩)
          · exact .inr (.inl rfl)
          · exact .inl rfl
          · exact .inr (.inr ⟨member, different⟩)

/-! ## Reading segments -/

/-- The position of the first segment that declares a name. -/
def firstDeclaring (segments : List Text) (name : Text) : Nat :=
  segments.findIdx fun segment => DeclaresName segment name

/-- A segment declares the parameter, and none behind it declares the name again. -/
def LastDeclared (segments : List Text) (param : Param) : Prop :=
  ∃ before segment after, segments = before ++ segment :: after ∧ Declares segment param ∧
    ∀ later ∈ after, ¬ DeclaresName later param.name

/-- The parameters that segments declare. -/
structure Reads (segments : List Text) (params : Params) : Prop where
  distinct : (params.map Param.name).Nodup
  names : ∀ name, name ∈ params.map Param.name ↔ ∃ segment ∈ segments, DeclaresName segment name
  /-- Names come in the order of the segments that declare them first. -/
  order : (params.map Param.name).Pairwise fun first second =>
    firstDeclaring segments first < firstDeclaring segments second
  /-- The last declaration of a name counts, with its flag. -/
  last : ∀ param, param ∈ params ↔ LastDeclared segments param

theorem lastDeclared_concat :
    LastDeclared (segments ++ [segment]) param ↔
      Declares segment param ∨ LastDeclared segments param ∧ ¬ DeclaresName segment param.name := by
  constructor
  · rintro ⟨before, declaring, after, shape, declares, last⟩
    rcases List.eq_nil_or_concat' after with rfl | ⟨rest, final, rfl⟩
    · rcases List.append_inj' shape rfl with ⟨-, same⟩
      cases same
      exact .inl declares
    · rw [← List.cons_append, ← List.append_assoc] at shape
      rcases List.append_inj' shape rfl with ⟨rfl, same⟩
      cases same
      refine .inr ⟨⟨before, declaring, rest, rfl, declares, fun later member => ?_⟩, ?_⟩
      · exact last later (List.mem_append_left _ member)
      · exact last segment (List.mem_append_right _ List.mem_cons_self)
  · rintro (declares | ⟨⟨before, declaring, after, rfl, declares, last⟩, notAgain⟩)
    · exact ⟨segments, segment, [], rfl, declares, fun later member => by cases member⟩
    · refine ⟨before, declaring, after ++ [segment], by simp, declares, fun later member => ?_⟩
      rcases List.mem_append.1 member with earlier | isLast
      · exact last later earlier
      · rw [List.mem_singleton.1 isLast]
        exact notAgain

theorem firstDeclaring_lt_length_iff :
    firstDeclaring segments name < segments.length ↔
      ∃ segment ∈ segments, DeclaresName segment name := by
  simp [firstDeclaring, List.findIdx_lt_length]

theorem firstDeclaring_append {more : List Text} :
    firstDeclaring (segments ++ more) name =
      if firstDeclaring segments name < segments.length then firstDeclaring segments name
      else firstDeclaring more name + segments.length :=
  List.findIdx_append

/-- A name that is declared is first declared at the same place when more segments follow. -/
theorem firstDeclaring_append_of_declared {more : List Text}
    (declared : ∃ segment ∈ segments, DeclaresName segment name) :
    firstDeclaring (segments ++ more) name = firstDeclaring segments name := by
  rw [firstDeclaring_append, if_pos (firstDeclaring_lt_length_iff.2 declared)]

/-- A name that only the last segment declares is first declared there. -/
theorem firstDeclaring_concat_of_new (new : ¬ ∃ segment ∈ segments, DeclaresName segment name)
    (declares : DeclaresName segment name) :
    firstDeclaring (segments ++ [segment]) name = segments.length := by
  rw [firstDeclaring_append, if_neg (mt firstDeclaring_lt_length_iff.1 new), firstDeclaring,
    List.findIdx_cons, decide_eq_true declares]
  exact Nat.zero_add _

namespace Reads

theorem nil : Reads [] [] where
  distinct := List.nodup_nil
  names name := by simp
  order := .nil
  last param := by simp [LastDeclared]

/-- A segment that declares nothing changes nothing. -/
theorem idle (reads : Reads segments params) (idle : Idle segment) :
    Reads (segments ++ [segment]) params where
  distinct := reads.distinct
  names name := by
    rw [reads.names]
    simp [or_and_right, exists_or, idle.not_declaresName]
  order := by
    refine reads.order.imp_of_mem fun isFirst isSecond earlier => ?_
    rwa [firstDeclaring_append_of_declared ((reads.names _).1 isFirst),
      firstDeclaring_append_of_declared ((reads.names _).1 isSecond)]
  last param := by
    rw [reads.last, lastDeclared_concat]
    simp [idle param, idle.not_declaresName]

/-- A segment that declares a parameter adds it to what was read before. -/
theorem declare (reads : Reads segments params) (declares : Declares segment param) :
    Reads (segments ++ [segment]) (declare params param) where
  distinct := nodup_names_declare reads.distinct
  names name := by
    rw [mem_names_declare, reads.names]
    simp [or_and_right, exists_or, declares.declaresName_iff, or_comm, eq_comm]
  order := by
    have kept : (params.map Param.name).Pairwise fun first second =>
        firstDeclaring (segments ++ [segment]) first <
          firstDeclaring (segments ++ [segment]) second := by
      refine reads.order.imp_of_mem fun isFirst isSecond earlier => ?_
      rwa [firstDeclaring_append_of_declared ((reads.names _).1 isFirst),
        firstDeclaring_append_of_declared ((reads.names _).1 isSecond)]
    rw [names_declare]
    split
    case isTrue => exact kept
    case isFalse new =>
      refine List.pairwise_append.2 ⟨kept, List.pairwise_singleton _ _, ?_⟩
      intro first isFirst second isNew
      have declared := (reads.names first).1 isFirst
      rw [List.mem_singleton.1 isNew, firstDeclaring_append_of_declared declared,
        firstDeclaring_concat_of_new (mt (reads.names _).2 new) (declares.declaresName_iff.2 rfl)]
      exact firstDeclaring_lt_length_iff.2 declared
  last other := by
    rw [mem_declare reads.distinct, reads.last, lastDeclared_concat, declares.declaresName_iff]
    refine or_congr ⟨?_, fun declaresToo => declaresToo.unique declares⟩
      (and_congr_right fun _ => not_congr eq_comm)
    rintro rfl
    exact declares

end Reads

/-- Declaring what each segment declares, one after the other, reads the segments. -/
theorem reads_declareAll (segments : List Text) :
    Reads segments (declareAll [] (segments.filterMap Param.ofSegment?)) := by
  induction segments using List.reverseRecOn with
  | nil => exact .nil
  | append_singleton segments segment ih =>
      rw [List.filterMap_append]
      cases read : Param.ofSegment? segment with
      | none =>
          rw [List.filterMap_cons_none read, List.filterMap_nil, List.append_nil]
          exact ih.idle (Param.ofSegment?_eq_none_iff.1 read)
      | some param =>
          rw [List.filterMap_cons_some read, List.filterMap_nil, declareAll, List.foldl_append]
          exact ih.declare (Param.ofSegment?_eq_some_iff.1 read)

/-! ## Reading paths -/

theorem declarations_glue {texts : List Text} (slashFree : ∀ t ∈ texts, '/' ∉ t) :
    declarations (Text.glue '/' texts) = texts.filterMap Param.ofSegment? := by
  cases texts with
  | nil => rfl
  | cons first rest =>
      rw [declarations, Text.pieces_glue (List.cons_ne_nil first rest) slashFree]

/-- Segments that declare nothing do not show in what is declared. -/
theorem filterMap_of_idle {before idle after : List Text} (all : ∀ segment ∈ idle, Idle segment) :
    (before ++ idle ++ after).filterMap Param.ofSegment? =
      (before ++ after).filterMap Param.ofSegment? := by
  have silent : idle.filterMap Param.ofSegment? = [] :=
    List.filterMap_eq_nil_iff.2 fun segment member =>
      Param.ofSegment?_eq_none_iff.2 (all segment member)
  rw [List.filterMap_append, List.filterMap_append, silent, List.append_nil,
    ← List.filterMap_append]

/-- Paths whose segments declare the same have the same parameters. -/
theorem ofPath_glue_eq {texts : List Text} (slashFree : ∀ t ∈ texts, '/' ∉ t) {path : Text}
    (same : texts.filterMap Param.ofSegment? =
      (Text.pieces '/' path).filterMap Param.ofSegment?) :
    ofPath (Text.glue '/' texts) = ofPath path := by
  rw [ofPath, declarations_glue slashFree, same]
  rfl

/-- The parameters of a path, as the grammar gives them. -/
structure MeetsGrammar (path : Text) (params : Params) : Prop
    extends Reads (Text.pieces '/' path) params where
  whole : ∀ param ∈ params, param.name ≠ [] ∧ '/' ∉ param.name
  /-- Segments that declare nothing may be put anywhere. -/
  inserted : ∀ before idle after, Text.pieces '/' path = before ++ after →
    (∀ segment ∈ idle, Idle segment ∧ '/' ∉ segment) →
      ofPath (Text.glue '/' (before ++ idle ++ after)) = params
  /-- And they may be taken away. -/
  removed : ∀ before idle after, Text.pieces '/' path = before ++ idle ++ after →
    (∀ segment ∈ idle, Idle segment) → ofPath (Text.glue '/' (before ++ after)) = params

/-- Every path is read by the grammar. -/
theorem meetsGrammar_ofPath (path : Text) : MeetsGrammar path (ofPath path) := by
  have reads : Reads (Text.pieces '/' path) (ofPath path) := reads_declareAll _
  have slashFree : ∀ segment ∈ Text.pieces '/' path, '/' ∉ segment :=
    fun _ member => Text.sep_not_mem_of_mem_pieces member
  refine ⟨reads, fun param member => ?_, fun before idle after shape all => ?_,
    fun before idle after shape all => ?_⟩
  · rcases (reads.last param).1 member with ⟨before, segment, after, shape, declares, -⟩
    have isSegment : segment ∈ Text.pieces '/' path := by simp [shape]
    exact ⟨declares.name_ne_nil, fun slash => slashFree segment isSegment (declares.name_subset slash)⟩
  · apply ofPath_glue_eq
    · rw [shape, List.forall_mem_append] at slashFree
      rw [List.forall_mem_append, List.forall_mem_append]
      exact ⟨⟨slashFree.1, fun segment member => (all segment member).2⟩, slashFree.2⟩
    · rw [filterMap_of_idle fun segment member => (all segment member).1, shape]
  · apply ofPath_glue_eq
    · rw [shape, List.forall_mem_append, List.forall_mem_append] at slashFree
      rw [List.forall_mem_append]
      exact ⟨slashFree.1.1, slashFree.2⟩
    · rw [shape, filterMap_of_idle all]

end Params
end TypedRoutes
