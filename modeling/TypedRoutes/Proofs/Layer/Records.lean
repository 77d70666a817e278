import TypedRoutes.Layer.Reading
import TypedRoutes.Proofs.Text.Tables

namespace TypedRoutes

/-!
# Records, part by part

Reading a record sets its fields in the order of the table that it is read from.  What becomes of one
part of the record is told by the field that the part belongs to: where the table has that field, its
value says it, and where it has not, the part stays as it was.
-/

namespace Layer

/-- A table whose values can all be read is read name by name. -/
theorem exists_readEntries {α : Type} {reads : Reads α} {said : Value → Option α}
    {entries : List (Text × Value)}
    (each : ∀ name value, (name, value) ∈ entries → ∃ a, said value = some a ∧ reads value = .ok a) :
    ∃ result, readEntries reads entries = .ok result ∧
      result.map Prod.fst = entries.map Prod.fst ∧
      ∀ name, result.lookup name = (entries.lookup name).bind said := by
  induction entries with
  | nil => exact ⟨[], rfl, rfl, fun _ => rfl⟩
  | cons first rest ih =>
      rcases first with ⟨key, value⟩
      rcases each key value (List.mem_cons_self ..) with ⟨a, isSaid, answer⟩
      rcases ih fun name value member => each name value (List.mem_cons_of_mem _ member) with
        ⟨result, answers, names, lookups⟩
      refine ⟨(key, a) :: result, ?_, by rw [List.map_cons, List.map_cons, names], fun name => ?_⟩
      · simp only [readEntries, Reads.below, answer, answers]
        rfl
      · rw [Table.lookup_cons, Table.lookup_cons, lookups]
        by_cases same : name = key <;> simp [same, isSaid]

namespace Record

variable {σ ι α : Type} {record : Record σ}

/-- Reading a value sets the parts that belong to a field to what the value says of them, and leaves the
others. -/
def Sets (view : σ → ι → α) (belongs : ι → Prop) (said : ι → α) (sofar : σ)
    (answer : Except ReadError σ) : Prop :=
  ∃ next, answer = .ok next ∧ ∀ part,
    (belongs part → view next part = said part) ∧ (¬ belongs part → view next part = view sofar part)

theorem readTable_cons_of_field {name : Text} {value : Value} {rest : List (Text × Value)}
    {read : σ → Reads σ} {sofar next : σ} (isField : record.fields.lookup name = some read)
    (answer : read sofar value = .ok next) :
    record.readTable sofar ((name, value) :: rest) = record.readTable next rest := by
  rw [readTable, isField]
  simp only [Reads.below, answer]
  rfl

theorem readTable_cons_of_no_field {name : Text} {value : Value} {rest : List (Text × Value)}
    {sofar : σ} (noField : record.fields.lookup name = none) :
    record.readTable sofar ((name, value) :: rest) = record.readTable sofar rest := by
  rw [readTable, noField]

/-- An entry counts for the parts of its own field only. -/
theorem lookup_field_cons {field : Option Text} {name : Text} (apart : field ≠ some name) (value : Value)
    (rest : List (Text × Value)) :
    (field.bind fun other => List.lookup other ((name, value) :: rest)) =
      field.bind fun other => rest.lookup other := by
  cases field with
  | none => rfl
  | some other =>
      have different : other ≠ name := fun same => apart (congrArg some same)
      rw [Option.bind_some, Option.bind_some, Table.lookup_cons, if_neg different]

/-- A table with distinct names sets every part by the entry of its field. -/
theorem exists_readTable {view : σ → ι → α} {field : ι → Option Text} {said : Value → ι → α}
    {start : σ} {entries : List (Text × Value)} (distinct : (entries.map Prod.fst).Nodup)
    (known : ∀ part name, field part = some name → record.fields.lookup name ≠ none)
    (sets : ∀ name value, (name, value) ∈ entries → ∀ read, record.fields.lookup name = some read →
      ∀ sofar, (∀ part, field part = some name → view sofar part = view start part) →
        Sets view (fun part => field part = some name) (said value) sofar (read sofar value)) :
    ∃ result, record.readTable start entries = .ok result ∧ ∀ part, view result part =
      ((field part).bind fun name => entries.lookup name).elim (view start part)
        fun value => said value part := by
  suffices ∀ sofar, (∀ part name, field part = some name → name ∈ entries.map Prod.fst →
      view sofar part = view start part) → ∃ result, record.readTable sofar entries = .ok result ∧
        ∀ part, view result part = ((field part).bind fun name => entries.lookup name).elim
          (view sofar part) fun value => said value part from this start fun _ _ _ _ => rfl
  -- Parts of the fields to come are still as they were in the beginning.
  induction entries with
  | nil =>
      intro sofar _
      exact ⟨sofar, rfl, fun part => by cases field part <;> rfl⟩
  | cons first rest ih =>
      rcases first with ⟨name, value⟩
      intro sofar untouched
      rw [List.map_cons, List.nodup_cons] at distinct
      have ih := ih distinct.2 fun other value member =>
        sets other value (List.mem_cons_of_mem _ member)
      cases isField : record.fields.lookup name with
      | none =>
          have noPart : ∀ part, field part ≠ some name :=
            fun part belongs => known part name belongs isField
          rcases ih sofar fun part other belongs member =>
            untouched part other belongs (List.mem_cons_of_mem _ member) with ⟨result, answer, parts⟩
          refine ⟨result, by rw [readTable_cons_of_no_field isField, answer], fun part => ?_⟩
          rw [parts part, lookup_field_cons (noPart part)]
      | some read =>
          rcases sets name value (List.mem_cons_self ..) read isField sofar fun part belongs =>
            untouched part name belongs (List.mem_cons_self ..) with ⟨next, answer, partsNext⟩
          have later : ∀ part other, field part = some other → other ∈ rest.map Prod.fst →
              view next part = view start part := by
            intro part other belongs member
            have different : ¬ field part = some name := by
              rw [belongs]
              exact fun same => distinct.1 (Option.some.inj same ▸ member)
            rw [(partsNext part).2 different]
            exact untouched part other belongs (List.mem_cons_of_mem _ member)
          rcases ih next later with ⟨result, answerRest, parts⟩
          refine ⟨result, by rw [readTable_cons_of_field isField answer, answerRest], fun part => ?_⟩
          rw [parts part]
          by_cases here : field part = some name
          · rw [here, Option.bind_some, Option.bind_some, Table.lookup_cons, if_pos rfl,
              Table.lookup_eq_none_iff.2 distinct.1]
            exact (partsNext part).1 here
          · rw [(partsNext part).2 here, lookup_field_cons here]

end Record
end Layer
end TypedRoutes
