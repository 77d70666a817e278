import TypedRoutes.Text.Basic

namespace TypedRoutes

/-!
# Tables

A table lists named values in the order of their names, each name once.  `Table.insert` keeps that
order, so a table built by insertion does not show in which order its entries came.
-/

/-- Named values. -/
abbrev Table (α : Type) := List (Text × α)

namespace Table

variable {α : Type}

/-- Whether names strictly increase. -/
def Sorted (table : Table α) : Prop := table.Pairwise (fun a b => a.1 < b.1)

/-- Set the value of a name. -/
def insert (name : Text) (value : α) : Table α → Table α
  | [] => [(name, value)]
  | (other, old) :: rest =>
      if name < other then (name, value) :: (other, old) :: rest
      else if name = other then (name, value) :: rest
      else (other, old) :: insert name value rest

/-- The table of a list of entries; of entries with one name the last counts. -/
def ofList (entries : List (Text × α)) : Table α :=
  entries.foldl (fun table entry => table.insert entry.1 entry.2) []

theorem fst_mem_insert {name : Text} {value : α} {table : Table α} {entry : Text × α}
    (h : entry ∈ insert name value table) : entry.1 = name ∨ entry ∈ table := by
  induction table with
  | nil => simp_all [insert]
  | cons first rest ih =>
      unfold insert at h
      split at h
      · rcases List.mem_cons.1 h with rfl | h
        · exact .inl rfl
        · exact .inr h
      · split at h
        · rcases List.mem_cons.1 h with rfl | h
          · exact .inl rfl
          · exact .inr (List.mem_cons_of_mem _ h)
        · rcases List.mem_cons.1 h with rfl | h
          · exact .inr (List.mem_cons_self)
          · exact (ih h).imp_right (List.mem_cons_of_mem _)

/-- Insertion keeps a table sorted. -/
theorem Sorted.insert {table : Table α} (h : table.Sorted) (name : Text) (value : α) :
    Sorted (Table.insert name value table) := by
  induction table with
  | nil => simp [Sorted, Table.insert]
  | cons first rest ih =>
      obtain ⟨hfirst, hrest⟩ := List.pairwise_cons.1 h
      unfold Table.insert
      split
      · rename_i hlt
        refine List.pairwise_cons.2 ⟨fun entry hentry => ?_, h⟩
        rcases List.mem_cons.1 hentry with rfl | hentry
        · exact hlt
        · exact List.lt_trans hlt (hfirst entry hentry)
      · rename_i hlt
        split
        · rename_i heq
          exact List.pairwise_cons.2 ⟨fun entry hentry => heq ▸ hfirst entry hentry, hrest⟩
        · rename_i hne
          refine List.pairwise_cons.2 ⟨fun entry hentry => ?_, ih hrest⟩
          rcases fst_mem_insert hentry with heq | hentry
          · rw [heq]
            exact Decidable.byContradiction fun h =>
              hne (List.le_antisymm (List.not_lt.1 h) (List.not_lt.1 hlt))
          · exact hfirst entry hentry

/-- The table of a list is sorted. -/
theorem sorted_ofList (entries : List (Text × α)) : Sorted (ofList entries) := by
  suffices ∀ (table : Table α), table.Sorted →
      Sorted (entries.foldl (fun table entry => table.insert entry.1 entry.2) table) from
    this [] List.Pairwise.nil
  induction entries with
  | nil => exact fun _ h => h
  | cons entry rest ih => exact fun table h => ih _ (h.insert _ _)

end Table
end TypedRoutes
