import Mathlib.Data.List.Sort
import TypedRoutes.Text.Table

namespace TypedRoutes

/-!
# Looking names up

A table is what looking up each of its names gives.  Insertion sets the value of one name and leaves
the others, and two sorted tables in which every name has the same value are equal.
-/

namespace Table

variable {α β : Type} {table other : Table α} {name : Text} {value : α}

theorem lookup_cons (key : Text) (value : α) (rest : Table α) (name : Text) :
    List.lookup name ((key, value) :: rest) = if name = key then some value else rest.lookup name := by
  by_cases same : name = key
  · simp [same]
  · simp [List.lookup_cons, same, beq_eq_false_iff_ne.2 same]

theorem lookup_insert (key : Text) (value : α) (table : Table α) (name : Text) :
    (Table.insert key value table).lookup name =
      if name = key then some value else table.lookup name := by
  induction table with
  | nil => rw [insert, lookup_cons]
  | cons first rest ih =>
      rcases first with ⟨old, oldValue⟩
      rw [insert]
      split
      · rw [lookup_cons]
      · split
        · rename_i same
          subst same
          rw [lookup_cons, lookup_cons]
          split <;> rfl
        · rename_i different
          rw [lookup_cons, lookup_cons, ih]
          by_cases isOld : name = old
          · rw [if_pos isOld, if_pos isOld, if_neg (isOld.trans_ne (Ne.symm different))]
          · rw [if_neg isOld, if_neg isOld]

theorem mem_of_lookup (found : table.lookup name = some value) : (name, value) ∈ table := by
  induction table with
  | nil => cases found
  | cons first rest ih =>
      rcases first with ⟨key, old⟩
      rw [lookup_cons] at found
      split at found
      · rename_i same
        cases found
        exact same ▸ List.mem_cons_self ..
      · exact List.mem_cons_of_mem _ (ih found)

theorem lookup_eq_none_iff : table.lookup name = none ↔ name ∉ table.map Prod.fst := by
  induction table with
  | nil => simp
  | cons first rest ih =>
      rcases first with ⟨key, old⟩
      rw [lookup_cons, List.map_cons, List.mem_cons, not_or, ← ih]
      by_cases same : name = key <;> simp [same]

/-! ## Distinct names -/

/-- Where names are distinct, every entry is the one that its name leads to. -/
theorem lookup_of_mem (distinct : (table.map Prod.fst).Nodup) (member : (name, value) ∈ table) :
    table.lookup name = some value := by
  induction table with
  | nil => cases member
  | cons first rest ih =>
      rcases first with ⟨key, old⟩
      rw [List.map_cons, List.nodup_cons] at distinct
      rw [lookup_cons]
      rcases List.mem_cons.1 member with same | behind
      · cases same
        rw [if_pos rfl]
      · have different : name ≠ key := by
          rintro rfl
          exact distinct.1 (List.mem_map.2 ⟨_, behind, rfl⟩)
        rw [if_neg different, ih distinct.2 behind]

/-- The order of entries with distinct names does not matter to looking a name up. -/
theorem lookup_perm (perm : other.Perm table) (distinct : (table.map Prod.fst).Nodup) (name : Text) :
    other.lookup name = table.lookup name := by
  cases found : table.lookup name with
  | none =>
      rw [lookup_eq_none_iff] at found ⊢
      exact fun member => found ((perm.map Prod.fst).mem_iff.1 member)
  | some value =>
      exact lookup_of_mem ((perm.map Prod.fst).nodup_iff.2 distinct)
        (perm.mem_iff.2 (mem_of_lookup found))

theorem lookup_foldl_insert (entries : List (Text × α)) (start : Table α)
    (distinct : (entries.map Prod.fst).Nodup) (name : Text) :
    (entries.foldl (fun table entry => table.insert entry.1 entry.2) start).lookup name =
      (List.lookup name entries).or (start.lookup name) := by
  induction entries generalizing start with
  | nil => rfl
  | cons first rest ih =>
      rcases first with ⟨key, value⟩
      rw [List.map_cons, List.nodup_cons] at distinct
      rw [List.foldl_cons, ih _ distinct.2, lookup_insert, lookup_cons]
      by_cases same : name = key
      · subst same
        rw [lookup_eq_none_iff.2 distinct.1, if_pos rfl, if_pos rfl]
        rfl
      · rw [if_neg same, if_neg same]

theorem lookup_ofList {entries : List (Text × α)} (distinct : (entries.map Prod.fst).Nodup)
    (name : Text) : (ofList entries).lookup name = List.lookup name entries := by
  rw [ofList, lookup_foldl_insert entries [] distinct, List.lookup_nil, Option.or_none]

theorem lookup_map (f : α → β) (table : Table α) (name : Text) :
    List.lookup name (table.map fun entry => (entry.1, f entry.2)) = (table.lookup name).map f := by
  induction table with
  | nil => rfl
  | cons first rest ih =>
      rcases first with ⟨key, value⟩
      rw [List.map_cons, lookup_cons, lookup_cons, ih]
      split <;> rfl

/-! ## Sorted tables -/

theorem Sorted.nodup (sorted : table.Sorted) : (table.map Prod.fst).Nodup := by
  rw [List.Nodup, List.pairwise_map]
  refine sorted.imp fun {first second} less same => ?_
  exact List.lt_irrefl first.1 (same ▸ less)

theorem Sorted.mem_iff (sorted : table.Sorted) :
    (name, value) ∈ table ↔ table.lookup name = some value :=
  ⟨lookup_of_mem sorted.nodup, mem_of_lookup⟩

/-- Sorted tables are equal where every name has the same value. -/
theorem Sorted.ext (sorted : table.Sorted) (sortedOther : other.Sorted)
    (same : ∀ name, table.lookup name = other.lookup name) : table = other := by
  have irrefl : Std.Irrefl fun a b : Text × α => a.1 < b.1 := ⟨fun a => List.lt_irrefl a.1⟩
  have antisymm : Std.Antisymm fun a b : Text × α => a.1 < b.1 :=
    ⟨fun a b less greater => (List.lt_asymm less greater).elim⟩
  refine List.Pairwise.eq_of_mem_iff sorted sortedOther fun entry => ?_
  rw [sorted.mem_iff, sortedOther.mem_iff, same]

end Table
end TypedRoutes
