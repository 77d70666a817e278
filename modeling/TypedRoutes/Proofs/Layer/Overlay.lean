import TypedRoutes.Layer.Value
import TypedRoutes.Proofs.Text.Tables

namespace TypedRoutes

/-!
# Ways through layers

Names that are written one after the other lead through tables to a value.  Laying one layer over
another is told way by way: where the way is open in both, that is where it meets nothing but tables,
it leads to what the upper layer has there, laid over what the lower one has.  So nothing that the
upper layer leaves unsaid is lost.
-/

namespace Layer
namespace Value

/-- What a way leads to. -/
def find? : List Text → Value → Option Value
  | [], value => some value
  | key :: rest, .table _ entries => (entries.lookup key).bind (find? rest)
  | _ :: _, _ => none

/-- A way that meets nothing but tables, as far as there is anything. -/
def IsOpen : List Text → Value → Prop
  | [], _ => True
  | key :: rest, .table _ entries => ∀ value, entries.lookup key = some value → IsOpen rest value
  | _ :: _, _ => False

/-- A way on which every table is in the order of its names. -/
def IsOrdered : List Text → Value → Prop
  | key :: rest, .table _ entries =>
      Table.Sorted entries ∧ ∀ value, entries.lookup key = some value → IsOrdered rest value
  | _, _ => True

/-- What one layer has somewhere, laid over what another one has there. -/
def laid : Option Value → Option Value → Option Value
  | lower, none => lower
  | none, some upper => some upper
  | some lower, some upper => some (lower.overlay upper)

/-- What holds of the values of two layers, and of one such value laid over another, holds of what is
there in the two layers together. -/
theorem of_laid {P : Value → Prop} {lower upper : Option Value} {value : Value}
    (isLaid : laid lower upper = some value) (below : ∀ value, lower = some value → P value)
    (above : ∀ value, upper = some value → P value)
    (both : ∀ lowerValue upperValue, lower = some lowerValue → upper = some upperValue →
      P (lowerValue.overlay upperValue)) : P value := by
  cases upper with
  | none =>
      cases lower with
      | none => cases isLaid
      | some lowerValue => exact below value isLaid
  | some upperValue =>
      cases lower with
      | none => exact above value isLaid
      | some lowerValue =>
          cases isLaid
          exact both lowerValue upperValue rfl rfl

/-! ## Entries -/

theorem overlay_table (origin other : Origin) (below above : Table Value) :
    overlay (.table origin below) (.table other above) = .table other (overlayEntries below above) := by
  rw [overlay]

theorem lookup_overlayEntries (below above : Table Value) (name : Text) :
    (overlayEntries below above).lookup name = laid (below.lookup name) (above.lookup name) := by
  induction below with
  | nil =>
      rw [overlayEntries, List.lookup_nil]
      cases above.lookup name <;> rfl
  | cons first rest ih =>
      rcases first with ⟨key, value⟩
      rw [overlayEntries, Table.lookup_insert, Table.lookup_cons, ih]
      by_cases same : name = key
      · subst same
        rw [if_pos rfl, if_pos rfl]
        cases above.lookup name <;> rfl
      · rw [if_neg same, if_neg same]

theorem sorted_overlayEntries (below : Table Value) {above : Table Value} (sorted : above.Sorted) :
    Table.Sorted (overlayEntries below above) := by
  induction below with
  | nil =>
      rw [overlayEntries]
      exact sorted
  | cons first rest ih =>
      rcases first with ⟨key, value⟩
      rw [overlayEntries]
      exact ih.insert _ _

/-! ## Ways -/

variable {way : List Text} {lower upper : Value}

/-- A way that is open in both layers is open in the two together. -/
theorem isOpen_overlay (openLower : lower.IsOpen way) (openUpper : upper.IsOpen way) :
    (lower.overlay upper).IsOpen way := by
  induction way generalizing lower upper with
  | nil => trivial
  | cons key rest ih =>
      cases lower <;> try exact openLower.elim
      cases upper <;> try exact openUpper.elim
      rw [overlay_table]
      intro value found
      rw [lookup_overlayEntries] at found
      exact of_laid found openLower openUpper fun lowerValue upperValue below above =>
        ih (openLower lowerValue below) (openUpper upperValue above)

theorem isOrdered_overlay (orderedLower : lower.IsOrdered way) (orderedUpper : upper.IsOrdered way) :
    (lower.overlay upper).IsOrdered way := by
  induction way generalizing lower upper with
  | nil => simp [IsOrdered]
  | cons key rest ih =>
      cases upper <;> cases lower <;> try exact orderedUpper
      rw [overlay_table]
      refine ⟨sorted_overlayEntries _ orderedUpper.1, fun value found => ?_⟩
      rw [lookup_overlayEntries] at found
      exact of_laid found orderedLower.2 orderedUpper.2 fun lowerValue upperValue below above =>
        ih (orderedLower.2 lowerValue below) (orderedUpper.2 upperValue above)

/-- A way leads to what the upper layer has at its end, laid over what the lower one has there. -/
theorem find?_overlay (openLower : lower.IsOpen way) (openUpper : upper.IsOpen way) :
    (lower.overlay upper).find? way = laid (lower.find? way) (upper.find? way) := by
  induction way generalizing lower upper with
  | nil => rfl
  | cons key rest ih =>
      cases lower <;> try exact openLower.elim
      cases upper <;> try exact openUpper.elim
      rw [overlay_table, find?, find?, find?, lookup_overlayEntries]
      generalize below : List.lookup key _ = belowValue
      generalize above : List.lookup key _ = aboveValue
      cases aboveValue with
      | none => rfl
      | some upperValue =>
          cases belowValue with
          | none => cases found : upperValue.find? rest <;> simp [laid, found]
          | some lowerValue => exact ih (openLower _ below) (openUpper _ above)

/-! ## Layers of TOML documents -/

theorem lookup_ofTomlEntries (origin : Origin) (entries : List (Text × Toml.Value)) (name : Text) :
    (ofTomlEntries origin entries).lookup name = (entries.lookup name).map (ofToml origin) := by
  induction entries with
  | nil => rfl
  | cons first rest ih =>
      rcases first with ⟨key, value⟩
      rw [ofTomlEntries, Table.lookup_insert, Table.lookup_cons, ih]
      split <;> rfl

theorem sorted_ofTomlEntries (origin : Origin) (entries : List (Text × Toml.Value)) :
    Table.Sorted (ofTomlEntries origin entries) := by
  induction entries with
  | nil => exact List.Pairwise.nil
  | cons first rest ih => exact ih.insert _ _

theorem isOpen_ofToml_table {origin : Origin} {entries : List (Text × Toml.Value)} {key : Text}
    {rest : List Text}
    (behind : ∀ value, entries.lookup key = some value → (ofToml origin value).IsOpen rest) :
    (ofToml origin (.table entries)).IsOpen (key :: rest) := by
  intro value found
  rw [lookup_ofTomlEntries, Option.map_eq_some_iff] at found
  rcases found with ⟨value, isEntry, rfl⟩
  exact behind value isEntry

/-- In the layer of a document every way is ordered. -/
theorem isOrdered_ofToml (way : List Text) (origin : Origin) (value : Toml.Value) :
    (ofToml origin value).IsOrdered way := by
  induction way generalizing value with
  | nil => simp [IsOrdered]
  | cons key rest ih =>
      cases value with
      | table entries =>
          refine ⟨sorted_ofTomlEntries origin entries, fun value found => ?_⟩
          rw [lookup_ofTomlEntries, Option.map_eq_some_iff] at found
          rcases found with ⟨value, -, rfl⟩
          exact ih value
      | datetime text =>
          refine ⟨List.pairwise_singleton _ _, fun value found => ?_⟩
          rw [Table.lookup_cons] at found
          split at found
          · cases found
            cases rest <;> trivial
          · cases found
      | _ => trivial

end Value
end Layer
end TypedRoutes
