import TypedRoutes.Text.Basic
import Mathlib.Data.List.Infix

namespace TypedRoutes

/-!
# Texts that can be read back

A generated text is fixed text around texts that are written from data.  Whether the data can be read
back is a matter of where each piece ends.  A way of writing is delimited when every text that begins
with what it wrote tells what was written and where it ends, whatever follows.  Delimited pieces may
stand one after the other; a list of them needs a text after it that none of them begins like.
-/

namespace Text

variable {α β : Type} {s t : Text}

/-! ## Texts that begin differently -/

/-- No text begins both like `s` and like `t`. -/
def Apart (s t : Text) : Prop := ∀ x y, s ++ x ≠ t ++ y

theorem apart_iff : Apart s t ↔ ¬ s <+: t ∧ ¬ t <+: s := by
  constructor
  · intro apart
    constructor
    · rintro ⟨rest, same⟩
      exact apart rest [] (by rw [same, List.append_nil])
    · rintro ⟨rest, same⟩
      exact apart [] rest (by rw [same, List.append_nil])
  · rintro ⟨notLeft, notRight⟩ x y same
    rcases List.prefix_or_prefix_of_prefix ⟨x, same⟩ (List.prefix_append t y) with left | right
    · exact notLeft left
    · exact notRight right

instance : Decidable (Apart s t) := decidable_of_iff _ apart_iff.symm

theorem Apart.symm (apart : Apart s t) : Apart t s := fun x y same => apart y x same.symm

theorem Apart.not_begins (apart : Apart s t) {u : Text} (starts : s <+: u) : ¬ t <+: u := by
  rcases starts with ⟨x, rfl⟩
  rintro ⟨y, same⟩
  exact apart x y same.symm

theorem Apart.append (apart : Apart s t) (u v : Text) : Apart (s ++ u) (t ++ v) := by
  intro x y same
  rw [List.append_assoc, List.append_assoc] at same
  exact apart _ _ same

theorem Apart.append_left (apart : Apart s t) (u : Text) : Apart (s ++ u) t := by
  have := apart.append u []
  rwa [List.append_nil] at this

/-- A common beginning makes no difference. -/
theorem Apart.after (apart : Apart s t) (u : Text) : Apart (u ++ s) (u ++ t) := by
  intro x y same
  rw [List.append_assoc, List.append_assoc, List.append_cancel_left_eq] at same
  exact apart x y same

/-! ## Delimited writing -/

/-- What `write` wrote, and where it ends, is determined by any text that begins with it. -/
def Delimited (write : α → Text) : Prop :=
  ∀ ⦃a b : α⦄ ⦃x y : Text⦄, write a ++ x = write b ++ y → a = b ∧ x = y

namespace Delimited

variable {write : α → Text} {also : β → Text}

theorem injective (delimited : Delimited write) {a b : α} (same : write a = write b) : a = b :=
  (@delimited a b [] [] (by rw [same])).1

/-- What a reader finds again, with the rest of the text, was delimited. -/
theorem of_read {read : Text → Option (α × Text)}
    (reads : ∀ a rest, read (write a ++ rest) = some (a, rest)) : Delimited write := by
  intro a b x y same
  have found := reads a x
  rw [same, reads b y] at found
  cases found
  exact ⟨rfl, rfl⟩

/-- Two values are told apart by texts that begin differently. -/
theorem bool {write : Bool → Text} (apart : Apart (write true) (write false)) :
    Delimited write := by
  intro a b x y same
  cases a with
  | true =>
      cases b with
      | true => exact ⟨rfl, List.append_cancel_left same⟩
      | false => exact absurd same (apart x y)
  | false =>
      cases b with
      | true => exact absurd same (apart.symm x y)
      | false => exact ⟨rfl, List.append_cancel_left same⟩

/-- A value that may be missing, with a text for that case which no value begins like. -/
theorem option {write : Option α → Text} (present : Delimited fun a => write (some a))
    (apart : ∀ a, Apart (write (some a)) (write none)) : Delimited write := by
  intro a b x y same
  cases a with
  | none =>
      cases b with
      | none => exact ⟨rfl, List.append_cancel_left same⟩
      | some b => exact absurd same ((apart b).symm x y)
  | some a =>
      cases b with
      | none => exact absurd same (apart a x y)
      | some b =>
          rcases present same with ⟨rfl, rest⟩
          exact ⟨rfl, rest⟩

theorem before (delimited : Delimited write) (fixed : Text) :
    Delimited fun a => write a ++ fixed := by
  intro a b x y same
  simp only [List.append_assoc] at same
  rcases delimited same with ⟨rfl, rest⟩
  exact ⟨rfl, List.append_cancel_left rest⟩

theorem after (delimited : Delimited write) (fixed : Text) :
    Delimited fun a => fixed ++ write a := by
  intro a b x y same
  simp only [List.append_assoc, List.append_cancel_left_eq] at same
  exact delimited same

theorem pair (delimited : Delimited write) (delimitedAlso : Delimited also) :
    Delimited fun both : α × β => write both.1 ++ also both.2 := by
  rintro ⟨a, b⟩ ⟨c, d⟩ x y same
  simp only [List.append_assoc] at same
  rcases delimited same with ⟨rfl, rest⟩
  rcases delimitedAlso rest with ⟨rfl, last⟩
  exact ⟨rfl, last⟩

/-- A list is delimited by a text after it that no item begins like.  The items may be written by
their positions too. -/
theorem positions (item : Nat → α → Text) (list : Nat → List α → Text) {stop : Text}
    (nil : ∀ n, list n [] = [])
    (cons : ∀ n a rest, list n (a :: rest) = item n a ++ list (n + 1) rest)
    (delimited : ∀ n, Delimited (item n)) (apart : ∀ n a, Apart (item n a) stop) (n : Nat) :
    Delimited fun items => list n items ++ stop := by
  intro items others x y same
  induction items generalizing others n with
  | nil =>
      cases others with
      | nil => exact ⟨rfl, List.append_cancel_left same⟩
      | cons other others =>
          simp only [nil, cons, List.append_assoc, List.nil_append] at same
          exact absurd same.symm (apart n other _ _)
  | cons first items ih =>
      cases others with
      | nil =>
          simp only [nil, cons, List.append_assoc, List.nil_append] at same
          exact absurd same (apart n first _ _)
      | cons other others =>
          simp only [cons, List.append_assoc] at same
          rcases delimited n same with ⟨rfl, rest⟩
          rw [← List.append_assoc, ← List.append_assoc] at rest
          rcases ih (n + 1) rest with ⟨rfl, last⟩
          exact ⟨rfl, last⟩

theorem flatMap (delimited : Delimited write) {stop : Text} (apart : ∀ a, Apart (write a) stop) :
    Delimited fun items : List α => items.flatMap write ++ stop :=
  positions (fun _ => write) (fun _ items => items.flatMap write) (fun _ => rfl)
    (fun _ _ _ => rfl) (fun _ => delimited) (fun _ => apart) 0

/-- A list with a text of its own for the empty list. -/
theorem orEmpty {list : List α → Text} {empty : Text} (delimited : Delimited list)
    (apart : ∀ items, items ≠ [] → Apart (list items) empty) :
    Delimited fun items => if items = [] then empty else list items := by
  intro items others x y same
  by_cases none : items = []
  · by_cases noneThere : others = []
    · simp only [if_pos none, if_pos noneThere] at same
      exact ⟨none.trans noneThere.symm, List.append_cancel_left same⟩
    · simp only [if_pos none, if_neg noneThere] at same
      exact absurd same.symm (apart others noneThere _ _)
  · by_cases noneThere : others = []
    · simp only [if_neg none, if_pos noneThere] at same
      exact absurd same (apart items none _ _)
    · simp only [if_neg none, if_neg noneThere] at same
      exact delimited same

end Delimited
end Text
end TypedRoutes
