import Mathlib.Data.List.Basic
import TypedRoutes.Toml.Scalar

namespace TypedRoutes

/-!
# Reading written numbers

A decimal numeral at the end of a line is read as its number, unless that is above the greatest
integer.
-/

namespace Toml

/-! ## Digits -/

theorem digitValue?_of_isDigit {c : Char} (isDigit : c.isDigit = true) :
    digitValue? c = some (c.toNat - '0'.toNat) := by
  rw [Char.isDigit_iff_toNat] at isDigit
  exact if_pos isDigit

theorem isDigitIn_of_isDigit {c : Char} (isDigit : c.isDigit = true) : isDigitIn 10 c = true := by
  rw [isDigitIn, digitValue?_of_isDigit isDigit]
  rw [Char.isDigit_iff_toNat] at isDigit
  have upper : c.toNat ≤ 57 := isDigit.2
  exact decide_eq_true (show c.toNat - 48 < 10 by omega)

theorem ne_of_isDigit {c d : Char} (isDigit : c.isDigit = true) (other : d.isDigit = false) : c ≠ d := by
  rintro rfl
  exact Bool.false_ne_true (other.symm.trans isDigit)

theorem isDigit_of_mem_ofNat {n : Nat} {c : Char} (member : c ∈ Text.ofNat n) : c.isDigit = true :=
  Nat.isDigit_of_mem_toDigits (by decide) (by decide) member

theorem ofDigits_ofNat (n : Nat) : ofDigits 10 (Text.ofNat n) = n := by
  have step (sofar : Nat) (c : Char) (member : c ∈ Text.ofNat n) :
      sofar * 10 + (digitValue? c).getD 0 = 10 * sofar + (c.toNat - '0'.toNat) := by
    rw [digitValue?_of_isDigit (isDigit_of_mem_ofNat member), Option.getD_some, Nat.mul_comm]
  rw [ofDigits, List.foldl_ext _ _ 0 step, ← Nat.ofDigitChars_eq_foldl, Text.ofNat,
    Nat.ofDigitChars_toDigits (by decide) (by decide)]

/-- A numeral has no needless zero in front. -/
theorem head?_ofNat {n : Nat} (positive : 0 < n) : (Text.ofNat n).head? ≠ some '0' := by
  induction n using Nat.strongRecOn with
  | ind n ih =>
      rw [Text.ofNat, Nat.toDigits_eq_if (by decide)]
      split
      case isTrue small =>
        have each : ∀ n : Fin 10, 0 < n.val → [Nat.digitChar n.val].head? ≠ some '0' := by decide
        exact each ⟨n, small⟩ positive
      case isFalse large =>
        rw [List.head?_append_of_ne_nil _ Nat.toDigits_ne_nil]
        exact ih (n / 10) (by omega) (by omega)

theorem exists_ofNat_cons (n : Nat) : ∃ first more, Text.ofNat n = first :: more :=
  List.exists_cons_of_ne_nil Nat.toDigits_ne_nil

/-! ## Numerals at the end of a line -/

variable {t rest : Text}

theorem moreDigits_append (digits : ∀ c ∈ t, c.isDigit = true) :
    moreDigits 10 (t ++ '\n' :: rest) = some (t, '\n' :: rest) := by
  induction t with
  | nil => rfl
  | cons c t ih =>
      have isDigit := digits c (List.mem_cons_self ..)
      have notUnderscore : c ≠ '_' := ne_of_isDigit isDigit (by decide)
      rw [List.cons_append, moreDigits]
      · rw [if_pos (isDigitIn_of_isDigit isDigit), ih fun d member => digits d (List.mem_cons_of_mem _ member)]
        rfl
      · exact notUnderscore

theorem decimalDigits_ofNat (n : Nat) (rest : Text) :
    decimalDigits (Text.ofNat n ++ '\n' :: rest) = some (Text.ofNat n, '\n' :: rest) := by
  by_cases zero : n = 0
  · subst zero
    rfl
  · have notZero := head?_ofNat (Nat.pos_of_ne_zero zero)
    have areDigits (c : Char) (member : c ∈ Text.ofNat n) := isDigit_of_mem_ofNat member
    rcases exists_ofNat_cons n with ⟨first, more, isCons⟩
    rw [isCons] at notZero areDigits ⊢
    rw [List.cons_append, decimalDigits]
    · rw [digits, if_pos (isDigitIn_of_isDigit (areDigits first (List.mem_cons_self ..))),
        moreDigits_append fun c member => areDigits c (List.mem_cons_of_mem _ member)]
      rfl
    · intro after same
      exact notZero (congrArg some (List.cons.inj same).1)

/-- Digits at the end of a line are followed by a digit or by the end of the line. -/
theorem fixedDigits_append (digits : ∀ c ∈ t, c.isDigit = true) {width : Nat} {ds after : Text}
    (found : fixedDigits width (t ++ '\n' :: rest) = some (ds, after)) :
    ∃ c more, after = c :: more ∧ (c = '\n' ∨ c.isDigit = true) := by
  induction width generalizing t ds after with
  | zero =>
      cases found
      cases t with
      | nil => exact ⟨'\n', rest, rfl, .inl rfl⟩
      | cons c t => exact ⟨c, _, rfl, .inr (digits c (List.mem_cons_self ..))⟩
  | succ width ih =>
      cases t with
      | nil => cases found
      | cons c t =>
          rw [List.cons_append, fixedDigits, if_pos (isDigitIn_of_isDigit (digits c (List.mem_cons_self ..))),
            Option.map_eq_some_iff] at found
          rcases found with ⟨⟨ds, after⟩, found, same⟩
          cases same
          exact ih (fun d member => digits d (List.mem_cons_of_mem _ member)) found

theorem startsDatetime_append (digits : ∀ c ∈ t, c.isDigit = true) :
    startsDatetime (t ++ '\n' :: rest) = false := by
  have notMark {width : Nat} {ds more : Text} {mark : Char} (isMark : mark ≠ '\n' ∧ mark.isDigit = false) :
      fixedDigits width (t ++ '\n' :: rest) ≠ some (ds, mark :: more) := by
    intro found
    rcases fixedDigits_append digits found with ⟨c, after, same, feed | isDigit⟩ <;> cases same
    · exact isMark.1 feed
    · exact Bool.false_ne_true (isMark.2.symm.trans isDigit)
  rw [startsDatetime, Bool.or_eq_false_iff]
  constructor
  · split
    case h_1 found => exact absurd found (notMark (by decide))
    case h_2 => rfl
  · split
    case h_1 found => exact absurd found (notMark (by decide))
    case h_2 => rfl

theorem sign_of_digit {first : Char} (isDigit : first.isDigit = true) (t : Text) :
    sign (first :: t) = (false, first :: t) := by
  rw [sign]
  all_goals
    intro after same
    exact ne_of_isDigit isDigit (by decide) (List.cons.inj same).1

theorem integer?_natCast (n : Nat) :
    integer? false n = if (n : Int) ≤ maxInteger then some (.integer n) else none := by
  have least : minInteger ≤ (n : Int) := Int.le_trans (by decide) (Int.natCast_nonneg n)
  rw [integer?]
  simp [least]

/-- Digits at the end of a line are a whole number. -/
theorem decimal_of_digits {ds : Text} {negative : Bool}
    (found : decimalDigits t = some (ds, '\n' :: rest)) :
    decimal negative t = (integer? negative (ofDigits 10 ds)).map (·, '\n' :: rest) := by
  rw [decimal, found]
  show (integer? negative (ofDigits 10 ds)).bind _ = _
  cases integer? negative (ofDigits 10 ds) <;> rfl

/-- A numeral at the end of a line is a number that the integers hold, or no value at all. -/
theorem number_ofNat (n : Nat) (rest : Text) :
    number (Text.ofNat n ++ '\n' :: rest) =
      (if (n : Int) ≤ maxInteger then some (.integer n) else none).map (·, '\n' :: rest) := by
  have areDigits (c : Char) (member : c ∈ Text.ofNat n) := isDigit_of_mem_ofNat member
  have decimals := decimalDigits_ofNat n rest
  have value := ofDigits_ofNat n
  rcases exists_ofNat_cons n with ⟨first, more, isCons⟩
  rw [isCons] at areDigits decimals value ⊢
  have isDigit := areDigits first (List.mem_cons_self ..)
  -- No mark of another base stands behind the first digit.
  have noBase {mark : Char} (isMark : mark ≠ '\n' ∧ mark.isDigit = false) (after : Text) :
      first :: more ++ '\n' :: rest ≠ '0' :: mark :: after := by
    intro same
    cases more with
    | nil => exact isMark.1 (List.cons.inj (List.cons.inj same).2).1.symm
    | cons second more =>
        have isDigit := areDigits second (List.mem_cons_of_mem _ (List.mem_cons_self ..))
        exact ne_of_isDigit isDigit isMark.2 (List.cons.inj (List.cons.inj same).2).1
  rw [number, List.cons_append, sign_of_digit isDigit]
  · split
    case h_1 same => exact absurd (List.cons.inj (Prod.mk.inj same).2).1 (ne_of_isDigit isDigit (by decide))
    case h_2 same => exact absurd (List.cons.inj (Prod.mk.inj same).2).1 (ne_of_isDigit isDigit (by decide))
    case h_3 same =>
      cases same
      rw [List.cons_append] at decimals
      rw [decimal_of_digits decimals, value, integer?_natCast]
  · exact noBase (by decide)
  · exact noBase (by decide)
  · exact noBase (by decide)

theorem scalar_ofNat (n : Nat) (rest : Text) :
    scalar (Text.ofNat n ++ '\n' :: rest) =
      (if (n : Int) ≤ maxInteger then some (.integer n) else none).map (·, '\n' :: rest) := by
  rw [scalar, startsDatetime_append fun c => isDigit_of_mem_ofNat]
  exact number_ofNat n rest

end Toml
end TypedRoutes
