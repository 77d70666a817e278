import TypedRoutes.Text.Literal
import TypedRoutes.Proofs.Text.Delimited

namespace TypedRoutes

/-!
# Reading string literals

A reader for one character of a string literal, escaped or not.  It finds every character again from
its escape, whatever follows, so no character of a quoted text can end the literal or be taken for
another one.
-/

namespace Text

/-! ## Escapes -/

/-- The value of a hexadecimal digit. -/
def hexValue? (c : Char) : Option Nat :=
  if '0' ≤ c ∧ c ≤ '9' then some (c.toNat - '0'.toNat)
  else if 'a' ≤ c ∧ c ≤ 'f' then some (c.toNat - 'a'.toNat + 10)
  else if 'A' ≤ c ∧ c ≤ 'F' then some (c.toNat - 'A'.toNat + 10)
  else none

/-- What a character stands for after a backslash. -/
def escaped? : Char → Option Char
  | '"' => some '"'
  | '\\' => some '\\'
  | '/' => some '/'
  | 'b' => some '\x08'
  | 't' => some '\x09'
  | 'n' => some '\x0a'
  | 'f' => some '\x0c'
  | 'r' => some '\x0d'
  | _ => none

/-- The first character that a part of a string literal stands for, with the rest of the text.  The
quote that ends the literal stands for none. -/
def unescape? : Text → Option (Char × Text)
  | '\\' :: 'u' :: a :: b :: c :: d :: rest => do
      let high := 16 * (← hexValue? a) + (← hexValue? b)
      let low := 16 * (← hexValue? c) + (← hexValue? d)
      return (Char.ofNat (256 * high + low), rest)
  | '\\' :: c :: rest => (escaped? c).map (·, rest)
  | '"' :: _ => none
  | c :: rest => some (c, rest)
  | [] => none

theorem hexValue?_hexDigit {n : Nat} (bound : n < 16) : hexValue? (hexDigit n) = some n := by
  have each : ∀ n : Fin 16, hexValue? (hexDigit n) = some n.val := by decide
  exact each ⟨n, bound⟩

/-- A character is escaped by a letter or by its code, or it stands for itself. -/
theorem escape_cases (c : Char) :
    (∃ letter, escapeChar c = ['\\', letter] ∧ escaped? letter = some c) ∨
      (c.toNat < 0x20 ∧ escapeChar c =
        ['\\', 'u', '0', '0', hexDigit (c.toNat / 16), hexDigit (c.toNat % 16)]) ∨
      (c ≠ '"' ∧ c ≠ '\\' ∧ 0x20 ≤ c.toNat ∧ escapeChar c = [c]) := by
  by_cases isNamed : c ∈ ['"', '\\', '\x08', '\x09', '\x0a', '\x0c', '\x0d']
  · left
    simp only [List.mem_cons, List.not_mem_nil, or_false] at isNamed
    rcases isNamed with rfl | rfl | rfl | rfl | rfl | rfl | rfl
    all_goals exact ⟨_, rfl, rfl⟩
  · right
    simp only [List.mem_cons, List.not_mem_nil, or_false, not_or] at isNamed
    rcases isNamed with ⟨quote, backslash, backspace, tab, lineFeed, formFeed, carriageReturn⟩
    rw [escapeChar, if_neg quote, if_neg backslash, if_neg backspace, if_neg tab, if_neg lineFeed,
      if_neg formFeed, if_neg carriageReturn]
    split
    case isTrue control => exact .inl ⟨control, rfl⟩
    case isFalse visible => exact .inr ⟨quote, backslash, Nat.not_lt.1 visible, rfl⟩

/-- The letter of an escape is not the one that a code follows. -/
theorem ne_code_of_escaped? {letter c : Char} (meaning : escaped? letter = some c) : letter ≠ 'u' := by
  rintro rfl
  cases meaning

theorem space_le_of_escaped? {letter c : Char} (meaning : escaped? letter = some c) :
    0x20 ≤ letter.toNat := by
  unfold escaped? at meaning
  split at meaning
  all_goals first | decide | cases meaning

/-- Every character is read back from its escape. -/
theorem unescape?_escapeChar (c : Char) (rest : Text) :
    unescape? (escapeChar c ++ rest) = some (c, rest) := by
  rcases escape_cases c with ⟨letter, isEscape, meaning⟩ | ⟨control, isEscape⟩ |
    ⟨notQuote, notBackslash, -, isEscape⟩
  · simp [isEscape, unescape?, ne_code_of_escaped? meaning, meaning]
  · have zero : hexValue? '0' = some 0 := by decide
    have same : 16 * (c.toNat / 16) + c.toNat % 16 = c.toNat := Nat.div_add_mod c.toNat 16
    simp [isEscape, unescape?, zero, hexValue?_hexDigit (show c.toNat / 16 < 16 by omega),
      hexValue?_hexDigit (show c.toNat % 16 < 16 by omega), same]
  · simp [isEscape, unescape?, notBackslash]

theorem delimited_escapeChar : Delimited escapeChar :=
  .of_read unescape?_escapeChar

/-- No escape begins with the quote that ends a literal. -/
theorem apart_escapeChar_quote (c : Char) : Apart (escapeChar c) ['"'] := by
  intro x y same
  have found := unescape?_escapeChar c x
  rw [same] at found
  cases found

/-! ## Literals -/

/-- A quoted text can be read back, whatever is in it and whatever follows. -/
theorem delimited_quote : Delimited quote :=
  (delimited_escapeChar.flatMap apart_escapeChar_quote).after ['"']

end Text
end TypedRoutes
