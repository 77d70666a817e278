import TypedRoutes.Proofs.Text.Lines
import TypedRoutes.Proofs.Text.Literal

namespace TypedRoutes

/-!
# Reading whole literals

A string literal is read from its opening quote to the first quote that is not escaped, and escapes
are resolved on the way.  Whatever text was quoted and whatever follows the literal, reading gives
that text and stops right behind the literal.  So no quoted text can end its literal early or run on
into the source around it.
-/

namespace Text

/-! ## The reader -/

/-- The character with a code of four hexadecimal digits.  Half of a surrogate pair is none. -/
def charOfCode? (a b c d : Char) : Option Char := do
  let high := 16 * (← hexValue? a) + (← hexValue? b)
  let low := 16 * (← hexValue? c) + (← hexValue? d)
  let code := 256 * high + low
  if code.isValidChar then return Char.ofNat code else none

/-- The text in front of the quote that ends a literal, and what follows that quote.  Reading starts
behind the opening quote. -/
def literalBody? : Text → Option (Text × Text)
  | '"' :: rest => some ([], rest)
  | '\\' :: 'u' :: a :: b :: c :: d :: rest => do
      let first ← charOfCode? a b c d
      let (body, after) ← literalBody? rest
      return (first :: body, after)
  | '\\' :: letter :: rest => do
      let first ← escaped? letter
      let (body, after) ← literalBody? rest
      return (first :: body, after)
  | c :: rest => do
      if c.toNat < 0x20 then none
      let (body, after) ← literalBody? rest
      return (c :: body, after)
  | [] => none

/-- The text that a literal stands for, and what follows the literal. -/
def unquote? : Text → Option (Text × Text)
  | '"' :: rest => literalBody? rest
  | _ => none

/-! ## Reading what was quoted -/

theorem charOfCode?_control {c : Char} (control : c.toNat < 0x20) :
    charOfCode? '0' '0' (hexDigit (c.toNat / 16)) (hexDigit (c.toNat % 16)) = some c := by
  have each : ∀ n : Fin 0x20, charOfCode? '0' '0' (hexDigit (n.val / 16)) (hexDigit (n.val % 16)) =
      some (Char.ofNat n.val) := by decide
  rw [each ⟨c.toNat, control⟩, Char.ofNat_toNat]

/-- The escape of a character is read as the character, whatever follows. -/
theorem literalBody?_escapeChar (c : Char) (rest : Text) :
    literalBody? (escapeChar c ++ rest) =
      (literalBody? rest).map fun read => (c :: read.1, read.2) := by
  rcases escape_cases c with ⟨letter, isEscape, meaning⟩ | ⟨control, isEscape⟩ |
    ⟨notQuote, notBackslash, visible, isEscape⟩
  · rw [isEscape]
    change literalBody? ('\\' :: letter :: rest) = _
    rw [literalBody?, meaning]
    · cases literalBody? rest <;> rfl
    · simp [ne_code_of_escaped? meaning]
  · rw [isEscape]
    change literalBody? ('\\' :: 'u' :: '0' :: '0' :: _ :: _ :: rest) = _
    rw [literalBody?, charOfCode?_control control]
    cases literalBody? rest <;> rfl
  · rw [isEscape]
    change literalBody? (c :: rest) = _
    rw [literalBody?, if_neg (Nat.not_lt.2 visible)]
    · cases literalBody? rest <;> rfl
    · simp [notQuote]
    · simp [notBackslash]
    · simp [notBackslash]

theorem unquote?_quote (value rest : Text) : unquote? (quote value ++ rest) = some (value, rest) := by
  have body : literalBody? (value.flatMap escapeChar ++ '"' :: rest) = some (value, rest) := by
    induction value with
    | nil => rfl
    | cons c value ih => rw [List.flatMap_cons, List.append_assoc, literalBody?_escapeChar, ih]; rfl
  rw [← body, quote, List.append_assoc]
  rfl

/-! ## Texts that need no escape -/

theorem escapeChar_of_plain {c : Char} (notQuote : c ≠ '"') (notBackslash : c ≠ '\\')
    (visible : 0x20 ≤ c.toNat) : escapeChar c = [c] := by
  have notControl {other : Char} (control : other.toNat < 0x20) : c ≠ other := by
    rintro rfl
    omega
  rw [escapeChar, if_neg notQuote, if_neg notBackslash, if_neg (notControl (by decide)),
    if_neg (notControl (by decide)), if_neg (notControl (by decide)), if_neg (notControl (by decide)),
    if_neg (notControl (by decide)), if_neg (Nat.not_lt.2 visible)]

theorem quote_of_plain {value : Text}
    (plain : ∀ c ∈ value, c ≠ '"' ∧ c ≠ '\\' ∧ 0x20 ≤ c.toNat) :
    quote value = '"' :: value ++ ['"'] := by
  apply congrArg (fun body => '"' :: body ++ ['"'])
  induction value with
  | nil => rfl
  | cons c value ih =>
      rcases plain c List.mem_cons_self with ⟨notQuote, notBackslash, visible⟩
      rw [List.flatMap_cons, escapeChar_of_plain notQuote notBackslash visible,
        ih fun other member => plain other (List.mem_cons_of_mem _ member), List.singleton_append]

/-! ## Quoting -/

/-- What makes a way of quoting safe inside a generated source. -/
structure SafeQuoting (quote : Text → Text) : Prop where
  /-- A literal is read as the text that was quoted, and reading stops where the literal ends. -/
  reads : ∀ value rest, unquote? (quote value ++ rest) = some (value, rest)
  /-- A literal stays on its line and holds no other character below U+0020. -/
  visible : ∀ value, ∀ c ∈ quote value, 0x20 ≤ c.toNat
  /-- Only quotes, backslashes and control characters are written in another way. -/
  copies : ∀ value, (∀ c ∈ value, c ≠ '"' ∧ c ≠ '\\' ∧ 0x20 ≤ c.toNat) →
    quote value = '"' :: value ++ ['"']
  /-- Different texts have different literals. -/
  injective : Function.Injective quote
  /-- No literal is a proper beginning of another. -/
  noBeginning : ∀ first second, quote first <+: quote second → quote first = quote second

/-- Every quoted text is read back, whatever is in it and whatever follows. -/
theorem safeQuoting_quote : SafeQuoting quote where
  reads := unquote?_quote
  visible _ _ member := space_le_of_mem_quote member
  copies _ plain := quote_of_plain plain
  injective _ _ same := delimited_quote.injective same
  noBeginning first second := by
    rintro ⟨rest, same⟩
    have both := delimited_quote (same.trans (List.append_nil _).symm)
    rw [both.1]

end Text
end TypedRoutes
