import TypedRoutes.Toml.Writer

namespace TypedRoutes

/-!
# Reading written strings

A text that is written as a string or a key is read back from it, whatever is in it.  Of the text that
follows, only what would go on with the string matters.
-/

namespace Toml

/-! ## Bodies -/

/-- How the characters of a text may be written in a basic string.  Between triple quotes, quotes and
line feeds may stand for themselves. -/
inductive Written (multi : Bool) : Text → Text → Prop where
  | nil : Written multi [] []
  | plain {c : Char} {t body : Text} (notBackslash : c ≠ '\\') (notQuote : multi = false → c ≠ '"')
      (allowed : isPlain c ∨ (multi = true ∧ c = '\n')) (rest : Written multi t body) :
      Written multi (c :: t) (c :: body)
  | short {c letter : Char} {t body : Text} (meaning : shortEscape? letter = some c)
      (rest : Written multi t body) : Written multi (c :: t) ('\\' :: letter :: body)
  | code {c : Char} {t body : Text} {high low : Char}
      (meaning : codePoint? ['0', '0', high, low] = some c) (notQuote : high ≠ '"' ∧ low ≠ '"')
      (notBackslash : high ≠ '\\' ∧ low ≠ '\\') (notReturn : high ≠ '\r' ∧ low ≠ '\r')
      (rest : Written multi t body) :
      Written multi (c :: t) ('\\' :: 'u' :: '0' :: '0' :: high :: low :: body)

theorem codePoint?_upperDigits {c : Char} (small : c.toNat < 128) :
    codePoint? ['0', '0', upperDigit (c.toNat / 16), upperDigit (c.toNat % 16)] = some c := by
  have each : ∀ n : Fin 128, codePoint? ['0', '0', upperDigit (n.val / 16), upperDigit (n.val % 16)] =
      some (Char.ofNat n.val) := by decide +kernel
  rw [each ⟨c.toNat, small⟩, Char.ofNat_toNat]

theorem upperDigit_plain {n : Nat} (small : n < 16) :
    upperDigit n ≠ '"' ∧ upperDigit n ≠ '\\' ∧ upperDigit n ≠ '\r' := by
  have each : ∀ n : Fin 16, upperDigit n.val ≠ '"' ∧ upperDigit n.val ≠ '\\' ∧ upperDigit n.val ≠ '\r' := by
    decide
  exact each ⟨n, small⟩

/-- An escape names its character, by a letter or by its code point. -/
theorem escape_of_escaped? {multi : Bool} {c : Char} {written : Text}
    (found : escaped? multi c = some written) :
    (∃ letter, written = ['\\', letter] ∧ shortEscape? letter = some c) ∨
      written = ['\\', 'u', '0', '0', upperDigit (c.toNat / 16), upperDigit (c.toNat % 16)] ∧
        c.toNat < 128 := by
  by_cases isNamed : c ∈ ['\x08', '\t', '\n', '\x0c', '\r', '\\']
  · simp only [List.mem_cons, List.not_mem_nil, or_false] at isNamed
    rcases isNamed with rfl | rfl | rfl | rfl | rfl | rfl
    case inr.inr.inl => cases multi <;> cases found; exact .inl ⟨'n', rfl, rfl⟩
    all_goals cases found
    · exact .inl ⟨'b', rfl, rfl⟩
    · exact .inl ⟨'t', rfl, rfl⟩
    · exact .inl ⟨'f', rfl, rfl⟩
    · exact .inl ⟨'r', rfl, rfl⟩
    · exact .inl ⟨'\\', rfl, rfl⟩
  · simp only [List.mem_cons, List.not_mem_nil, or_false, not_or] at isNamed
    rcases isNamed with ⟨backspace, tab, lineFeed, formFeed, carriageReturn, backslash⟩
    rw [escaped?, if_neg backspace, if_neg tab, if_neg lineFeed, if_neg formFeed, if_neg carriageReturn,
      if_neg backslash] at found
    split at found
    case isTrue => cases found
    case isFalse control =>
      cases found
      refine .inr ⟨rfl, ?_⟩
      simp [isPlain, tab] at control
      omega

theorem plain_of_escaped? {multi : Bool} {c : Char} (found : escaped? multi c = none) :
    c ≠ '\\' ∧ (isPlain c = true ∨ multi = true ∧ c = '\n') := by
  by_cases isNamed : c ∈ ['\x08', '\t', '\n', '\x0c', '\r', '\\']
  · simp only [List.mem_cons, List.not_mem_nil, or_false] at isNamed
    rcases isNamed with rfl | rfl | rfl | rfl | rfl | rfl
    case inr.inr.inl =>
      cases multi
      · cases found
      · exact ⟨by decide, .inr ⟨rfl, rfl⟩⟩
    all_goals cases found
  · simp only [List.mem_cons, List.not_mem_nil, or_false, not_or] at isNamed
    rcases isNamed with ⟨backspace, tab, lineFeed, formFeed, carriageReturn, backslash⟩
    rw [escaped?, if_neg backspace, if_neg tab, if_neg lineFeed, if_neg formFeed, if_neg carriageReturn,
      if_neg backslash] at found
    split at found
    case isTrue plain => exact ⟨backslash, .inl plain⟩
    case isFalse => cases found

/-- The body that is written for a text is one of those that may be. -/
theorem written_escapedBody (multi : Bool) (run : Nat) (t : Text) :
    Written multi t (escapedBody multi run t) := by
  induction t generalizing run with
  | nil => exact .nil
  | cons c rest ih =>
      unfold escapedBody
      split
      case isTrue isQuote =>
        subst isQuote
        split
        case isTrue free =>
          exact .plain (by decide) (fun single => by simp [single] at free) (.inl (by decide)) (ih _)
        case isFalse => exact .short rfl (ih _)
      case isFalse notQuote =>
        cases found : escaped? multi c with
        | none =>
            rcases plain_of_escaped? found with ⟨notBackslash, allowed⟩
            exact .plain notBackslash (fun _ => notQuote) allowed (ih _)
        | some written =>
            rcases escape_of_escaped? found with ⟨letter, rfl, meaning⟩ | ⟨rfl, small⟩
            · exact .short meaning (ih _)
            · have high := upperDigit_plain (show c.toNat / 16 < 16 by omega)
              have low := upperDigit_plain (show c.toNat % 16 < 16 by omega)
              exact .code (codePoint?_upperDigits small) ⟨high.1, low.1⟩ ⟨high.2.1, low.2.1⟩
                ⟨high.2.2, low.2.2⟩ (ih _)

/-- The letter of a short escape is not one of those that begin a longer one, and no blank. -/
theorem letter_of_shortEscape? {letter c : Char} (meaning : shortEscape? letter = some c) :
    letter ≠ 'u' ∧ letter ≠ 'U' ∧ isBlank letter = false ∧ letter ≠ '\n' ∧ letter ≠ '\r' := by
  have notLetter {other : Char} (unknown : shortEscape? other = none) : letter ≠ other := by
    rintro rfl
    cases unknown.symm.trans meaning
  refine ⟨notLetter rfl, notLetter rfl, ?_, notLetter rfl, notLetter rfl⟩
  rw [isBlank, decide_eq_false (notLetter rfl), decide_eq_false (notLetter rfl), Bool.or_false]

/-- Without carriage returns every end of line is a line feed already. -/
theorem lineFeeds_of_noReturn {t : Text} (noReturn : '\r' ∉ t) : lineFeeds t = some t := by
  induction t with
  | nil => rfl
  | cons c t ih =>
      rw [List.mem_cons, not_or] at noReturn
      rw [lineFeeds]
      · simp [Ne.symm noReturn.1, ih noReturn.2]
      · simp [Ne.symm noReturn.1]

namespace Written

variable {multi : Bool} {t body : Text}

/-- Escapes are resolved to the text. -/
theorem unescape (written : Written multi t body) {allowed : Char → Bool}
    (feeds : multi = true → allowed '\n' = true) : Toml.unescape allowed body = some t := by
  induction written with
  | nil => rfl
  | @plain c t body notBackslash notQuote isAllowed rest ih =>
      have passes : isPlain c = true ∨ allowed c = true := by
        rcases isAllowed with plain | ⟨isMulti, rfl⟩
        · exact .inl plain
        · exact .inr (feeds isMulti)
      rw [Toml.unescape]
      · simp [notBackslash, passes, ih]
      all_goals simp [notBackslash]
  | short meaning rest ih =>
      rcases letter_of_shortEscape? meaning with ⟨notCode, notLong, -⟩
      rw [Toml.unescape]
      · simp [meaning, ih]
      all_goals simp [notCode, notLong]
  | code meaning _ _ _ rest ih =>
      rw [Toml.unescape]
      simp [meaning, ih]

theorem noReturn (written : Written multi t body) : '\r' ∉ body := by
  induction written with
  | nil => exact List.not_mem_nil
  | plain _ _ isAllowed _ ih =>
      refine List.not_mem_cons_of_ne_of_not_mem ?_ ih
      rintro rfl
      revert isAllowed
      simp [isPlain]
  | short meaning _ ih => simp [Ne.symm (letter_of_shortEscape? meaning).2.2.2.2, ih]
  | code _ _ _ notReturn _ ih => simp [Ne.symm notReturn.1, Ne.symm notReturn.2, ih]

/-- No backslash in a body hides an end of line. -/
theorem joinLines (written : Written multi t body) : Toml.joinLines .plain body = some body := by
  have each (c : Char) (notBackslash : c ≠ '\\') (rest : Text)
      (ih : Toml.joinLines .plain rest = some rest) :
      Toml.joinLines .plain (c :: rest) = some (c :: rest) := by
    simp [Toml.joinLines, notBackslash, ih]
  induction written with
  | nil => rfl
  | plain notBackslash _ _ rest ih => exact each _ notBackslash _ ih
  | short meaning rest ih =>
      rcases letter_of_shortEscape? meaning with ⟨-, -, notBlank, notFeed, -⟩
      simp [Toml.joinLines, notBlank, notFeed, ih]
  | code _ _ notBackslash _ rest ih =>
      have tail := each '0' (by decide) _ (each '0' (by decide) _
        (each _ notBackslash.1 _ (each _ notBackslash.2 _ ih)))
      rw [Toml.joinLines, if_pos rfl, Toml.joinLines, tail]
      rfl

/-- A body on one line ends at the quote behind it. -/
theorem basicBody (written : Written false t body) (rest : Text) :
    Toml.basicBody (body ++ '"' :: rest) = some (body, rest) := by
  have each (c : Char) (notQuote : c ≠ '"') (notBackslash : c ≠ '\\') (body : Text)
      (ih : Toml.basicBody (body ++ '"' :: rest) = some (body, rest)) :
      Toml.basicBody (c :: body ++ '"' :: rest) = some (c :: body, rest) := by
    rw [List.cons_append, Toml.basicBody]
    · simp [ih]
    all_goals simp [notQuote, notBackslash]
  have escape (c : Char) (body : Text) (ih : Toml.basicBody (body ++ '"' :: rest) = some (body, rest)) :
      Toml.basicBody ('\\' :: c :: body ++ '"' :: rest) = some ('\\' :: c :: body, rest) := by
    rw [List.cons_append, List.cons_append, Toml.basicBody, ih]
    rfl
  generalize isSingle : false = multi at written
  induction written with
  | nil => rfl
  | plain notBackslash notQuote _ rest ih =>
      exact each _ (notQuote isSingle.symm) notBackslash _ ih
  | short _ _ ih => exact escape _ _ ih
  | code _ notQuote notBackslash _ _ ih =>
      exact escape _ _ (each _ (by decide) (by decide) _ (each _ (by decide) (by decide) _
        (each _ notQuote.1 notBackslash.1 _ (each _ notQuote.2 notBackslash.2 _ ih))))

end Written

/-! ## Ends of strings on several lines -/

section

variable {quote : Char} {escapes : Bool} {run : Nat}

theorem multiLineBody_quote (below : run ≠ 5) (rest : Text) :
    multiLineBody quote escapes run (quote :: rest) = multiLineBody quote escapes (run + 1) rest := by
  -- What stands behind a backslash matters, so only the equations for one and for two characters hold by
  -- definition.
  cases rest with
  | nil => exact (if_pos rfl).trans (if_neg below)
  | cons d rest => exact (if_pos rfl).trans (if_neg below)

theorem multiLineBody_stop (enough : 3 ≤ run) {rest : Text} (ends : rest.head? ≠ some quote) :
    multiLineBody quote escapes run rest = some (List.replicate (run - 3) quote, rest) := by
  cases rest with
  | nil => exact if_pos enough
  | cons c rest =>
      have notQuote : c ≠ quote := fun same => ends (congrArg some same)
      cases rest with
      | nil => exact (if_neg notQuote).trans (if_pos enough)
      | cons d rest => exact (if_neg notQuote).trans (if_pos enough)

/-- Up to two quotes in front of the three that end a string belong to it. -/
theorem multiLineBody_end (small : run ≤ 2) {rest : Text} (ends : rest.head? ≠ some quote) :
    multiLineBody quote escapes run (quote :: quote :: quote :: rest) =
      some (List.replicate run quote, rest) := by
  rw [multiLineBody_quote (by omega), multiLineBody_quote (by omega), multiLineBody_quote (by omega),
    multiLineBody_stop (by omega) ends]
  rfl

theorem multiLineBody_plain (small : run ≤ 2) {c : Char} (notQuote : c ≠ quote)
    (noEscape : escapes = true → c ≠ '\\') {rest body after : Text}
    (found : multiLineBody quote escapes 0 rest = some (body, after)) :
    multiLineBody quote escapes run (c :: rest) = some (List.replicate run quote ++ c :: body, after) := by
  have few : ¬ 3 ≤ run := by omega
  have plain : ¬ (escapes = true ∧ c = '\\') := fun both => noEscape both.1 both.2
  have step : multiLineBody quote escapes run (c :: rest) =
      (multiLineBody quote escapes 0 rest).map fun found =>
        (List.replicate run quote ++ c :: found.1, found.2) := by
    cases rest with
    | nil => exact ((if_neg notQuote).trans (if_neg few)).trans (if_neg plain)
    | cons d rest => exact ((if_neg notQuote).trans (if_neg few)).trans (if_neg plain)
  rw [step, found]
  rfl

theorem multiLineBody_escape (small : run ≤ 2) (notQuote : '\\' ≠ quote) (c : Char)
    {rest body after : Text} (found : multiLineBody quote true 0 rest = some (body, after)) :
    multiLineBody quote true run ('\\' :: c :: rest) =
      some (List.replicate run quote ++ '\\' :: c :: body, after) := by
  have few : ¬ 3 ≤ run := by omega
  have step : multiLineBody quote true run ('\\' :: c :: rest) =
      (multiLineBody quote true 0 rest).map fun found =>
        (List.replicate run quote ++ '\\' :: c :: found.1, found.2) :=
    ((if_neg notQuote).trans (if_neg few)).trans (if_pos ⟨rfl, rfl⟩)
  rw [step, found]
  rfl

theorem le_longestRun (c : Char) (run : Nat) (t : Text) : run ≤ longestRun c run t := by
  induction t generalizing run with
  | nil => exact Nat.le_refl _
  | cons d t ih =>
      rw [longestRun]
      split
      case isTrue => exact Nat.le_trans (Nat.le_succ run) (ih (run + 1))
      case isFalse => exact Nat.le_max_left _ _

/-- Without escapes a text ends at the three quotes behind it, if it has no three in a row. -/
theorem multiLineBody_verbatim {t rest : Text} (few : longestRun quote run t < 3)
    (ends : rest.head? ≠ some quote) :
    multiLineBody quote false run (t ++ quote :: quote :: quote :: rest) =
      some (List.replicate run quote ++ t, rest) := by
  induction t generalizing run with
  | nil =>
      rw [List.append_nil]
      exact multiLineBody_end (Nat.le_of_lt_succ few) ends
  | cons c t ih =>
      rw [longestRun] at few
      split at few
      case isTrue isQuote =>
        subst isQuote
        have small := le_longestRun c (run + 1) t
        rw [List.cons_append, multiLineBody_quote (by omega), ih few, List.replicate_succ', List.append_assoc,
          List.singleton_append]
      case isFalse notQuote =>
        have behind := ih (Nat.lt_of_le_of_lt (Nat.le_max_right run _) few)
        exact multiLineBody_plain (by omega) notQuote (fun escapes => by cases escapes) behind

end

/-- A body between triple quotes ends at the three quotes behind it. -/
theorem multiLineBody_escapedBody {run : Nat} (small : run ≤ 2) (t : Text) {rest : Text}
    (ends : rest.head? ≠ some '"') :
    multiLineBody '"' true run (escapedBody true run t ++ '"' :: '"' :: '"' :: rest) =
      some (List.replicate run '"' ++ escapedBody true run t, rest) := by
  induction t generalizing run with
  | nil =>
      rw [escapedBody, List.append_nil]
      exact multiLineBody_end small ends
  | cons c t ih =>
      have behind := ih (Nat.zero_le 2)
      rw [List.replicate_zero, List.nil_append] at behind
      unfold escapedBody
      split
      case isTrue isQuote =>
        subst isQuote
        split
        case isTrue free =>
          rw [List.cons_append, multiLineBody_quote (by omega), ih (by omega), List.replicate_succ',
            List.append_assoc, List.singleton_append]
        case isFalse => exact multiLineBody_escape small (by decide) '"' behind
      case isFalse notQuote =>
        cases found : escaped? true c with
        | none =>
            exact multiLineBody_plain small notQuote (fun _ => (plain_of_escaped? found).1) behind
        | some written =>
            rcases escape_of_escaped? found with ⟨letter, rfl, -⟩ | ⟨rfl, few⟩
            · exact multiLineBody_escape small (by decide) letter behind
            · have high := upperDigit_plain (show c.toNat / 16 < 16 by omega)
              have low := upperDigit_plain (show c.toNat % 16 < 16 by omega)
              refine multiLineBody_escape small (by decide) 'u' ?_
              refine multiLineBody_plain (Nat.zero_le 2) (by decide) (by decide) ?_
              refine multiLineBody_plain (Nat.zero_le 2) (by decide) (by decide) ?_
              refine multiLineBody_plain (Nat.zero_le 2) high.1 (fun _ => high.2.1) ?_
              exact multiLineBody_plain (Nat.zero_le 2) low.1 (fun _ => low.2.1) behind

/-! ## Strings -/

section

variable {t body rest : Text}

theorem Written.head?_ne_quote (written : Written false t body) : body.head? ≠ some '"' := by
  cases written with
  | nil => nofun
  | plain _ notQuote _ _ => exact fun same => notQuote rfl (Option.some.inj same)
  | short _ _ => simp
  | code _ _ _ _ _ => simp

theorem singleLine_eq {read : Reader Text} {meaning : Text → Option Text} {source : Text}
    (found : read source = some (body, rest)) (means : meaning body = some t) :
    singleLine read meaning source = some (t, rest) := by
  simp [singleLine, found, means]

theorem basicString_escapedBody (t rest : Text) :
    basicString (escapedBody false 0 t ++ '"' :: rest) = some (t, rest) :=
  singleLine_eq ((written_escapedBody false 0 t).basicBody rest)
    ((written_escapedBody false 0 t).unescape nofun)

theorem literalBody_append (noEnd : '\x27' ∉ t) (rest : Text) :
    literalBody (t ++ '\x27' :: rest) = some (t, rest) := by
  induction t with
  | nil => rfl
  | cons c t ih =>
      rw [List.mem_cons, not_or] at noEnd
      rw [List.cons_append, literalBody, if_neg (Ne.symm noEnd.1), ih noEnd.2]
      rfl

theorem fits_of_fitsApostrophes (fits : fitsApostrophes t) :
    '\x27' ∉ t ∧ ∀ c ∈ t, isPlain c = true := by
  simp only [fitsApostrophes, List.all_eq_true, Bool.and_eq_true, decide_eq_true_eq] at fits
  exact ⟨fun member => (fits _ member).2 rfl, fun c member => (fits c member).1⟩

theorem literalString_append (fits : fitsApostrophes t) (rest : Text) :
    literalString (t ++ '\x27' :: rest) = some (t, rest) := by
  rcases fits_of_fitsApostrophes fits with ⟨noEnd, plain⟩
  refine singleLine_eq (literalBody_append noEnd rest) (if_pos ?_)
  simpa [List.all_eq_true] using plain

/-- A string on one line does not begin like one on several lines. -/
theorem not_three {quote : Char} (starts : body.head? ≠ some quote) (ends : rest.head? ≠ some quote)
    (more : Text) : body ++ quote :: rest ≠ quote :: quote :: more := by
  intro same
  cases body with
  | nil => exact ends (by rw [(List.cons.inj same).2]; rfl)
  | cons c body => exact starts (congrArg some (List.cons.inj same).1)

theorem string_quoted (t : Text) (ends : rest.head? ≠ some '"') :
    string (quoted t ++ rest) = some (t, rest) := by
  have notThree := not_three (written_escapedBody false 0 t).head?_ne_quote ends
  rw [quoted, List.append_assoc, List.cons_append, List.singleton_append, string,
    basicString_escapedBody]
  exact fun more same => notThree more same

theorem string_apostrophed (fits : fitsApostrophes t) (ends : rest.head? ≠ some '\x27') :
    string (apostrophed t ++ rest) = some (t, rest) := by
  have starts : t.head? ≠ some '\x27' := fun same =>
    (fits_of_fitsApostrophes fits).1 (List.mem_of_mem_head? same)
  have notThree := not_three starts ends
  rw [apostrophed, List.append_assoc, List.cons_append, List.singleton_append, string,
    literalString_append fits]
  exact fun more same => notThree more same

/-! ## Strings on several lines -/

/-- The end of line in front of a text that has ends of lines is not a part of it. -/
theorem dropFirstNewline_opening (starts : ∀ c, body.head? = some c → c ≠ '\r' ∧ (c = '\n' → '\n' ∈ t)) :
    dropFirstNewline (opening t ++ body) = body := by
  unfold opening
  split
  case isTrue => rfl
  case isFalse noFeed =>
    cases body with
    | nil => rfl
    | cons c body =>
        rcases starts c rfl with ⟨notReturn, feed⟩
        have notFeed : c ≠ '\n' := fun same => noFeed (feed same)
        rw [List.nil_append, dropFirstNewline, newline?]
        · rfl
        all_goals simp [notFeed, notReturn]

theorem head?_append_end {quote c : Char} (isHead : (body ++ quote :: rest).head? = some c) :
    c = quote ∨ body.head? = some c := by
  cases body with
  | nil => exact .inl (Option.some.inj isHead).symm
  | cons first body => exact .inr isHead

theorem Written.head?_of_multi (written : Written true t body) {c : Char} (isHead : body.head? = some c) :
    c ≠ '\r' ∧ (c = '\n' → '\n' ∈ t) := by
  cases written with
  | nil => cases isHead
  | plain _ _ allowed _ =>
      cases isHead
      refine ⟨?_, fun feed => feed ▸ List.mem_cons_self ..⟩
      rintro rfl
      revert allowed
      decide
  | short _ _ =>
      cases isHead
      exact ⟨by decide, fun same => absurd same (by decide)⟩
  | code _ _ _ _ _ =>
      cases isHead
      exact ⟨by decide, fun same => absurd same (by decide)⟩

theorem string_tripleQuoted (t : Text) (ends : rest.head? ≠ some '"') :
    string (tripleQuoted t ++ rest) = some (t, rest) := by
  have written := written_escapedBody true 0 t
  have starts (c : Char) (isHead : (escapedBody true 0 t ++ '"' :: '"' :: '"' :: rest).head? = some c) :
      c ≠ '\r' ∧ (c = '\n' → '\n' ∈ t) := by
    rcases head?_append_end isHead with rfl | inBody
    · exact ⟨by decide, fun same => absurd same (by decide)⟩
    · exact written.head?_of_multi inBody
  have found := multiLineBody_escapedBody (Nat.zero_le 2) t ends
  have same : tripleQuoted t ++ rest = '"' :: '"' :: '"' ::
      (opening t ++ (escapedBody true 0 t ++ '"' :: '"' :: '"' :: rest)) := by simp [tripleQuoted]
  rw [same, string, multiLineBasic, dropFirstNewline_opening starts, found, List.replicate_zero,
    List.nil_append]
  simp [lineFeeds_of_noReturn written.noReturn, written.joinLines, written.unescape]

theorem string_tripleApostrophed (fits : fitsTripleApostrophes t) (ends : rest.head? ≠ some '\x27') :
    string (tripleApostrophed t ++ rest) = some (t, rest) := by
  rw [fitsTripleApostrophes, Bool.and_eq_true, decide_eq_true_eq, List.all_eq_true] at fits
  rcases fits with ⟨allowed, few⟩
  have noReturn : '\r' ∉ t := fun member => absurd (allowed _ member) (by decide)
  have starts (c : Char) (isHead : (t ++ '\x27' :: '\x27' :: '\x27' :: rest).head? = some c) :
      c ≠ '\r' ∧ (c = '\n' → '\n' ∈ t) := by
    rcases head?_append_end isHead with rfl | inText
    · exact ⟨by decide, fun same => absurd same (by decide)⟩
    · have member := List.mem_of_mem_head? inText
      exact ⟨fun same => noReturn (same ▸ member), fun same => same ▸ member⟩
  have found := multiLineBody_verbatim few ends
  have same : tripleApostrophed t ++ rest = '\x27' :: '\x27' :: '\x27' ::
      (opening t ++ (t ++ '\x27' :: '\x27' :: '\x27' :: rest)) := by simp [tripleApostrophed]
  have verbatim : verbatim (· = '\n') t = some t := by
    refine if_pos (List.all_eq_true.2 fun c member => ?_)
    have isAllowed := allowed c member
    rw [needsEscape] at isAllowed
    revert isAllowed
    cases isPlain c <;> simp
  rw [same, string, multiLineLiteral, dropFirstNewline_opening starts, found, List.replicate_zero,
    List.nil_append]
  simp [lineFeeds_of_noReturn noReturn, verbatim]

/-- Whatever form a text is given, it is read back. -/
theorem string_writeString (t : Text) (ends : rest.head? ≠ some '"')
    (endsLiteral : rest.head? ≠ some '\x27') : string (writeString t ++ rest) = some (t, rest) := by
  unfold writeString
  split
  case isTrue => exact string_quoted t ends
  case isFalse =>
    split
    case isTrue fits => exact string_apostrophed fits endsLiteral
    case isFalse =>
      split
      case isTrue => exact string_tripleQuoted t ends
      case isFalse =>
        split
        case isTrue fits => exact string_tripleApostrophed fits endsLiteral
        case isFalse =>
          split
          case isTrue => exact string_tripleQuoted t ends
          case isFalse => exact string_quoted t ends

end

end Toml
end TypedRoutes
