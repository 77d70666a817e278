import Mathlib.Data.List.TakeDrop
import TypedRoutes.Proofs.Toml.Numbers
import TypedRoutes.Proofs.Toml.Strings
import TypedRoutes.Toml.Document

namespace TypedRoutes

/-!
# Reading written lines

A document that is written line by line is read line by line: each line gives its statements, whatever
the lines behind it are, and a line that cannot be read spoils the document.
-/

namespace Toml

/-! ## Keys -/

theorem head_of_writeKey (t : Text) : ∃ c more, writeKey t = c :: more ∧
    (isBareKeyChar c = true ∨ c = '"' ∨ c = '\x27') := by
  unfold writeKey
  split
  case isTrue bare =>
    rcases List.exists_cons_of_ne_nil bare.1 with ⟨c, more, rfl⟩
    exact ⟨c, more, rfl, .inl (List.all_eq_true.1 bare.2 c (List.mem_cons_self ..))⟩
  case isFalse =>
    split
    case isTrue => exact ⟨_, _, rfl, .inr (.inl rfl)⟩
    case isFalse =>
      split
      case isTrue => exact ⟨_, _, rfl, .inr (.inr rfl)⟩
      case isFalse => exact ⟨_, _, rfl, .inr (.inl rfl)⟩

/-- The first character of a key begins nothing else. -/
theorem ne_of_head {c d : Char} (isHead : isBareKeyChar c = true ∨ c = '"' ∨ c = '\x27')
    (other : isBareKeyChar d = false ∧ d ≠ '"' ∧ d ≠ '\x27') : c ≠ d := by
  rintro rfl
  rcases isHead with bare | quote | apostrophe
  · exact Bool.false_ne_true (other.1.symm.trans bare)
  · exact other.2.1 quote
  · exact other.2.2 apostrophe

theorem skipBlanks_writeKey (t rest : Text) : skipBlanks (writeKey t ++ rest) = writeKey t ++ rest := by
  rcases head_of_writeKey t with ⟨c, more, isCons, isHead⟩
  rw [isCons, List.cons_append, skipBlanks, List.dropWhile_cons_of_neg]
  have notSpace := ne_of_head (d := ' ') isHead (by decide)
  have notTab := ne_of_head (d := '\t') isHead (by decide)
  simp [isBlank, notSpace, notTab]

theorem keyPart_writeKey (t rest : Text) : keyPart (writeKey t ++ ' ' :: rest) = some (t, ' ' :: rest) := by
  have isQuoted : keyPart (quoted t ++ ' ' :: rest) = some (t, ' ' :: rest) := by
    rw [quoted, List.append_assoc, List.cons_append, List.singleton_append]
    exact basicString_escapedBody t _
  unfold writeKey
  split
  case isTrue bare =>
    rcases List.exists_cons_of_ne_nil bare.1 with ⟨c, more, isCons⟩
    have isBare := List.all_eq_true.1 bare.2
    have span : (t ++ ' ' :: rest).span isBareKeyChar = (t, ' ' :: rest) := by
      rw [List.span_eq_takeWhile_dropWhile, List.takeWhile_append_of_pos isBare,
        List.dropWhile_append_of_pos isBare, List.takeWhile_cons_of_neg (by decide),
        List.dropWhile_cons_of_neg (by decide), List.append_nil]
    rw [← span, isCons, List.cons_append, keyPart, if_pos (isBare c (isCons ▸ List.mem_cons_self ..))]
  case isFalse =>
    split
    case isTrue => exact isQuoted
    case isFalse =>
      split
      case isTrue fits =>
        rw [apostrophed, List.append_assoc, List.cons_append, List.singleton_append]
        exact literalString_append fits _
      case isFalse => exact isQuoted

theorem key_writeKey (t rest : Text) :
    key (writeKey t ++ ' ' :: '=' :: rest) = some (([], t), '=' :: rest) := by
  rw [key, skipBlanks_writeKey, keyPart_writeKey]
  rfl

/-! ## Entries -/

/-- What is written for a value is read as that value at the end of a line, or as none. -/
structure IsWrittenAs (written : Text) (value? : Option Value) : Prop where
  starts : ∃ c more, written = c :: more ∧ isBlank c = false
  reads : ∀ fuel rest, value (fuel + 1) 0 (written ++ '\n' :: rest) = value?.map (·, '\n' :: rest)

theorem isWrittenAs_writeString (t : Text) : IsWrittenAs (writeString t) (some (.string t)) := by
  have head : ∃ c more, writeString t = c :: more ∧ (c = '"' ∨ c = '\x27') := by
    unfold writeString
    split_ifs
    all_goals first | exact ⟨_, _, rfl, .inl rfl⟩ | exact ⟨_, _, rfl, .inr rfl⟩
  refine ⟨?_, fun fuel rest => ?_⟩
  · rcases head with ⟨c, more, isCons, rfl | rfl⟩
    · exact ⟨_, more, isCons, by decide⟩
    · exact ⟨_, more, isCons, by decide⟩
  · have isRead : string (writeString t ++ '\n' :: rest) = some (t, '\n' :: rest) :=
      string_writeString t (by simp) (by simp)
    rcases head with ⟨c, more, isCons, rfl | rfl⟩
    · rw [isCons] at isRead ⊢
      rw [List.cons_append] at isRead ⊢
      rw [value, isRead]
      rfl
    · rw [isCons] at isRead ⊢
      rw [List.cons_append] at isRead ⊢
      rw [value, isRead]
      rfl

theorem isWrittenAs_ofNat (n : Nat) : IsWrittenAs (Text.ofNat n)
    (if (n : Int) ≤ maxInteger then some (.integer n) else none) := by
  rcases exists_ofNat_cons n with ⟨first, more, isCons⟩
  have isDigit : first.isDigit = true := isDigit_of_mem_ofNat (isCons ▸ List.mem_cons_self ..)
  have isOther {d : Char} (other : d.isDigit = false) : first ≠ d := ne_of_isDigit isDigit other
  refine ⟨⟨first, more, isCons, ?_⟩, fun fuel rest => ?_⟩
  · rw [isBlank, decide_eq_false (isOther (by decide)), decide_eq_false (isOther (by decide)), Bool.or_false]
  · have isRead := scalar_ofNat n rest
    rw [isCons, List.cons_append] at isRead ⊢
    have notHead {d : Char} {after : Text} (other : d.isDigit = false) :
        first :: (more ++ '\n' :: rest) = d :: after → False :=
      fun same => isOther other (List.cons.inj same).1
    rw [value, isRead]
    all_goals exact fun _ => notHead (by decide)

theorem isWrittenAs_true : IsWrittenAs "true" (some (.boolean true)) where
  starts := ⟨_, _, rfl, rfl⟩
  reads _ _ := rfl

theorem isWrittenAs_false : IsWrittenAs "false" (some (.boolean false)) where
  starts := ⟨_, _, rfl, rfl⟩
  reads _ _ := rfl

theorem entryStatement_line {written : Text} {value? : Option Value} (isWritten : IsWrittenAs written value?)
    (name rest : Text) :
    entryStatement (writeKey name ++ " = " ++ written ++ "\n" ++ rest) =
      value?.map fun value => (.entry [] name value, rest) := by
  have pieces : writeKey name ++ " = " ++ written ++ "\n" ++ rest =
      writeKey name ++ ' ' :: '=' :: ' ' :: (written ++ '\n' :: rest) := by simp
  have skipped : skipBlanks (' ' :: (written ++ '\n' :: rest)) = written ++ '\n' :: rest := by
    rcases isWritten.starts with ⟨c, more, rfl, notBlank⟩
    rw [skipBlanks, List.dropWhile_cons_of_pos (by decide), List.cons_append,
      List.dropWhile_cons_of_neg (by simp [notBlank])]
  rw [pieces, entryStatement, key_writeKey]
  simp only [Option.bind_eq_bind, Option.bind_some, expect, if_true, skipped, isWritten.reads]
  cases value? with
  | none => rfl
  | some value => rfl

/-! ## Lines -/

/-- A line gives its statements, whatever stands behind it. -/
structure IsLine (line : Text) (found : Option (List Statement)) : Prop where
  nonempty : line ≠ []
  reads : ∀ fuel rest, statements (fuel + 1) (line ++ rest) =
    found.bind fun first => (statements fuel rest).map (first ++ ·)

theorem isLine_blank : IsLine ['\n'] (some []) where
  nonempty := by decide
  reads fuel rest := by
    show statements fuel rest = _
    simp

theorem isLine_entry {written : Text} {value? : Option Value} (isWritten : IsWrittenAs written value?)
    (name : Text) : IsLine (writeKey name ++ " = " ++ written ++ "\n")
      (value?.map fun value => [.entry [] name value]) where
  nonempty := by
    rcases head_of_writeKey name with ⟨c, more, isCons, -⟩
    simp [isCons]
  reads fuel rest := by
    have isRead := entryStatement_line isWritten name rest
    have skipped := skipBlanks_writeKey name (" = " ++ written ++ "\n" ++ rest)
    rcases head_of_writeKey name with ⟨c, more, isCons, isHead⟩
    simp only [isCons, List.cons_append, List.append_assoc] at isRead skipped ⊢
    have notHead {d : Char} {first after : Text} (other : isBareKeyChar d = false ∧ d ≠ '"' ∧ d ≠ '\x27') :
        c :: first = d :: after → False := fun same => ne_of_head isHead other (List.cons.inj same).1
    rw [statements, skipped]
    split
    case h_1 same => cases same
    case h_2 same => exact (notHead (by decide) same).elim
    case h_3 same => exact (notHead (by decide) same).elim
    case h_4 same => exact (notHead (by decide) same).elim
    case h_5 same => exact (notHead (by decide) same).elim
    case h_6 =>
      rw [isRead]
      cases value? with
      | none => rfl
      | some value =>
          show (statements fuel rest).bind (fun more => some (.entry [] name value :: more)) =
            (statements fuel rest).map ([.entry [] name value] ++ ·)
          cases statements fuel rest <;> rfl

theorem isLine_header {written : Text} {header : Statement}
    (isHeader : ∀ rest, headerStatement (written ++ rest) = some (header, rest)) :
    IsLine ('[' :: written) (some [header]) where
  nonempty := by simp
  reads fuel rest := by
    have start : skipBlanks ('[' :: written ++ rest) = '[' :: (written ++ rest) := rfl
    rw [statements, start]
    show (headerStatement (written ++ rest)).bind _ = _
    rw [isHeader]
    show (statements fuel rest).bind (fun more => some (header :: more)) =
      (statements fuel rest).map ([header] ++ ·)
    cases statements fuel rest <;> rfl

theorem skipCommentBody_append {body : Text} (plain : body.all isPlain = true) (rest : Text) :
    skipCommentBody (body ++ '\n' :: rest) = some ('\n' :: rest) := by
  induction body with
  | nil => rfl
  | cons c body ih =>
      rw [List.all_cons, Bool.and_eq_true] at plain
      have isPlain := plain.1
      have notFeed : c ≠ '\n' := by rintro rfl; cases isPlain
      have notReturn : c ≠ '\r' := by rintro rfl; cases isPlain
      unfold skipCommentBody
      rw [List.cons_append]
      simp only [notFeed, notReturn, isPlain, if_true, if_false]
      exact ih plain.2

/-- A comment says nothing. -/
theorem isLine_comment {body : Text} (plain : body.all isPlain = true) :
    IsLine ('#' :: (body ++ ['\n'])) (some []) where
  nonempty := by simp
  reads fuel rest := by
    have start : skipBlanks ('#' :: (body ++ ['\n']) ++ rest) = '#' :: (body ++ '\n' :: rest) := by
      simp [skipBlanks, isBlank]
    have ends : endOfLine ('#' :: (body ++ '\n' :: rest)) = some rest := by
      change (skipCommentBody (body ++ '\n' :: rest)).bind _ = _
      rw [skipCommentBody_append plain]
      rfl
    rw [statements, start]
    show (endOfLine ('#' :: (body ++ '\n' :: rest))).bind _ = _
    rw [ends]
    show statements fuel rest = _
    simp

/-- What a whole text is read as, with enough fuel. -/
def IsReadAs (text : Text) (found : Option (List Statement)) : Prop :=
  ∀ fuel, text.length < fuel → statements fuel text = found

theorem isReadAs_nil : IsReadAs [] (some []) := by
  intro fuel enough
  cases fuel with
  | zero => exact absurd enough (Nat.not_lt_zero _)
  | succ fuel => rfl

theorem IsReadAs.cons {line rest : Text} {found more : Option (List Statement)} (isLine : IsLine line found)
    (behind : IsReadAs rest more) :
    IsReadAs (line ++ rest) (found.bind fun first => more.map (first ++ ·)) := by
  intro fuel enough
  have positive := List.length_pos_of_ne_nil isLine.nonempty
  rw [List.length_append] at enough
  cases fuel with
  | zero => exact absurd enough (Nat.not_lt_zero _)
  | succ fuel => rw [isLine.reads, behind fuel (by omega)]

/-- A text that is read line by line is the document that its statements make. -/
theorem parse?_of_isReadAs {text : Text} {found : Option (List Statement)} (noMark : dropMark text = text)
    (isRead : IsReadAs text found) : parse? text = (found.bind (Draft.addAll {})).map fun draft =>
      Item.finishEntries draft.items := by
  rw [parse?, noMark, isRead _ (Nat.lt_succ_self _), Option.map_eq_bind, Option.bind_assoc]
  rfl

end Toml
end TypedRoutes
