import TypedRoutes.Text.Basic

namespace TypedRoutes

/-!
# Scanning TOML

Readers take a text and give what they read with the rest of the text, or nothing where the text is
not what they read.  This module holds the small ones: blanks, comments, ends of lines and runs of
digits.
-/

namespace Toml

/-- A reader of `α` from the front of a text. -/
abbrev Reader (α : Type) := Text → Option (α × Text)

def isBlank (c : Char) : Bool := c = ' ' || c = '\t'

/-- Whether a character may stand in a comment or a string: a tab, or anything that is not a control
character. -/
def isPlain (c : Char) : Bool := c = '\t' || (0x20 ≤ c.toNat && c.toNat ≠ 0x7f)

def isBareKeyChar (c : Char) : Bool := c.isAlphanum || c = '_' || c = '-'

def skipBlanks (t : Text) : Text := t.dropWhile isBlank

/-- The text after an end of line, which is a line feed with or without a carriage return. -/
def newline? : Text → Option Text
  | '\n' :: rest => some rest
  | '\r' :: '\n' :: rest => some rest
  | _ => none

/-- The text from the end of a line on, where only characters of a comment come before it. -/
def skipCommentBody : Text → Option Text
  | [] => some []
  | c :: rest =>
      if c = '\n' then some (c :: rest)
      else if c = '\r' then
        match rest with
        | '\n' :: _ => some (c :: rest)
        | _ => none
      else if isPlain c then skipCommentBody rest
      else none

def skipComment : Text → Option Text
  | '#' :: rest => skipCommentBody rest
  | t => some t

/-- What follows a statement on its line: blanks, an optional comment, and the end of the line or of
the text. -/
def endOfLine (t : Text) : Option Text := do
  let rest ← skipComment (skipBlanks t)
  if rest = [] then some [] else newline? rest

/-- Where skipping stands inside an array. -/
inductive Gap where
  | open
  | comment
  /-- After a carriage return, which a line feed has to follow. -/
  | carriage
deriving DecidableEq

/-- The text without the blanks, ends of lines and comments in front of it. -/
def skipGap : Gap → Text → Option Text
  | .carriage, [] => none
  | _, [] => some []
  | .open, c :: rest =>
      if isBlank c || c = '\n' then skipGap .open rest
      else if c = '\r' then skipGap .carriage rest
      else if c = '#' then skipGap .comment rest
      else some (c :: rest)
  | .comment, c :: rest =>
      if c = '\n' then skipGap .open rest
      else if c = '\r' then skipGap .carriage rest
      else if isPlain c then skipGap .comment rest
      else none
  | .carriage, c :: rest => if c = '\n' then skipGap .open rest else none

/-! ## Digits -/

/-- The value of a hexadecimal digit of either case. -/
def digitValue? (c : Char) : Option Nat :=
  if '0' ≤ c ∧ c ≤ '9' then some (c.toNat - '0'.toNat)
  else if 'a' ≤ c ∧ c ≤ 'f' then some (c.toNat - 'a'.toNat + 10)
  else if 'A' ≤ c ∧ c ≤ 'F' then some (c.toNat - 'A'.toNat + 10)
  else none

/-- Whether a character is a digit in a base up to sixteen. -/
def isDigitIn (base : Nat) (c : Char) : Bool := (digitValue? c).any (· < base)

def ofDigits (base : Nat) (digits : Text) : Nat :=
  digits.foldl (fun n c => n * base + (digitValue? c).getD 0) 0

/-- Digits after a first one, with single underscores between digits left out. -/
def moreDigits (base : Nat) : Reader Text
  | [] => some ([], [])
  | '_' :: rest =>
      match rest with
      | c :: after =>
          if isDigitIn base c then (moreDigits base after).map fun (ds, t) => (c :: ds, t) else none
      | [] => none
  | c :: rest =>
      if isDigitIn base c then (moreDigits base rest).map fun (ds, t) => (c :: ds, t)
      else some ([], c :: rest)

/-- A run of digits, with single underscores between digits left out. -/
def digits (base : Nat) : Reader Text
  | c :: rest =>
      if isDigitIn base c then (moreDigits base rest).map fun (ds, t) => (c :: ds, t) else none
  | [] => none

def fixedDigits : Nat → Reader Text
  | 0, t => some ([], t)
  | n + 1, c :: rest =>
      if isDigitIn 10 c then (fixedDigits n rest).map fun (ds, t) => (c :: ds, t) else none
  | _ + 1, [] => none

end Toml
end TypedRoutes
