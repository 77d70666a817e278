import TypedRoutes.Toml.Quoted

namespace TypedRoutes

/-!
# Writing TOML

How texts are written as TOML strings and keys.  Each text gets the plainest form that can hold it:
quotes first, then apostrophes, then triple quotes and triple apostrophes, and escapes only where
nothing else will do.
-/

namespace Toml

/-! ## What a text holds -/

/-- Whether a character can only be written as an escape: a control character other than a tab and a
line feed. -/
def needsEscape (c : Char) : Bool := !isPlain c && c ≠ '\n'

/-- The longest run of a character, where `run` of them stand in front. -/
def longestRun (c : Char) : Nat → Text → Nat
  | run, [] => run
  | run, d :: rest => if d = c then longestRun c (run + 1) rest else max run (longestRun c 0 rest)

/-- Whether a text fits between quotes without an escape, a tab apart. -/
def fitsQuotes (t : Text) : Bool :=
  t.all fun c => isPlain c && c ≠ '\\' && c ≠ '"'

def fitsApostrophes (t : Text) : Bool := t.all fun c => isPlain c && c ≠ '\x27'

/-- Whether a text fits between triple quotes without an escape, a tab apart. -/
def fitsTripleQuotes (t : Text) : Bool :=
  (t.all fun c => !needsEscape c && c ≠ '\\') && longestRun '"' 0 t < 3

def fitsTripleApostrophes (t : Text) : Bool :=
  (t.all fun c => !needsEscape c) && longestRun '\x27' 0 t < 3

/-! ## Escapes -/

/-- The hexadecimal digit of a number below sixteen, in upper case. -/
def upperDigit (n : Nat) : Char := (Nat.digitChar n).toUpper

/-- A character with an escape, where it has to have one in a basic string. -/
def escaped? (multi : Bool) (c : Char) : Option Text :=
  if c = '\x08' then some ['\\', 'b']
  else if c = '\t' then some ['\\', 't']
  else if c = '\n' then (if multi then none else some ['\\', 'n'])
  else if c = '\x0c' then some ['\\', 'f']
  else if c = '\r' then some ['\\', 'r']
  else if c = '\\' then some ['\\', '\\']
  else if isPlain c then none
  else some ['\\', 'u', '0', '0', upperDigit (c.toNat / 16), upperDigit (c.toNat % 16)]

/-- The body of a basic string after `run` quotes without escapes.  On one line every quote is
escaped, between triple quotes every one that would be the third in a row. -/
def escapedBody (multi : Bool) : Nat → Text → Text
  | _, [] => []
  | run, c :: rest =>
      if c = '"' then
        if multi ∧ run < 2 then '"' :: escapedBody multi (run + 1) rest
        else '\\' :: '"' :: escapedBody multi 0 rest
      else
        match escaped? multi c with
        | some written => written ++ escapedBody multi 0 rest
        | none => c :: escapedBody multi 0 rest

/-! ## Strings and keys -/

def quoted (t : Text) : Text := '"' :: escapedBody false 0 t ++ ['"']

def apostrophed (t : Text) : Text := '\x27' :: t ++ ['\x27']

/-- The end of line that follows triple quotes where the text has more than one line. -/
def opening (t : Text) : Text := if '\n' ∈ t then ['\n'] else []

def tripleQuoted (t : Text) : Text :=
  ['"', '"', '"'] ++ opening t ++ escapedBody true 0 t ++ ['"', '"', '"']

def tripleApostrophed (t : Text) : Text :=
  ['\x27', '\x27', '\x27'] ++ opening t ++ t ++ ['\x27', '\x27', '\x27']

def writeString (t : Text) : Text :=
  if fitsQuotes t then quoted t
  else if fitsApostrophes t then apostrophed t
  else if fitsTripleQuotes t then tripleQuoted t
  else if fitsTripleApostrophes t then tripleApostrophed t
  else if '\n' ∈ t then tripleQuoted t
  else quoted t

def writeKey (t : Text) : Text :=
  if t ≠ [] ∧ t.all isBareKeyChar then t
  else if fitsQuotes t then quoted t
  else if fitsApostrophes t then apostrophed t
  else quoted t

end Toml
end TypedRoutes
