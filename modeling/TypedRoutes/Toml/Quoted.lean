import TypedRoutes.Toml.Scan

namespace TypedRoutes

/-!
# TOML strings

The four kinds of string: basic and literal, each on one line or on several.  A string is read in two
steps.  The first finds where it ends and gives the text between the quotes as it is written; the
second gives the text that this stands for.  Between triple quotes a run of one or two quotes is
text, a run of three to five ends the string, and an end of line reads as a line feed.
-/

namespace Toml

/-! ## Where a string ends -/

/-- What is written up to the next quote that is not escaped.  Reading starts behind the opening
quote. -/
def basicBody : Reader Text
  | [] => none
  | '"' :: rest => some ([], rest)
  | '\\' :: c :: rest => (basicBody rest).map fun (body, after) => ('\\' :: c :: body, after)
  | c :: rest => (basicBody rest).map fun (body, after) => (c :: body, after)

/-- What is written up to the next apostrophe. -/
def literalBody : Reader Text
  | [] => none
  | c :: rest =>
      if c = '\x27' then some ([], rest)
      else (literalBody rest).map fun (body, after) => (c :: body, after)

/-- What is written up to triple quotes, after a run of `count` quotes.  Of a run of more than three
quotes the last three end the string.  With `escapes`, a quote behind a backslash is no end. -/
def multiLineBody (quote : Char) (escapes : Bool) : Nat → Reader Text
  | count, [] => if 3 ≤ count then some (List.replicate (count - 3) quote, []) else none
  | count, c :: rest =>
      if c = quote then
        if count = 5 then some ([quote, quote], c :: rest)
        else multiLineBody quote escapes (count + 1) rest
      else if 3 ≤ count then some (List.replicate (count - 3) quote, c :: rest)
      else if escapes ∧ c = '\\' then
        match rest with
        | [] => none
        | d :: rest =>
            (multiLineBody quote escapes 0 rest).map fun (body, after) =>
              (List.replicate count quote ++ c :: d :: body, after)
      else
        (multiLineBody quote escapes 0 rest).map fun (body, after) =>
          (List.replicate count quote ++ c :: body, after)

/-! ## What a string stands for -/

def shortEscape? (c : Char) : Option Char :=
  if c = 'b' then some '\x08'
  else if c = 't' then some '\t'
  else if c = 'n' then some '\n'
  else if c = 'f' then some '\x0c'
  else if c = 'r' then some '\r'
  else if c = '"' then some '"'
  else if c = '\\' then some '\\'
  else none

/-- The character of a code point, surrogates excluded. -/
def charOf? (n : Nat) : Option Char :=
  if n < 0xd800 ∨ (0xdfff < n ∧ n < 0x110000) then some (Char.ofNat n) else none

/-- The character that hexadecimal digits name. -/
def codePoint? (digits : Text) : Option Char :=
  if digits.all (isDigitIn 16) then charOf? (ofDigits 16 digits) else none

/-- Resolve the escapes of a basic string.  Other control characters than a tab must be escaped;
`allowed` are further characters that need not be. -/
def unescape (allowed : Char → Bool) : Text → Option Text
  | [] => some []
  | '\\' :: 'u' :: a :: b :: c :: d :: rest => do
      let char ← codePoint? [a, b, c, d]
      return char :: (← unescape allowed rest)
  | '\\' :: 'U' :: a :: b :: c :: d :: e :: f :: g :: h :: rest => do
      let char ← codePoint? [a, b, c, d, e, f, g, h]
      return char :: (← unescape allowed rest)
  | '\\' :: escape :: rest => do
      let char ← shortEscape? escape
      return char :: (← unescape allowed rest)
  | c :: rest =>
      if c ≠ '\\' ∧ (isPlain c || allowed c) then do
        return c :: (← unescape allowed rest)
      else none

/-- The text of a literal string, where it is allowed. -/
def verbatim (allowed : Char → Bool) (body : Text) : Option Text :=
  if body.all fun c => isPlain c || allowed c then some body else none

/-- The text with every end of line written as a line feed.  A carriage return that ends no line is
not allowed. -/
def lineFeeds : Text → Option Text
  | [] => some []
  | '\r' :: '\n' :: rest => (lineFeeds rest).map ('\n' :: ·)
  | c :: rest => if c = '\r' then none else (lineFeeds rest).map (c :: ·)

/-- Where the joining of lines stands. -/
inductive Joining where
  | plain
  /-- Behind a backslash. -/
  | backslash
  /-- Among the blanks that a backslash hides, before the end of line or after it. -/
  | hidden (ended : Bool)
deriving DecidableEq

/-- The text without the ends of lines that a backslash hides, and without the blanks around
them.  Escapes stay as they are. -/
def joinLines : Joining → Text → Option Text
  | .plain, [] => some []
  | .backslash, [] => none
  | .hidden ended, [] => if ended then some [] else none
  | .plain, c :: rest =>
      if c = '\\' then joinLines .backslash rest else (joinLines .plain rest).map (c :: ·)
  | .backslash, c :: rest =>
      if isBlank c then joinLines (.hidden false) rest
      else if c = '\n' then joinLines (.hidden true) rest
      else (joinLines .plain rest).map fun t => '\\' :: c :: t
  | .hidden ended, c :: rest =>
      if isBlank c then joinLines (.hidden ended) rest
      else if c = '\n' then joinLines (.hidden true) rest
      else if !ended then none
      else if c = '\\' then joinLines .backslash rest
      else (joinLines .plain rest).map (c :: ·)

/-! ## Strings -/

def dropFirstNewline (t : Text) : Text := (newline? t).getD t

/-- A string on one line: the reader of its body and what the body stands for. -/
def singleLine (body : Reader Text) (meaning : Text → Option Text) : Reader Text := fun t => do
  let (written, rest) ← body t
  return (← meaning written, rest)

/-- A basic string, behind its opening quote. -/
def basicString : Reader Text := singleLine basicBody (unescape fun _ => false)

def literalString : Reader Text := singleLine literalBody (verbatim fun _ => false)

def multiLineBasic : Reader Text := fun t => do
  let (written, rest) ← multiLineBody '"' true 0 (dropFirstNewline t)
  let joined ← joinLines .plain (← lineFeeds written)
  return (← unescape (· = '\n') joined, rest)

def multiLineLiteral : Reader Text := fun t => do
  let (written, rest) ← multiLineBody '\x27' false 0 (dropFirstNewline t)
  return (← verbatim (· = '\n') (← lineFeeds written), rest)

def string : Reader Text
  | '"' :: '"' :: '"' :: rest => multiLineBasic rest
  | '"' :: rest => basicString rest
  | '\x27' :: '\x27' :: '\x27' :: rest => multiLineLiteral rest
  | '\x27' :: rest => literalString rest
  | _ => none

/-- A string on one line, as keys need it. -/
def quotedKey : Reader Text
  | '"' :: rest => basicString rest
  | '\x27' :: rest => literalString rest
  | _ => none

end Toml
end TypedRoutes
