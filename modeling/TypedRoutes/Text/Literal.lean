import TypedRoutes.Text.Basic

namespace TypedRoutes

/-!
# String literals

A text as a JSON string literal, which is also a literal of the generated language.  The quote, the
backslash and the characters below U+0020 are escaped and every other character stands for itself.
-/

namespace Text

/-- The hexadecimal digit of a number below sixteen, in lower case. -/
def hexDigit (n : Nat) : Char := Nat.digitChar n

def escapeChar (c : Char) : Text :=
  if c = '"' then ['\\', '"']
  else if c = '\\' then ['\\', '\\']
  else if c = '\x08' then ['\\', 'b']
  else if c = '\x09' then ['\\', 't']
  else if c = '\x0a' then ['\\', 'n']
  else if c = '\x0c' then ['\\', 'f']
  else if c = '\x0d' then ['\\', 'r']
  else if c.toNat < 0x20 then
    ['\\', 'u', '0', '0', hexDigit (c.toNat / 16), hexDigit (c.toNat % 16)]
  else [c]

def quote (t : Text) : Text := '"' :: t.flatMap escapeChar ++ ['"']

end Text
end TypedRoutes
