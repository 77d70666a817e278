import TypedRoutes.Layer.Value
import TypedRoutes.Text.Blank
import TypedRoutes.Text.Lowercase
import TypedRoutes.Toml.Quoted

namespace TypedRoutes

/-!
# The environment as a layer

Variables whose names start with `ROUTE_TYPEGEN_`, in capitals or not, set the entry that the rest of
the name leads to: small letters, and two underscores for a step into a table.  A value may be
written as a truth value, a number, a quoted text, a list or a table; anything else is taken as the
text it is.
-/

namespace Layer

namespace Environment

/-! ## Values -/

/-- Whether a character belongs to an unquoted value. -/
def isBareChar (c : Char) : Bool := !(c = ',' || c = '{' || c = '}' || c = '[' || c = ']')

def skipSpace (t : Text) : Text := t.dropWhile Text.isAsciiSpace

/-- The number that decimal digits write, where they are digits. -/
def natural? (t : Text) : Option Nat :=
  if t ≠ [] ∧ t.all (Toml.isDigitIn 10) then some (Toml.ofDigits 10 t) else none

/-- A whole number of 64 bits without a sign; a plus is allowed. -/
def unsigned? (t : Text) : Option Nat :=
  (natural? (match t with
    | '+' :: digits => digits
    | t => t)).filter (· < UInt64.size)

/-- A negative whole number of 64 bits, or a zero with a minus. -/
def negative? : Text → Option Int
  | '-' :: digits => ((natural? digits).filter (· ≤ UInt64.size / 2)).map fun n => -(n : Int)
  | _ => none

def sign : Text → Bool × Text
  | '-' :: rest => (true, rest)
  | '+' :: rest => (false, rest)
  | t => (false, t)

/-- The exponent behind its mark, where it is one. -/
def exponent? (t : Text) : Option Int :=
  let (isNegative, digits) := sign t
  (natural? digits).map fun n => if isNegative then -(n : Int) else n

/-- A decimal number with a point: digits before it, after it or both, and perhaps an exponent. -/
def float? (t : Text) : Option Binary64 :=
  let (isNegative, t) := sign t
  let (whole, rest) := t.span (Toml.isDigitIn 10)
  match rest with
  | '.' :: rest =>
      let (fraction, rest) := rest.span (Toml.isDigitIn 10)
      if whole = [] ∧ fraction = [] then none
      else
        let value (exponent : Int) :=
          Binary64.ofDecimal isNegative (Toml.ofDigits 10 (whole ++ fraction))
            (exponent - fraction.length)
        match rest with
        | [] => some (value 0)
        | mark :: rest => if mark = 'e' ∨ mark = 'E' then (exponent? rest).map value else none
  | _ => none

/-- An unquoted value: a number where it reads as one, else a text. -/
def bare (t : Text) : Value :=
  match (if '.' ∈ t then float? t else none), unsigned? t, negative? t with
  | some x, _, _ => .float .environment x
  | none, some n, _ => .unsigned .environment n
  | none, none, some i => .signed .environment i
  | none, none, none => .text .environment t

def entryName (t : Text) : Option (Text × Text) :=
  match t with
  | '"' :: rest => Toml.basicString rest
  | t =>
      let (name, rest) := t.span Toml.isBareKeyChar
      if name = [] then none else some (name, rest)

mutual

/-- A value with the white space around it.  `fuel` bounds the work. -/
def value : Nat → Text → Option (Value × Text)
  | 0, _ => none
  | fuel + 1, t => do
      let (v, rest) ← valueBody fuel (skipSpace t)
      return (v, skipSpace rest)

/-- A value behind the white space in front of it. -/
def valueBody : Nat → Text → Option (Value × Text)
  | 0, _ => none
  | fuel + 1, t =>
      match t with
      | 't' :: 'r' :: 'u' :: 'e' :: rest => some (.flag .environment true, rest)
      | 'f' :: 'a' :: 'l' :: 's' :: 'e' :: rest => some (.flag .environment false, rest)
      | '{' :: rest =>
          (entries fuel [] rest).map fun (found, rest) => (.table .environment found, rest)
      | '[' :: rest => (items fuel rest).map fun (found, rest) => (.list .environment found, rest)
      | '"' :: rest =>
          (Toml.basicString rest).map fun (s, rest) => (.text .environment s, rest)
      | '\x27' :: c :: '\x27' :: rest => some (.text .environment [c], rest)
      | '\x27' :: _ => none
      | t =>
          let (word, rest) := t.span isBareChar
          some (bare (Text.trim word), rest)

/-- The items of a list behind its bracket. -/
def items : Nat → Text → Option (List Value × Text)
  | 0, _ => none
  | fuel + 1, t =>
      match t with
      | ']' :: rest => some ([], rest)
      | t => do
          let (first, rest) ← value fuel t
          match rest with
          | ',' :: rest => do
              let (more, rest) ← items fuel rest
              return (first :: more, rest)
          | ']' :: rest => return ([first], rest)
          | _ => none

/-- The entries of a table behind its brace, added to those before. -/
def entries : Nat → Table Value → Text → Option (Table Value × Text)
  | 0, _, _ => none
  | fuel + 1, sofar, t =>
      match t with
      | '}' :: rest => some (sofar, rest)
      | t => do
          let (name, rest) ← entryName (skipSpace t)
          match skipSpace rest with
          | '=' :: rest =>
              let (v, rest) ← value fuel rest
              let sofar := Table.insert name v sofar
              match rest with
              | ',' :: rest => entries fuel sofar rest
              | '}' :: rest => return (sofar, rest)
              | _ => none
          | _ => none

end

/-- The value of a variable: what it is written as, or its text where it is not written as a value
from end to end. -/
def parse (t : Text) : Value :=
  match value (3 * t.length + 3) t with
  | some (v, []) => v
  | _ => .text .environment t

/-! ## Names -/

/-- What the names of variables start with. -/
def namePrefix : Text := "ROUTE_TYPEGEN_"

/-- The text with a point in place of every two underscores. -/
def pointed : Text → Text
  | '_' :: '_' :: rest => '.' :: pointed rest
  | c :: rest => c :: pointed rest
  | [] => []

/-- The entry that a variable sets, as the names that lead to it.  A variable with another beginning
sets none, and neither does one with an empty name on the way. -/
def keys? (name : Text) : Option (List Text) :=
  if Text.asciiUpper (name.take namePrefix.length) = namePrefix then
    let keys := Text.pieces '.' (Text.trim (pointed (Text.lower (name.drop namePrefix.length))))
    if keys.any List.isEmpty then none else some keys
  else none

/-- The value that sets one entry below some names. -/
def nest : List Text → Value → Value
  | [], v => v
  | key :: rest, v => .table .environment [(key, nest rest v)]

/-- The layer of some variables.  A variable is laid over those before it. -/
def layer (given : List (Text × Text)) : Value :=
  given.foldl (fun sofar (name, text) =>
    match keys? name with
    | some keys => sofar.overlay (nest keys (parse text))
    | none => sofar) (.table .environment [])

end Environment
end Layer
end TypedRoutes
