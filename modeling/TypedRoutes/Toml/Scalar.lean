import TypedRoutes.Toml.Scan
import TypedRoutes.Toml.Value

namespace TypedRoutes

/-!
# TOML numbers, dates and times

Integers have 64 bits with a sign; floats are doubles, and a float above all of them is refused.
Dates and times are checked against the calendar and kept in one canonical form: `T` between date and
time, a fraction of at most nine digits without zeros at its end, and `Z` or a signed offset.
-/

namespace Toml

/-! ## Numbers -/

def sign : Text → Bool × Text
  | '-' :: rest => (true, rest)
  | '+' :: rest => (false, rest)
  | t => (false, t)

def integer? (negative : Bool) (n : Nat) : Option Value :=
  let i : Int := if negative then -(n : Int) else n
  if minInteger ≤ i ∧ i ≤ maxInteger then some (.integer i) else none

/-- A number in a base other than ten, behind its mark. -/
def basedInteger (base : Nat) : Reader Value := fun t => do
  let (ds, rest) ← digits base t
  return (← integer? false (ofDigits base ds), rest)

/-- The digits of a decimal integer, which has no needless zero in front. -/
def decimalDigits : Reader Text
  | '0' :: rest => some (['0'], rest)
  | t => digits 10 t

/-- The exponent behind its mark. -/
def exponentPart : Reader Int := fun t => do
  let (negative, t) := sign t
  let (ds, rest) ← digits 10 t
  return (if negative then -(ofDigits 10 ds : Int) else ofDigits 10 ds, rest)

/-- Whether a text goes on with the mark of an exponent. -/
def atExponent : Text → Option Text
  | 'e' :: rest => some rest
  | 'E' :: rest => some rest
  | _ => none

/-- A double, unless it is above every double. -/
def float? (value : Binary64) : Option Value :=
  if value = .infinite false then none else some (.float value)

/-- A decimal number behind its sign: digits, and for a float a fraction, an exponent or both. -/
def decimal (negative : Bool) : Reader Value := fun t => do
  let (whole, rest) ← decimalDigits t
  match rest with
  | '.' :: rest =>
      let (fraction, rest) ← digits 10 rest
      let (exponent, rest) ←
        match atExponent rest with
        | some rest => exponentPart rest
        | none => some (0, rest)
      let value := Binary64.ofDecimal negative (ofDigits 10 (whole ++ fraction))
        (exponent - fraction.length)
      return (← float? value, rest)
  | rest =>
      match atExponent rest with
      | some rest =>
          let (exponent, rest) ← exponentPart rest
          return (← float? (.ofDecimal negative (ofDigits 10 whole) exponent), rest)
      | none => return (← integer? negative (ofDigits 10 whole), rest)

def number : Reader Value
  | '0' :: 'x' :: rest => basedInteger 16 rest
  | '0' :: 'o' :: rest => basedInteger 8 rest
  | '0' :: 'b' :: rest => basedInteger 2 rest
  | t =>
      match sign t with
      | (negative, 'i' :: 'n' :: 'f' :: rest) => some (.float (.infinite negative), rest)
      | (_, 'n' :: 'a' :: 'n' :: rest) => some (.float .nan, rest)
      | (negative, rest) => decimal negative rest

/-! ## Dates and times -/

/-- A number of exactly so many digits, between two bounds. -/
def bounded (width least greatest : Nat) : Reader Nat := fun t => do
  let (ds, rest) ← fixedDigits width t
  let n := ofDigits 10 ds
  if least ≤ n ∧ n ≤ greatest then some (n, rest) else none

def expect (c : Char) : Text → Option Text
  | d :: rest => if d = c then some rest else none
  | [] => none

def isLeap (year : Nat) : Bool := year % 4 = 0 && (year % 100 ≠ 0 || year % 400 = 0)

def daysOf (year month : Nat) : Nat :=
  if month = 2 then (if isLeap year then 29 else 28)
  else if month = 4 ∨ month = 6 ∨ month = 9 ∨ month = 11 then 30
  else 31

/-- A number with zeros in front, up to a width. -/
def padded (width n : Nat) : Text :=
  let ds := Text.ofNat n
  List.replicate (width - ds.length) '0' ++ ds

/-- A date, in canonical form. -/
def date : Reader Text := fun t => do
  let (year, t) ← bounded 4 0 9999 t
  let (month, t) ← bounded 2 1 12 (← expect '-' t)
  let (day, t) ← bounded 2 1 (daysOf year month) (← expect '-' t)
  return (padded 4 year ++ '-' :: (padded 2 month ++ '-' :: padded 2 day), t)

/-- The canonical form of the digits of a fraction of a second. -/
def fractionText (ds : Text) : Text :=
  let kept := ((ds.take 9).reverse.dropWhile (· = '0')).reverse
  if kept = [] then [] else '.' :: kept

/-- The decimal digits in front of a text. -/
def plainDigits (t : Text) : Text × Text := t.span (isDigitIn 10)

def time : Reader Text := fun t => do
  let (hour, t) ← bounded 2 0 23 t
  let (minute, t) ← bounded 2 0 59 (← expect ':' t)
  let (second, t) ← bounded 2 0 60 (← expect ':' t)
  let clock := padded 2 hour ++ ':' :: (padded 2 minute ++ ':' :: padded 2 second)
  match t with
  | '.' :: rest =>
      let (ds, rest) := plainDigits rest
      if ds = [] then none else some (clock ++ fractionText ds, rest)
  | t => some (clock, t)

/-- The offset of a time, in canonical form; no offset reads as nothing. -/
def offset : Reader Text
  | 'Z' :: rest => some (['Z'], rest)
  | 'z' :: rest => some (['Z'], rest)
  | c :: rest =>
      if c = '+' ∨ c = '-' then do
        let (hour, t) ← bounded 2 0 23 rest
        let (minute, t) ← bounded 2 0 59 (← expect ':' t)
        let mark := if hour = 0 ∧ minute = 0 then '+' else c
        return (mark :: (padded 2 hour ++ ':' :: padded 2 minute), t)
      else some ([], c :: rest)
  | [] => some ([], [])

/-- What stands between a date and a time. -/
def atTime (t : Text) : Option Text :=
  match t with
  | 'T' :: rest => some rest
  | 't' :: rest => some rest
  | ' ' :: c :: rest => if isDigitIn 10 c then some (c :: rest) else none
  | _ => none

def datetime : Reader Value := fun t =>
  match fixedDigits 4 t with
  | some (_, '-' :: _) => do
      let (day, rest) ← date t
      match atTime rest with
      | none => return (.datetime day, rest)
      | some rest =>
          let (clock, rest) ← time rest
          let (zone, rest) ← offset rest
          return (.datetime (day ++ 'T' :: (clock ++ zone)), rest)
  | _ => do
      let (clock, rest) ← time t
      return (.datetime clock, rest)

/-- Whether a text starts with a date or a time and not with a number. -/
def startsDatetime (t : Text) : Bool :=
  (match fixedDigits 4 t with
    | some (_, '-' :: _) => true
    | _ => false) ||
  match fixedDigits 2 t with
  | some (_, ':' :: _) => true
  | _ => false

def scalar : Reader Value := fun t => if startsDatetime t then datetime t else number t

end Toml
end TypedRoutes
