namespace TypedRoutes

/-!
# Double precision numbers

A finite double is a sign, a mantissa below 2⁵³ and an exponent of two.  `Binary64.ofDecimal` gives
the double nearest to a decimal, a tie going to the even mantissa.  All arithmetic is exact and on
natural numbers.
-/

inductive Binary64 where
  | nan
  | infinite (negative : Bool)
  /-- The number `± mantissa · 2 ^ exponent`. -/
  | finite (negative : Bool) (mantissa : Nat) (exponent : Int)
deriving DecidableEq, Repr

namespace Binary64

/-- The least exponent of two. -/
def minExponent : Int := -1074

/-- The greatest exponent of two. -/
def maxExponent : Int := 971

def precision : Nat := 53

def twoTo (k : Nat) : Nat := Nat.pow 2 k

def tenTo (k : Nat) : Nat := Nat.pow 10 k

/-- A quotient of natural numbers rounded to the nearest one, a tie going to the even. -/
def roundedQuotient (num den : Nat) : Nat :=
  let q := num / den
  let twice := 2 * (num % den)
  if twice < den then q
  else if den < twice then q + 1
  else if q % 2 = 0 then q else q + 1

/-- The quotient `num / den` in units of `2 ^ exponent`, as a quotient of natural numbers. -/
def scaled (num den : Nat) (exponent : Int) : Nat × Nat :=
  if 0 ≤ exponent then (num, den * twoTo exponent.toNat) else (num * twoTo (-exponent).toNat, den)

/-- The exponent at which a positive quotient has a mantissa of full width, or the least one. -/
def exponentOf (num den : Nat) : Int :=
  let guess : Int := (Nat.log2 num : Int) - (Nat.log2 den : Int) - (precision : Int) + 1
  let (n, d) := scaled num den guess
  let exact := if n < d * twoTo (precision - 1) then guess - 1 else guess
  max exact minExponent

/-- The double nearest to a quotient of natural numbers with a sign. -/
def ofQuotient (negative : Bool) (num den : Nat) : Binary64 :=
  if num = 0 then .finite negative 0 minExponent
  else
    let exponent := exponentOf num den
    let (n, d) := scaled num den exponent
    let mantissa := roundedQuotient n d
    let (mantissa, exponent) :=
      if mantissa = twoTo precision then (twoTo (precision - 1), exponent + 1) else (mantissa, exponent)
    if maxExponent < exponent then .infinite negative else .finite negative mantissa exponent

/-- The double nearest to `± digits · 10 ^ exponent`.  Exponents far outside the range of doubles are
decided by the size of the number alone. -/
def ofDecimal (negative : Bool) (digits : Nat) (exponent : Int) : Binary64 :=
  let size := exponent + ((Nat.toDigits 10 digits).length : Int)
  if digits = 0 then .finite negative 0 minExponent
  else if 400 < size then .infinite negative
  else if size < -400 then .finite negative 0 minExponent
  else if 0 ≤ exponent then ofQuotient negative (digits * tenTo exponent.toNat) 1
  else ofQuotient negative digits (tenTo (-exponent).toNat)

end Binary64
end TypedRoutes
