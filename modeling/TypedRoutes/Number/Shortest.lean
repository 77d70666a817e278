import TypedRoutes.Number.Binary64
import TypedRoutes.Text.Basic

namespace TypedRoutes

/-!
# Shortest decimals

A double is shown by the fewest decimal digits that read back as the same double, and among those by
the digits nearest to it, a tie going up.  The notation is always positional: whole numbers have no point, and no
exponent is written.
-/

namespace Binary64

/-- The reals that round to a positive double, in units of `2 ^ (exponent - 2)`: the lower end, the
double itself and the upper end.  The gap below a power of two is half as wide. -/
def neighbourhood (mantissa : Nat) (exponent : Int) : Nat × Nat × Nat :=
  let below := if mantissa = twoTo (precision - 1) ∧ exponent ≠ minExponent then 1 else 2
  (4 * mantissa - below, 4 * mantissa, 4 * mantissa + 2)

/-- Whether `a · 10 ^ p` is less than `b · 2 ^ q`. -/
def decimalLt (a : Nat) (p : Int) (b : Nat) (q : Int) : Bool :=
  a * tenTo p.toNat * twoTo (-q).toNat < b * twoTo q.toNat * tenTo (-p).toNat

/-- Whether `b · 2 ^ q` is less than `a · 10 ^ p`. -/
def ltDecimal (a : Nat) (p : Int) (b : Nat) (q : Int) : Bool :=
  b * twoTo q.toNat * tenTo (-p).toNat < a * tenTo p.toNat * twoTo (-q).toNat

/-- Whether `a · 10 ^ p` rounds to a positive double.  The ends belong to it when the mantissa is
even. -/
def rounds (mantissa : Nat) (exponent : Int) (a : Nat) (p : Int) : Bool :=
  let (low, _, high) := neighbourhood mantissa exponent
  let q := exponent - 2
  if mantissa % 2 = 0 then !decimalLt a p low q && !ltDecimal a p high q
  else ltDecimal a p low q && decimalLt a p high q

/-- The greatest number of steps of `10 ^ p` that does not exceed a positive double. -/
def floorAt (mantissa : Nat) (exponent p : Int) : Nat :=
  (mantissa * twoTo exponent.toNat * tenTo (-p).toNat)
    / (twoTo (-exponent).toNat * tenTo p.toNat)

/-- Whether a double lies nearer to `a` than to `a + 1` steps of `10 ^ p`. -/
def nearerBelow (mantissa : Nat) (exponent : Int) (a : Nat) (p : Int) : Bool :=
  ltDecimal (2 * a + 1) p (2 * mantissa) exponent

/-- The decimal with steps of `10 ^ p` that rounds to a positive double and is nearest to it; half way
between two it is the greater one. -/
def onGrid? (mantissa : Nat) (exponent p : Int) : Option (Nat × Int) :=
  let below := floorAt mantissa exponent p
  let above := below + 1
  match rounds mantissa exponent below p, rounds mantissa exponent above p with
  | true, true => some (if nearerBelow mantissa exponent below p then below else above, p)
  | true, false => some (below, p)
  | false, true => some (above, p)
  | false, false => none

/-- The first decimal that rounds to a positive double on finer and finer grids. -/
def search (mantissa : Nat) (exponent : Int) : Nat → Int → Nat × Int
  | 0, p => (floorAt mantissa exponent p, p)
  | steps + 1, p =>
      match onGrid? mantissa exponent p with
      | some decimal => decimal
      | none => search mantissa exponent steps (p - 1)

/-- A power of ten above every double. -/
def topGrid : Int := 309

/-- The shortest decimal of a positive double: its digits and the exponent of ten. -/
def shortest (mantissa : Nat) (exponent : Int) : Nat × Int :=
  search mantissa exponent 700 topGrid

/-- Digits with an exponent of ten, written out. -/
def positional (digits : Text) (exponent : Int) : Text :=
  if 0 ≤ exponent then digits ++ List.replicate exponent.toNat '0'
  else
    let places := (-exponent).toNat
    if places < digits.length then
      digits.take (digits.length - places) ++ '.' :: digits.drop (digits.length - places)
    else '0' :: '.' :: (List.replicate (places - digits.length) '0' ++ digits)

def text : Binary64 → Text
  | .nan => "NaN"
  | .infinite negative => if negative then "-inf" else "inf"
  | .finite negative mantissa exponent =>
      let size : Text :=
        if mantissa = 0 then ['0']
        else
          let (digits, p) := shortest mantissa exponent
          positional (Text.ofNat digits) p
      if negative then '-' :: size else size

end Binary64
end TypedRoutes
