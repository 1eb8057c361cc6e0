/-! # Double precision

    A double is a natural number of at most 53 bits times a power of two.  Only
    the finite ones that are not negative are needed here; a sign is kept by
    whoever has one.  Quotients of natural numbers are rounded to the nearest
    double, and to the even one of two that are equally near.
-/

namespace Casebook.Decimal

/-- The double `mantissa * 2 ^ exponent`. -/
structure Double where
  mantissa : Nat
  exponent : Int
  deriving DecidableEq, Repr

/-- A quotient rounded to the nearest natural number, halves to the even one. -/
def roundDiv (num den : Nat) : Nat :=
  let floor := num / den
  let twice := 2 * (num % den)
  if twice < den then floor
  else if den < twice then floor + 1
  else if floor % 2 = 0 then floor
  else floor + 1

namespace Double

/-- The exponent of the smallest doubles. -/
def lowestExponent : Int := -1074

/-- The exponent of the largest doubles. -/
def highestExponent : Int := 971

/-- The numerator of a double as a fraction. -/
def num (x : Double) : Nat :=
  x.mantissa * Nat.pow 2 x.exponent.toNat

/-- The denominator of a double as a fraction. -/
def den (x : Double) : Nat :=
  Nat.pow 2 (-x.exponent).toNat

/-- Is the double zero? -/
def isZero (x : Double) : Bool :=
  x.mantissa == 0

/-- The exponent of the leading bit of a positive quotient. -/
def leadingBit (num den : Nat) : Int :=
  let guess : Int := (num.log2 : Int) - (den.log2 : Int)
  if num * Nat.pow 2 (-guess).toNat < den * Nat.pow 2 guess.toNat then guess - 1 else guess

/-- The double nearest to a quotient, unless it is beyond the largest one. -/
def round? (num den : Nat) : Option Double :=
  if num = 0 then some ⟨0, lowestExponent⟩
  else
    let exponent := max (leadingBit num den - 52) lowestExponent
    let mantissa := roundDiv (num * Nat.pow 2 (-exponent).toNat) (den * Nat.pow 2 exponent.toNat)
    let rounded : Double :=
      if mantissa = Nat.pow 2 53 then ⟨Nat.pow 2 52, exponent + 1⟩ else ⟨mantissa, exponent⟩
    if highestExponent < rounded.exponent then none else some rounded

/-- The product, rounded. -/
def mul? (x y : Double) : Option Double :=
  round? (x.num * y.num) (x.den * y.den)

/-- The quotient, rounded. -/
def div? (x y : Double) : Option Double :=
  round? (x.num * y.den) (x.den * y.num)

end Double

end Casebook.Decimal
