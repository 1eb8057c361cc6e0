import Casebook.Decimal.Double
import Casebook.Text.Basic

/-! # Shortest decimals

    The decimal that is written for a positive double is the one with the fewest
    digits among those that are read back as the same double; of several it is
    the nearest, and of two equally near the one with an even last digit.

    The numbers that are read back as a double lie between the midpoints to its
    neighbours; the midpoints count when the mantissa is even.
-/

namespace Casebook.Decimal

/-- The decimal `digits * 10 ^ exponent`. -/
structure Digits where
  digits : Nat
  exponent : Int
  deriving DecidableEq, Repr

/-- Compares a decimal with a number of quarters of the double's last place. -/
def compareQuarters (d : Digits) (quarters : Nat) (exponent : Int) : Ordering :=
  compare (d.digits * Nat.pow 10 d.exponent.toNat * Nat.pow 2 (2 - exponent).toNat)
    (quarters * Nat.pow 2 (exponent - 2).toNat * Nat.pow 10 (-d.exponent).toNat)

namespace Double

/-- The lower end of the numbers that are read back as the double, in quarters
    of its last place.  Below a power of two the neighbours are half as far. -/
def lowerEnd (x : Double) : Nat :=
  if x.mantissa = Nat.pow 2 52 ∧ lowestExponent < x.exponent then 4 * x.mantissa - 1
  else 4 * x.mantissa - 2

/-- The upper end of the numbers that are read back as the double, in quarters
    of its last place. -/
def upperEnd (x : Double) : Nat :=
  4 * x.mantissa + 2

/-- Is the decimal read back as the double? -/
def readsBack (x : Double) (d : Digits) : Bool :=
  let ends := x.mantissa % 2 == 0
  let low := compareQuarters d x.lowerEnd x.exponent
  let high := compareQuarters d x.upperEnd x.exponent
  (low == .gt || ends && low == .eq) && (high == .lt || ends && high == .eq)

/-- The exponent of the leading decimal digit of a positive double. -/
def leadingDigit (x : Double) : Int :=
  if x.den ≤ x.num then ((Text.decimal (x.num / x.den)).length : Int) - 1
  else -((Text.decimal ((x.den + x.num - 1) / x.num - 1)).length : Int)

/-- The neighbour of the double on a decimal grid that is read back as it, the
    nearer one if both are. -/
def onGrid? (x : Double) (exponent : Int) : Option Digits :=
  let num := x.num * Nat.pow 10 (-exponent).toNat
  let den := x.den * Nat.pow 10 exponent.toNat
  let below : Digits := ⟨num / den, exponent⟩
  let above : Digits := ⟨num / den + 1, exponent⟩
  match x.readsBack below, x.readsBack above with
  | true, true => some ⟨roundDiv num den, exponent⟩
  | true, false => some below
  | false, true => some above
  | false, false => none

/-- The exact decimal value of a double. -/
def exactDigits (x : Double) : Digits :=
  if 0 ≤ x.exponent then ⟨x.num, 0⟩
  else ⟨x.mantissa * Nat.pow 5 (-x.exponent).toNat, x.exponent⟩

/-- The shortest decimal that is read back as the double. -/
def shortest (x : Double) : Digits :=
  ((List.range 17).findSome? fun (n : Nat) => x.onGrid? (x.leadingDigit - n)).getD x.exactDigits

end Double

/-! ## Layout -/

/-- How a decimal is laid out: the range of the exponent of its leading digit in
    which it is written positionally. -/
structure Layout where
  lowest : Int
  highest : Int

/-- A number of zeros. -/
def zeros (n : Nat) : Text :=
  List.replicate n '0'

/-- A decimal with its point, given its significant digits and the exponent of
    the leading one.  A whole number keeps one place. -/
def positional (digits : Text) (leading : Int) : Text :=
  if leading < 0 then "0.".toList ++ zeros (-leading - 1).toNat ++ digits
  else
    let whole := leading.toNat + 1
    if digits.length ≤ whole then digits ++ zeros (whole - digits.length) ++ ".0".toList
    else digits.take whole ++ ['.'] ++ digits.drop whole

/-- A decimal with one digit before its point and a signed exponent. -/
def scientific (digits : Text) (leading : Int) : Text :=
  let point : Text := if digits.length ≤ 1 then [] else ['.']
  let sign : Char := if leading < 0 then '-' else '+'
  digits.take 1 ++ point ++ digits.drop 1 ++ ['e', sign] ++ Text.decimal leading.natAbs

/-- The text of a double. -/
def Layout.write (layout : Layout) (x : Double) : Text :=
  if x.isZero then "0.0".toList
  else
    let d := x.shortest
    let written := Text.decimal d.digits
    let leading := d.exponent + written.length - 1
    let digits := (written.reverse.dropWhile (· == '0')).reverse
    if layout.lowest ≤ leading ∧ leading ≤ layout.highest then positional digits leading
    else scientific digits leading

end Casebook.Decimal
