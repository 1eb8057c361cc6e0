import Casebook.Decimal.Shortest
import Casebook.Json.Reader

/-! # Numbers of JSON documents

    No reader of this library expects a number, so a number is only skipped
    (`skipNumber`) or shown in a report (`readNumber`).

    A number that is shown is an integer as long as it fits in 64 bits, and a
    double otherwise.  The double is worked out from the leading digits that fit
    in 64 bits and a power of ten, with one rounding for each; zero with a minus
    sign is a double as well.
-/

namespace Casebook.Json

open Casebook.Decimal (Double Layout)

/-! ## Scanning -/

/-- The parts of a number as it is written. -/
structure Numeral where
  negative : Bool
  /-- the digits before the point -/
  whole : Text
  /-- the digits after the point -/
  fraction : Text := []
  /-- the sign and the digits behind the `e` -/
  exponent : Option (Bool × Text) := none
  deriving DecidableEq, Repr

/-- The digits at the front. -/
def digits (text : Text) : Text :=
  text.takeWhile Char.isDigit

/-- What follows the digits at the front. -/
def afterDigits (text : Text) : Text :=
  text.dropWhile Char.isDigit

/-- Reads the digits before the point.  There is at least one, and a zero stands
    alone.  `cut` is the problem of a number that the document cuts off. -/
def readWhole (cut : Problem) : Reader Text := fun text =>
  match text with
  | [] => stopAt cut []
  | c :: rest =>
    if c = '0' then
      match rest with
      | [] => .ok ([c], [])
      | d :: rest => if d.isDigit then stopPast .invalidNumber (d :: rest) else .ok ([c], d :: rest)
    else if c.isDigit then .ok (digits text, afterDigits text)
    else stopPast .invalidNumber text

/-- Reads the point and the digits behind it, of which there is at least one. -/
def readFraction (cut : Problem) : Reader Text := fun text =>
  match text with
  | [] => .ok ([], [])
  | c :: rest =>
    if c = '.' then
      match rest with
      | [] => stopAt cut []
      | d :: rest =>
        if d.isDigit then .ok (digits (d :: rest), afterDigits (d :: rest))
        else stopPast .invalidNumber (d :: rest)
    else .ok ([], text)

/-- Reads the digits of an exponent, of which there is at least one. -/
def readExponentDigits (cut : Problem) (negative : Bool) : Reader (Option (Bool × Text)) :=
  fun text =>
    match text with
    | [] => stopAt cut []
    | d :: rest =>
      if d.isDigit then .ok (some (negative, digits (d :: rest)), afterDigits (d :: rest))
      else stopPast .invalidNumber (d :: rest)

/-- Reads the exponent, if there is one. -/
def readExponent (cut : Problem) : Reader (Option (Bool × Text)) := fun text =>
  match text with
  | [] => .ok (none, [])
  | c :: rest =>
    if c = 'e' || c = 'E' then
      match rest with
      | [] => stopAt cut []
      | sign :: digits =>
        if sign = '-' then readExponentDigits cut true digits
        else if sign = '+' then readExponentDigits cut false digits
        else readExponentDigits cut false rest
    else .ok (none, text)

/-- Reads a number, from behind its sign. -/
def readUnsigned (cut : Problem) (negative : Bool) : Reader Numeral := fun text => do
  let (whole, rest) ← readWhole cut text
  let (fraction, rest) ← readFraction cut rest
  let (exponent, rest) ← readExponent cut rest
  .ok ({ negative, whole, fraction, exponent }, rest)

/-- Reads a number with its sign. -/
def readNumeral (cut : Problem) : Reader Numeral := fun text =>
  match text with
  | [] => stopAt cut []
  | c :: rest => if c = '-' then readUnsigned cut true rest else readUnsigned cut false text

/-- Skips a number.  It may be of any size. -/
def skipNumber (text : Text) : Except Stop Text :=
  (readNumeral .invalidNumber text).map Prod.snd

/-! ## The value of a number -/

/-- Takes digits into a number as long as it fits in 64 bits, and gives those
    that do not fit. -/
def takeDigits : Nat → Text → Nat × Text
  | n, [] => (n, [])
  | n, d :: rest =>
    let longer := n * 10 + (d.toNat - '0'.toNat)
    if longer < Nat.pow 2 64 then takeDigits longer rest else (n, d :: rest)

/-- The leading digits of a number that fit in 64 bits, and the power of ten
    that they are to be multiplied by, exponent apart. -/
def Numeral.leading (numeral : Numeral) : Nat × Int :=
  let (significand, surplus) := takeDigits 0 numeral.whole
  let (significand, dropped) := takeDigits significand numeral.fraction
  let taken := numeral.fraction.length - dropped.length
  (significand, (surplus.length : Int) - (taken : Int))

/-- Takes the digits of an exponent as long as it fits in 31 bits; stops behind
    the digit that does not fit. -/
def takeExponent : Nat → Text → Nat × Option Text
  | n, [] => (n, none)
  | n, d :: rest =>
    let longer := n * 10 + (d.toNat - '0'.toNat)
    if longer < Nat.pow 2 31 then takeExponent longer rest else (n, some rest)

/-- The largest power of ten that is a double. -/
def highestPower : Nat := 308

/-- The double nearest to a power of ten. -/
def power? (exponent : Nat) : Option Double :=
  Double.round? (Nat.pow 10 exponent) 1

/-- A double divided by powers of ten, the largest first, until the rest of the
    exponent has one of its own.  A zero stays. -/
def scaleDown (x : Double) (exponent : Nat) : Option Double :=
  if _h : highestPower < exponent then
    if x.isZero then some x
    else do
      let y ← x.div? (← power? highestPower)
      scaleDown y (exponent - highestPower)
  else do x.div? (← power? exponent)
termination_by exponent
decreasing_by
  simp only [highestPower] at *
  omega

/-- A double times a power of ten, if that is within the doubles. -/
def scaleUp (x : Double) (exponent : Nat) : Option Double :=
  if highestPower < exponent then
    if x.isZero then some x else none
  else do x.mul? (← power? exponent)

/-- The double that leading digits and a power of ten make. -/
def scale? (significand : Nat) (exponent : Int) : Option Double := do
  let x ← Double.round? significand 1
  if exponent < 0 then scaleDown x exponent.natAbs else scaleUp x exponent.toNat

/-! ## Showing a number -/

/-- Doubles are written positionally from `1e-5` up to `1e16`. -/
def layout : Layout where
  lowest := -5
  highest := 15

/-- A double with its sign, as it is shown. -/
def shownDouble (negative : Bool) (x : Double) : Found :=
  .floatingPoint ((if negative then ['-'] else []) ++ layout.write x)

/-- A double with its sign, unless it is out of range. -/
def foundDouble (negative : Bool) (x : Option Double) (rest : Text) :
    Except Stop (Found × Text) :=
  match x with
  | some x => .ok (shownDouble negative x, rest)
  | none => stopAt .numberOutOfRange rest

/-- A number without point and exponent: an integer, if it fits. -/
def Numeral.foundWhole (numeral : Numeral) (rest : Text) : Except Stop (Found × Text) :=
  let (significand, exponent) := numeral.leading
  if (takeDigits 0 numeral.whole).2.isEmpty then
    if !numeral.negative then .ok (.integer (Text.decimal significand), rest)
    else if 0 < significand ∧ significand ≤ Nat.pow 2 63 then
      .ok (.integer ('-' :: Text.decimal significand), rest)
    else foundDouble true (Double.round? significand 1) rest
  else foundDouble numeral.negative (scale? significand exponent) rest

/-- A number as it is shown. -/
def Numeral.found (numeral : Numeral) (rest : Text) : Except Stop (Found × Text) :=
  match numeral.exponent with
  | none =>
    if numeral.fraction.isEmpty then numeral.foundWhole rest
    else
      let (significand, exponent) := numeral.leading
      foundDouble numeral.negative (scale? significand exponent) rest
  | some (negativeExponent, written) =>
    let (significand, start) := numeral.leading
    match takeExponent 0 written with
    | (_, some untaken) =>
      if significand ≠ 0 ∧ !negativeExponent then stopAt .numberOutOfRange (untaken ++ rest)
      else .ok (shownDouble numeral.negative ⟨0, Double.lowestExponent⟩, rest)
    | (exponent, none) =>
      let exponent : Int := if negativeExponent then start - exponent else start + exponent
      foundDouble numeral.negative (scale? significand exponent) rest

/-- Reads a number and shows it. -/
def readNumber : Reader Found := fun text => do
  let (numeral, rest) ← readNumeral .endInValue text
  numeral.found rest

end Casebook.Json
