import Calculator.Number
import Calculator.Text

namespace Calculator

/-- A whole number of units, each a power of ten. -/
structure Decimal where
  coefficient : Nat
  exponent : Int
deriving DecidableEq

/-- A text without the zeros at its end. -/
def dropTrailingZeros (t : Text) : Text := (t.reverse.dropWhile (· == '0')).reverse

namespace Decimal

/-- A decimal is the quotient of its numerator and denominator, one of which has no power of ten. -/
def numerator (d : Decimal) : Nat := d.coefficient * 10 ^ d.exponent.toNat

/-- The power of ten that a decimal with places after the point is divided by. -/
def denominator (d : Decimal) : Nat := 10 ^ (-d.exponent).toNat

/-- The code of the magnitude nearest to a decimal. -/
def code (f : Format) (d : Decimal) : Nat := f.nearest (d.numerator * 2 ^ f.places) d.denominator

/-- The digits before the point, with no superfluous zero. -/
def wholeDigits (d : Decimal) : Text := Nat.toDigits 10 (d.numerator / d.denominator)

/-- The digits after the point, up to the last that is not zero. -/
def placeDigits (d : Decimal) : Text :=
  dropTrailingZeros <|
    (Nat.toDigits 10 (d.numerator % d.denominator)).leftpad (-d.exponent).toNat '0'

/-- All digits in their places and a point only where digits follow it: `5`, `2.5`, `0.001`. -/
def positional (d : Decimal) : Text :=
  if d.placeDigits = [] then d.wholeDigits else d.wholeDigits ++ '.' :: d.placeDigits

/-- The positional form with at least one digit after the point: `5.0`. -/
def pointed (d : Decimal) : Text :=
  if d.placeDigits = [] then d.wholeDigits ++ ".0".toList else d.wholeDigits ++ '.' :: d.placeDigits

/-- One digit before the point and the power of ten after a letter: `1.25e20`, `3e-7`. -/
def scientific (d : Decimal) : Text :=
  let digits := Nat.toDigits 10 d.coefficient
  let exponent := d.exponent + ((digits.length : Int) - 1)
  let tail := dropTrailingZeros (digits.drop 1)
  digits.take 1 ++ (if tail = [] then [] else '.' :: tail) ++ 'e' ::
    (if exponent < 0 then '-' :: Nat.toDigits 10 exponent.natAbs else Nat.toDigits 10 exponent.natAbs)

end Decimal

namespace Format

/-- The magnitude of a code as a decimal with no rounding: a step is `5 ^ places` units of `10 ^ -places`. -/
def exactDecimal (f : Format) (code : Nat) : Decimal := ⟨f.steps code * 5 ^ f.places, -f.places⟩

/-- The multiple of a power of ten that reads back as a code, if one of the two around its magnitude does.
When both do the nearer is taken, and the upper one if neither is nearer. -/
def onGrid? (f : Format) (code : Nat) (exponent : Int) : Option Decimal :=
  let numerator := f.steps code * 10 ^ (-exponent).toNat
  let denominator := 2 ^ f.places * 10 ^ exponent.toNat
  let low : Decimal := ⟨numerator / denominator, exponent⟩
  let high : Decimal := ⟨numerator / denominator + 1, exponent⟩
  if low.code f = code then
    if high.code f = code ∧ denominator ≤ 2 * (numerator % denominator) then some high else some low
  else if high.code f = code then some high else none

/-- The coarsest power of ten worth trying for a magnitude: its first digit stands there, or one place below. -/
def coarsest (f : Format) (code : Nat) : Int :=
  let numerator := f.steps code
  let denominator := 2 ^ f.places
  if denominator ≤ numerator then ((Nat.toDigits 10 (numerator / denominator)).length : Int) - 1
  else 1 - ((Nat.toDigits 10 (denominator / numerator)).length : Int)

/-- The decimal with the fewest digits that reads back as a code, and the nearest of those. A grid of powers of
ten is tried after the next coarser one. A format needs fewer digits than it has bits, so the exact decimal is a
last resort that keeps the function total. -/
def shortest (f : Format) (code : Nat) : Decimal :=
  if code = 0 then ⟨0, 0⟩
  else
    ((List.range (f.fractionBits + 3)).findSome? fun (i : Nat) => f.onGrid? code (f.coarsest code - i)).getD
      (f.exactDecimal code)

end Format

end Calculator
