import RomanCalc.Text.DecimalDigit

/-!
# Decimal numbers

A signed whole number of powers of ten: what is read from text before it becomes a double, and
what a double becomes before it is written.
-/

namespace RomanCalc.Number

/-- The number `± coefficient · 10 ^ exponent`. -/
structure Decimal where
  /-- Whether the number is written with a minus sign. -/
  negative : Bool
  /-- The digits, as one whole number. -/
  coefficient : Nat
  /-- The power of ten of the last digit. -/
  exponent : Int
deriving DecidableEq

/-- A power of ten. -/
def tenTo (n : Nat) : Nat :=
  Nat.pow 10 n

/-- How many decimal digits a whole number has. -/
def digitCount (n : Nat) : Nat :=
  (Nat.toDigits 10 n).length

/-- The power of ten of the first digit. -/
def Decimal.leading (d : Decimal) : Int :=
  d.exponent + digitCount d.coefficient - 1

/-- Positive infinity. -/
def infinity : Float := 1.0 / 0.0

/-- The nearest double to the magnitude. Beyond the powers of ten that doubles reach, the result
is infinity or zero. -/
def Decimal.magnitude (d : Decimal) : Float :=
  if d.coefficient = 0 ∨ d.leading < -400 then 0.0
  else if 400 < d.leading then infinity
  else Float.ofScientific d.coefficient (decide (d.exponent < 0)) d.exponent.natAbs

/-- The nearest double. -/
def Decimal.toFloat (d : Decimal) : Float :=
  if d.negative then -d.magnitude else d.magnitude

/-- The digits of the coefficient without the zeros at its end; zero keeps one digit. -/
def Decimal.digits (d : Decimal) : List Char :=
  if d.coefficient = 0 then ['0']
  else ((Nat.toDigits 10 d.coefficient).reverse.dropWhile (· = '0')).reverse

end RomanCalc.Number
