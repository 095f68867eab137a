/-!
# What a double stands for

A double is not a number, an infinity, or a whole number of powers of two. Rounding down and
the step from whole numbers to doubles are exact here, and say when they have no answer.
-/

namespace RomanCalc.Number

/-- A power of two. -/
def twoTo (n : Nat) : Nat :=
  Nat.pow 2 n

/-- The value of a double. -/
inductive Binary64
  /-- Not a number. -/
  | nan
  /-- One of the two infinities. -/
  | infinite (negative : Bool)
  /-- The number `± significand · 2 ^ exponent`, with a sign also for zero. -/
  | finite (negative : Bool) (significand : Nat) (exponent : Int)
deriving DecidableEq

/-- The least significand of a double that is not subnormal, the fifty-third bit. -/
def leadingBit : Nat := twoTo 52

/-- Reads the value of a double off its bits. -/
def Binary64.ofFloat (x : Float) : Binary64 :=
  let bits := x.toBits.toNat
  let negative := decide (twoTo 63 ≤ bits)
  let power : Nat := bits / leadingBit % twoTo 11
  let fraction := bits % leadingBit
  if power = 2047 then
    if fraction = 0 then .infinite negative else .nan
  else if power = 0 then .finite negative fraction (-1074)
  else .finite negative (leadingBit + fraction) ((power : Int) - 1075)

/-- Why a double has no whole part. -/
inductive NotFinite
  | nan
  | infinite
deriving DecidableEq

/-- What is reported when the whole part of such a double is asked for. -/
def NotFinite.message : NotFinite → String
  | .nan => "cannot convert float NaN to integer"
  | .infinite => "cannot convert float infinity to integer"

/-- The whole number `± significand`. -/
def signed (negative : Bool) (significand : Nat) : Int :=
  if negative then -(significand : Int) else significand

/-- The greatest whole number not above `± significand · 2 ^ exponent`. -/
def scaledFloor (negative : Bool) (significand : Nat) (exponent : Int) : Int :=
  if 0 ≤ exponent then signed negative significand * (twoTo exponent.toNat : Int)
  else signed negative significand / (twoTo (-exponent).toNat : Int)

/-- The greatest whole number not above a finite double, and zero for any other. -/
def wholePart (x : Float) : Int :=
  match Binary64.ofFloat x with
  | .finite negative significand exponent => scaledFloor negative significand exponent
  | _ => 0

/-- The greatest whole number not above a double. -/
def floor (x : Float) : Except NotFinite Int :=
  match Binary64.ofFloat x with
  | .nan => .error .nan
  | .infinite _ => .error .infinite
  | .finite .. => .ok (wholePart x)

/-- The nearest whole number to a double, where a half goes up. -/
def roundHalfUp (x : Float) : Except NotFinite Int :=
  floor (x + 0.5)

/-- The double nearest to a whole number, unless the number lies beyond all doubles. -/
def ofInt? (n : Int) : Option Float :=
  let x := Float.ofInt n
  if x.isFinite then some x else none

end RomanCalc.Number
