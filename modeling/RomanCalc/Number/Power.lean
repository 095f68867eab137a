/-!
# Powers of doubles

The power function of the machine, with its failures on finite operands told apart.
-/

namespace RomanCalc.Number

/-- Why finite operands have no power. -/
inductive PowerError
  /-- The power is not a real number, or the operands are a pole. -/
  | domain
  /-- The power is beyond all doubles. -/
  | range
deriving DecidableEq

/-- What is reported. -/
def PowerError.message : PowerError → String
  | .domain => "math domain error"
  | .range => "math range error"

/-- The power `x` to the `y`. Operands that are not finite always have a power. -/
def power (x y : Float) : Except PowerError Float :=
  let result := Float.pow x y
  if !(x.isFinite && y.isFinite) || result.isFinite then .ok result
  else if result.isNaN || x == 0.0 then .error .domain
  else .error .range

end RomanCalc.Number
