import RomanCalc.Expression.Strategy

/-!
# A value or nothing

The forms of evaluation for callers who only want to know the value, or whether there is one. A
fault counts as no value, and so does an absent expression.
-/

namespace RomanCalc.Expression

/-- Whether a datum counts as no expression at all: nothing, an empty text or list, or a zero. -/
def isVacant : Datum → Bool
  | .absent => true
  | .truth b => !b
  | .integer n => n = 0
  | .real x => x == 0.0
  | .text s => s.isEmpty
  | .list items => items.isEmpty

/-- An expression that is not absent. -/
def present? : Datum → Option Datum
  | .absent => none
  | d => some d

/-- The value by precedence. -/
def value? (limit : Int) (expression : Datum) : Option Float :=
  (present? expression).bind fun e => (Strategy.precedence.evaluate limit e).toOption

/-- The two operands and the operator. -/
def split? (limit : Int) (expression : Datum) : Option Binary :=
  (present? expression).bind fun e => (split limit e).toOption

/-- The value of a split expression, if it was split. -/
def binaryValue? (binary : Option Binary) : Option Float :=
  binary.bind fun parts => parts.value.toOption

/-- A split expression together with its value. -/
def calculate? (limit : Int) (expression : Datum) : Option Binary :=
  (split? limit expression).bind fun parts =>
    parts.value.toOption.map fun value => { parts with result := some value }

/-- Whether an expression has a value under the strategy that is asked for. -/
def isValid (settings : Settings) (expression : Datum) (strategy : Option (List Char)) :
    Except Failure Bool :=
  if isVacant expression then .ok false
  else
    (Strategy.choose settings strategy).map fun chosen =>
      (chosen.evaluate settings.maxInputLength expression).isOk

end RomanCalc.Expression
