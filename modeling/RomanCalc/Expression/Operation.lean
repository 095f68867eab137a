import RomanCalc.Datum
import RomanCalc.Failure

/-!
# Applying operators

An operator applied to two doubles either has a finite value or a fault says why not (`apply`).
For operands of any kind there is also a form that answers with nothing in place of most faults
(`perform`).
-/

namespace RomanCalc

/-- Applies an operator to two doubles. -/
def Operator.apply (op : Operator) (left right : Float) : Except Fault Float :=
  match op.combine left right with
  | .ok (some result) => if result.isFinite then .ok result else .error (.outOfRange left op right)
  | .ok none => .error .divisionByZero
  | .error _ => .error (.noRealValue left op right)

namespace Expression

/-- Applies the operator that a text writes to two doubles. -/
def apply (left : Float) (symbol : List Char) (right : Float) : Except Fault Float :=
  match Operator.ofText? symbol with
  | some op => op.apply left right
  | none => .error (.unknownOperator symbol)

/-- The outcome of the operation that a text writes: nothing for a division by zero. -/
def combine (symbol : List Char) (left right : Float) : Except Failure (Option Float) :=
  match Operator.ofText? symbol with
  | some op => (op.combine left right).mapError .power
  | none => .error (.unlisted symbol)

/-- Whether a text has a blank at an end that pads no number that is read from text. -/
def hasStrangePadding (text : List Char) : Bool :=
  let padding := text.takeWhile Text.isBlank ++ text.reverse.takeWhile Text.isBlank
  padding.any fun c => !Number.isPadding (Number.plainChar c)

/-- An operand as a double. A literal is checked without the blanks around it, but is read with
them, which a few blanks prevent. -/
def operand : Datum → Except Failure (Option Float)
  | .integer n =>
    match Number.ofInt? n with
    | some x => .ok (some x)
    | none => .error .integerTooLarge
  | .real x => .ok (some x)
  | .text s =>
    match Number.literal? (Text.trim s) with
    | some d => if hasStrangePadding s then .error (.unreadable s) else .ok (some d.toFloat)
    | none => .ok none
  | _ => .ok none

/-- The two operands and the operator of a calculation, if all three can be used. -/
def operands (left : Datum) (symbol : List Char) (right : Datum) :
    Except Failure (Option (Float × Operator × Float)) := do
  let a ← operand left
  let b ← operand right
  match a, Operator.ofText? symbol, b with
  | some a, some op, some b => pure (some (a, op, b))
  | _, _, _ => pure none

/-- Applies an operator to operands of any kind. There is no result for operands that are no
numbers, for an unknown operator, and where the operator has no finite value. -/
def perform (left : Datum) (symbol : List Char) (right : Datum) :
    Except Failure (Option Float) :=
  (operands left symbol right).map fun
    | some (a, op, b) =>
      match op.combine a b with
      | .ok (some result) => if result.isFinite then some result else none
      | _ => none
    | none => none

end Expression

end RomanCalc
