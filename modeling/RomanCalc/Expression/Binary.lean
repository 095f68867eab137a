import RomanCalc.Expression.Structure
import RomanCalc.Expression.Token

/-!
# Expressions with one operator

An expression is split at its last operator into two operands. A minus sign at the very start is
no operator.
-/

namespace RomanCalc.Expression

/-- Two operands and the operator between them, with the text they were read from. -/
structure Binary where
  left : Float
  symbol : List Char
  right : Float
  text : List Char
  /-- The value, once it has been found. -/
  result : Option Float

/-- Cuts a text at its last operator: what stands before it, the operator, and what stands behind
it. An operator at the very start is passed over. -/
def cutAtLastOperator? (text : List Char) : Option (List Char × Char × List Char) :=
  let behind := (text.reverse.takeWhile fun c => !isOperatorChar c).reverse
  match text.reverse.dropWhile fun c => !isOperatorChar c with
  | c :: d :: before => some ((d :: before).reverse, c, behind)
  | _ => none

/-- Splits an expression with blanks collapsed. -/
def splitText (clean : List Char) : Except Fault Binary :=
  match cutAtLastOperator? clean with
  | none => .error .noOperator
  | some (before, operator, behind) =>
    let left := Text.trim before
    let right := Text.trim behind
    if left.isEmpty ∨ right.isEmpty then .error .missingOperand
    else do
      let a ← readLiteral left
      let b ← readLiteral right
      pure ⟨a, [operator], b, clean, none⟩

/-- Splits an expression. -/
def split (limit : Int) (expression : Datum) : Except Fault Binary := do
  let text ← textWithin limit expression
  let clean := Text.collapse text
  if clean.isEmpty then throw .emptyExpression
  else splitText clean

/-- The value of a split expression. -/
def Binary.value (binary : Binary) : Except Fault Float :=
  apply binary.left binary.symbol binary.right

end RomanCalc.Expression
