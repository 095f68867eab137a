import RomanCalc.Datum
import RomanCalc.Expression.Operation
import RomanCalc.Keypad.Display

/-!
# Tokens

An expression in decimal digits as a row of numbers and operators. A minus sign belongs to the
number behind it where the expression starts or an operator stands before it.
-/

namespace RomanCalc.Expression

/-- A number or an operator. The text of an operator is whatever stands in its place. -/
inductive Token
  | number (value : Float)
  | operator (symbol : List Char)

/-- The value of a literal. -/
def readLiteral (text : List Char) : Except Fault Float :=
  match Number.literal? text with
  | some d =>
    let value := d.toFloat
    if value.isFinite then .ok value else .error (.literalOutOfRange text)
  | none => .error (.invalidNumber text)

/-- The token of a literal that is being read, if there is one. -/
def closeLiteral (literal : List Char) : Except Fault (List Token) :=
  if literal.isEmpty then .ok [] else (readLiteral literal).map fun value => [.number value]

/-- Reads the rest of an expression while a literal is being read. The flag tells whether a minus
sign would belong to a number. -/
def tokensFrom (literal : List Char) (atOperand : Bool) :
    List Char → Except Fault (List Token)
  | [] => closeLiteral literal
  | c :: rest =>
    if Text.isBlank c then tokensFrom literal atOperand rest
    else if Keypad.isNumberChar c then tokensFrom (literal ++ [c]) false rest
    else if isOperatorChar c then
      if c = '-' ∧ atOperand = true then tokensFrom (literal ++ [c]) true rest
      else do
        let before ← closeLiteral literal
        let after ← tokensFrom [] true rest
        pure (before ++ .operator [c] :: after)
    else .error (.unexpectedCharacter c)

/-- The tokens of an expression. -/
def tokens (text : List Char) : Except Fault (List Token) :=
  tokensFrom [] true text

end RomanCalc.Expression
