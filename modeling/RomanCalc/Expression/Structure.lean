import RomanCalc.Datum
import RomanCalc.Failure

/-!
# The structure of an expression

What can be said of an expression before its tokens are read: that it is a text, not too long
and not empty, and where its operators may stand.
-/

namespace RomanCalc.Expression

/-- The text of an expression whose length is within the limit. -/
def textWithin (limit : Int) : Datum → Except Fault (List Char)
  | .text s => if limit < s.length then .error (.tooLong limit) else .ok s
  | _ => .error .notText

/-- Whether two operators are neighbours. -/
def hasAdjacentOperators : List Char → Bool
  | [] => false
  | c :: rest =>
    (isOperatorChar c && rest.head?.any isOperatorChar) || hasAdjacentOperators rest

/-- Whether a character is an operator that cannot start an expression. -/
def isLeadingFault (c : Char) : Bool :=
  isOperatorChar c && c ≠ '-'

/-- An expression without its blanks, if its operators are well placed. -/
def checkStructure (limit : Int) (expression : Datum) : Except Fault (List Char) := do
  let text ← textWithin limit expression
  let clean := Text.removeBlanks text
  if clean.isEmpty then throw .emptyExpression
  else if clean.getLast?.any isOperatorChar then throw .endsWithOperator
  else if clean.head?.any isLeadingFault then throw .startsWithOperator
  else if hasAdjacentOperators clean then throw .consecutiveOperators
  else pure clean

end RomanCalc.Expression
