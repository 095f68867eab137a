import RomanCalc.Number.Decimal

/-!
# Number literals

The numbers of an expression: digits with an optional point, which may stand at either end but
not alone, and possibly a minus sign in front. Digits of every script count.
-/

namespace RomanCalc.Number

/-- Reads digits with an optional point. -/
def unsignedLiteral? (text : List Char) : Option Decimal :=
  let whole := text.takeWhile Text.isDecimalDigit
  match text.dropWhile Text.isDecimalDigit with
  | [] => if whole.isEmpty then none else some ⟨false, Text.digitsValue whole, 0⟩
  | c :: places =>
    if c = '.' ∧ places.all Text.isDecimalDigit ∧ ¬(whole.isEmpty ∧ places.isEmpty) then
      some ⟨false, Text.digitsValue (whole ++ places), -(places.length : Int)⟩
    else
      none

/-- Reads a literal with an optional minus sign. -/
def literal? : List Char → Option Decimal
  | '-' :: rest => (unsignedLiteral? rest).map fun d => { d with negative := true }
  | text => unsignedLiteral? text

end RomanCalc.Number
