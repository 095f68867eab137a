import RomanCalc.Number.Style
import RomanCalc.Operator
import RomanCalc.Text.Quoted

/-!
# Faults of a calculation

Everything that can be wrong with an expression, a numeral or a result, by its cause. A fault is
of one kind, has a code for programs and a message for people.
-/

namespace RomanCalc

/-- The kinds of fault. -/
inductive FaultKind
  /-- A fault of no particular kind. -/
  | general
  /-- The text of an operand is no number. -/
  | invalidOperand
  | divisionByZero
  | unknownOperator
  /-- The expression is empty or its operators are misplaced. -/
  | malformedExpression
  /-- A result is not a finite number. -/
  | numericOverflow
  /-- A number is beyond the largest numeral. -/
  | numeralTooLarge
  /-- A text is no well-formed numeral. -/
  | invalidNumeral
deriving DecidableEq

/-- The code of the faults of a kind. -/
def FaultKind.code : FaultKind → String
  | general => "CALCULATOR_ERROR"
  | invalidOperand => "INVALID_OPERAND"
  | divisionByZero => "DIVISION_BY_ZERO"
  | unknownOperator => "UNKNOWN_OPERATOR"
  | malformedExpression => "MALFORMED_EXPRESSION"
  | numericOverflow => "NUMERIC_OVERFLOW"
  | numeralTooLarge => "NUMERAL_TOO_LARGE"
  | invalidNumeral => "INVALID_NUMERAL"

/-- Whether a fault lies in a value that was to be written, so that it also counts as a bad value
where no calculation was asked for. -/
def FaultKind.blamesValue : FaultKind → Bool
  | numeralTooLarge => true
  | _ => false

/-- A fault as it is reported. -/
structure Report where
  kind : FaultKind
  message : String
  code : String
deriving DecidableEq

/-- A report with the code of its kind, unless another code is given. -/
def Report.ofMessage (kind : FaultKind) (message : String) (code : Option String) : Report :=
  ⟨kind, message, match code with
    | some code => if code = "" then kind.code else code
    | none => kind.code⟩

/-- What is wrong with a calculation. -/
inductive Fault
  /-- The expression is not a text. -/
  | notText
  /-- The expression is longer than the limit. -/
  | tooLong (limit : Int)
  | emptyExpression
  | endsWithOperator
  | startsWithOperator
  | consecutiveOperators
  /-- There is no token. -/
  | nothingToEvaluate
  /-- Two operands or two operators are neighbours, or an operator comes first. -/
  | notAlternating
  /-- There is nothing to split at. -/
  | noOperator
  | missingOperand
  /-- An operand is no literal. -/
  | invalidNumber (text : List Char)
  /-- A character is no part of an expression. -/
  | unexpectedCharacter (c : Char)
  /-- A literal is beyond all doubles. -/
  | literalOutOfRange (text : List Char)
  /-- An operation has no real result, or overflows. -/
  | noRealValue (left : Float) (op : Operator) (right : Float)
  /-- The result of an operation is not finite. -/
  | outOfRange (left : Float) (op : Operator) (right : Float)
  /-- The value of all tokens is not finite. -/
  | resultOutOfRange (value : Float)
  | divisionByZero
  | unknownOperator (symbol : List Char)
  /-- A whole number is beyond the largest numeral. -/
  | numeralTooLarge (n : Nat)
  /-- An infinity has no numeral. -/
  | infiniteNumeral (negative : Bool)
  | invalidNumeral (text : List Char)
  | invalidFraction (text : List Char)

namespace Fault

/-- The kind of a fault. -/
def kind : Fault → FaultKind
  | notText | tooLong _ | emptyExpression | endsWithOperator | startsWithOperator
  | consecutiveOperators | nothingToEvaluate | notAlternating | noOperator | missingOperand =>
    .malformedExpression
  | invalidNumber _ | unexpectedCharacter _ => .invalidOperand
  | literalOutOfRange _ | noRealValue .. | outOfRange .. | resultOutOfRange _ => .numericOverflow
  | divisionByZero => .divisionByZero
  | unknownOperator _ => .unknownOperator
  | numeralTooLarge _ | infiniteNumeral _ => .numeralTooLarge
  | invalidNumeral _ | invalidFraction _ => .invalidNumeral

/-- The code of a fault: that of its kind, except for an expression that is too long. -/
def code : Fault → String
  | tooLong _ => "TOO_LONG"
  | fault => fault.kind.code

/-- A text between quotes. -/
def quote (text : List Char) : String :=
  String.ofList (Text.quoted text)

/-- An operation on doubles, as messages write it. -/
def operation (left : Float) (op : Operator) (right : Float) : String :=
  String.ofList (Number.fullText left ++ [' ', op.char, ' '] ++ Number.fullText right)

/-- The message of a number that is beyond the largest numeral. -/
def tooLargeMessage (number : List Char) : String :=
  "Numerus nimis magnus (Number too large): " ++ String.ofList number

/-- What is reported. -/
def message : Fault → String
  | notText => "Expression must be a string"
  | tooLong limit =>
    "Input too long (>" ++ String.ofList (Number.intText limit) ++ " characters)"
  | emptyExpression => "Empty expression"
  | endsWithOperator => "Expression ends with an operator"
  | startsWithOperator => "Expression starts with an operator"
  | consecutiveOperators => "Consecutive operators"
  | nothingToEvaluate => "Nothing to evaluate"
  | notAlternating => "Operands and operators must alternate"
  | noOperator => "No operator in expression"
  | missingOperand => "Missing operand"
  | invalidNumber text => "Invalid number: " ++ quote text
  | unexpectedCharacter c => "Unexpected character " ++ quote [c] ++ " in expression"
  | literalOutOfRange text => "Number out of range: " ++ String.ofList (text.take 20) ++ "..."
  | noRealValue left op right => operation left op right ++ " has no real value"
  | outOfRange left op right => operation left op right ++ " is out of range"
  | resultOutOfRange value => String.ofList (Number.fullText value) ++ " is out of range"
  | divisionByZero => "Division by zero"
  | unknownOperator symbol => "Unknown operator: " ++ quote symbol
  | numeralTooLarge n => tooLargeMessage (Nat.toDigits 10 n)
  | infiniteNumeral negative => tooLargeMessage (if negative then "-inf" else "inf").toList
  | invalidNumeral text => "Invalid Roman numeral: " ++ quote text
  | invalidFraction text => "Invalid Roman fraction: " ++ quote text

/-- A fault as it is reported. -/
def report (fault : Fault) : Report :=
  ⟨fault.kind, fault.message, fault.code⟩

end Fault

end RomanCalc
