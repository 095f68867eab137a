import RomanCalc.Number.Power

/-!
# Operators

The five operations of the calculator, the characters that write them, their signs on the
display and their Latin names.
-/

namespace RomanCalc

/-- An operation on two numbers. -/
inductive Operator
  | add
  | subtract
  | multiply
  | divide
  | power
deriving DecidableEq

namespace Operator

/-- The character that writes an operator. -/
def char : Operator → Char
  | add => '+'
  | subtract => '-'
  | multiply => '*'
  | divide => '/'
  | power => '^'

/-- The operator that a character writes. -/
def ofChar? : Char → Option Operator
  | '+' => some add
  | '-' => some subtract
  | '*' => some multiply
  | '/' => some divide
  | '^' => some power
  | _ => none

/-- The operator that a text writes. -/
def ofText? : List Char → Option Operator
  | [c] => ofChar? c
  | _ => none

/-- The sign of an operator on the display. -/
def sign : Operator → List Char
  | add => ['+']
  | subtract => ['−']
  | multiply => ['×']
  | divide => ['÷']
  | power => ['^']

/-- The Latin name of an operation. -/
def latinName : Operator → List Char
  | add => "addere".toList
  | subtract => "subtrahere".toList
  | multiply => "multiplicare".toList
  | divide => "dividere".toList
  | power => "potentia".toList

/-- The sign of whatever a text writes; a text that writes no operator is its own sign. -/
def signOf (symbol : List Char) : List Char :=
  ((ofText? symbol).map sign).getD symbol

/-- The Latin name of whatever a text writes; a text that writes no operator is its own name. -/
def nameOf (symbol : List Char) : List Char :=
  ((ofText? symbol).map latinName).getD symbol

/-- The outcome of an operation: nothing for a division by zero. -/
def combine : Operator → Float → Float → Except Number.PowerError (Option Float)
  | add, a, b => .ok (some (a + b))
  | subtract, a, b => .ok (some (a - b))
  | multiply, a, b => .ok (some (a * b))
  | divide, a, b => .ok (if b == 0.0 then none else some (a / b))
  | power, a, b => (Number.power a b).map some

/-- An operator is read back from its character. -/
@[simp] theorem ofChar?_char (op : Operator) : ofChar? op.char = some op := by
  cases op <;> rfl

/-- Only its own character writes an operator. -/
theorem ofChar?_eq_some_iff {c : Char} {op : Operator} : ofChar? c = some op ↔ c = op.char := by
  constructor
  · intro h
    unfold ofChar? at h
    split at h <;> simp at h <;> subst h <;> rfl
  · rintro rfl
    exact ofChar?_char op

end Operator

/-- Whether a character writes an operator. -/
def isOperatorChar (c : Char) : Bool :=
  (Operator.ofChar? c).isSome

end RomanCalc
