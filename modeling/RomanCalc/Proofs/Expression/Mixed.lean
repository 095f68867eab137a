import RomanCalc.Expression.Strategy
import RomanCalc.Proofs.Expression.Formula
import RomanCalc.Proofs.Keypad.Runs
import RomanCalc.Proofs.Numeral.Standard

/-!
# Mixed expressions

What is typed on the keypad: numerals and decimal literals with operators between them, behind a
minus sign or none (`Mixed`). A numeral stands for the literal of its value (`Operand.literal`),
so a mixed expression stands for a formula (`Mixed.formula`). The text of the expression is
resolved to the text of the formula (`Mixed.resolve_text`), which is evaluated as the tokens of
the expression (`Mixed.evaluate_resolve_text`).
-/

namespace RomanCalc.Expression

open Number (Literal Signed)

/-- An operand as it is typed: a numeral in letters of either case, or a decimal literal whose
double is finite. -/
inductive Operand
  | numeral (typed : List Char) (letters : List Letter)
      (reads : Letter.ofChars? typed = some letters)
      (wellFormed : Numeral.isWellFormed letters = true)
  | decimal (literal : Literal Char.isDigit) (finite : literal.value.isFinite = true)

namespace Operand

def text : Operand → List Char
  | numeral typed _ _ _ => typed
  | decimal literal _ => literal.text

def value : Operand → Float
  | numeral _ letters _ _ => Float.ofNat (Numeral.lettersValue letters)
  | decimal literal _ => literal.value

/-- The decimal literal that an operand is resolved to. -/
def literal : Operand → Literal Char.isDigit
  | numeral _ letters _ _ => Literal.ofNat (Numeral.lettersValue letters)
  | decimal literal _ => literal

theorem lettersValue_lt {letters : List Letter} (h : Numeral.isWellFormed letters = true) :
    Numeral.lettersValue letters < 2 ^ 53 :=
  Nat.lt_trans (Numeral.lettersValue_bounds h).2 (by decide)

theorem value_literal (x : Operand) : x.literal.value = x.value := by
  cases x with
  | numeral _ _ _ wellFormed => exact Literal.value_ofNat (lettersValue_lt wellFormed)
  | decimal _ _ => rfl

theorem isFinite_value (x : Operand) : x.value.isFinite = true := by
  cases x with
  | numeral _ _ _ wellFormed => exact Number.isFinite_ofNat (lettersValue_lt wellFormed)
  | decimal _ finite => exact finite

theorem resolve_text (x : Operand) : Keypad.resolve x.text = x.literal.text := by
  cases x with
  | numeral typed letters reads wellFormed =>
    change Keypad.resolve typed = (Literal.ofNat (Numeral.lettersValue letters)).text
    rw [Keypad.resolve, Keypad.interpret_letters reads, Keypad.settle_of_wellFormed wellFormed,
      Literal.text_ofNat]
  | decimal l _ =>
    have hplain : ∀ c ∈ l.text, isLetterChar c = false := fun c hc =>
      Keypad.isLetterChar_of_isNumberChar (isNumberChar_of_mem_text l hc)
    change Keypad.resolve l.text = l.text
    unfold Keypad.resolve
    rw [Keypad.interpret_plain hplain, Keypad.settle_nil, List.append_nil]

end Operand

/-- Operands with operators between them, and whether a minus sign stands in front: the first
operand, and each operator with the operand behind it. -/
structure Mixed where
  negative : Bool
  first : Operand
  rest : List (Operator × Operand)

namespace Mixed

/-- The text of the operators and operands behind the first operand. -/
def restText (rest : List (Operator × Operand)) : List Char :=
  rest.flatMap fun step => step.1.char :: step.2.text

def text (e : Mixed) : List Char :=
  (if e.negative then ['-'] else []) ++ e.first.text ++ restText e.rest

/-- The numbers and operators that the expression means. A minus sign in front belongs to the
first number. -/
def tokens (e : Mixed) : List Token :=
  .number (if e.negative then -e.first.value else e.first.value) ::
    e.rest.flatMap fun step => [.operator [step.1.char], .number step.2.value]

/-- The operators and literals that operators and operands are resolved to. -/
def restLiterals (rest : List (Operator × Operand)) : List (Operator × Signed Char.isDigit) :=
  rest.map fun step => (step.1, ⟨false, step.2.literal⟩)

/-- The formula that an expression is resolved to. -/
def formula (e : Mixed) : Formula :=
  ⟨⟨e.negative, e.first.literal⟩, restLiterals e.rest⟩

theorem resolve_append_restText (s : List Char) (rest : List (Operator × Operand)) :
    Keypad.resolve (s ++ restText rest) =
      Keypad.resolve s ++ Formula.restText (restLiterals rest) := by
  induction rest generalizing s with
  | nil =>
    change Keypad.resolve (s ++ []) = Keypad.resolve s ++ []
    rw [List.append_nil, List.append_nil]
  | cons step rest ih =>
    obtain ⟨op, x⟩ := step
    change Keypad.resolve (s ++ op.char :: (x.text ++ restText rest)) =
      Keypad.resolve s ++ op.char :: (x.literal.text ++ Formula.restText (restLiterals rest))
    rw [Keypad.resolve_append_operator, ih, x.resolve_text]

/-- The text of an expression is resolved to the text of its formula: the operators part the
operands, and each operand is resolved to its literal. -/
theorem resolve_text (e : Mixed) : Keypad.resolve e.text = e.formula.text := by
  obtain ⟨negative, x, rest⟩ := e
  cases negative with
  | false =>
    change Keypad.resolve (x.text ++ restText rest) =
      x.literal.text ++ Formula.restText (restLiterals rest)
    rw [resolve_append_restText, x.resolve_text]
  | true =>
    change Keypad.resolve ([] ++ Operator.subtract.char :: (x.text ++ restText rest)) =
      [] ++ Operator.subtract.char :: (x.literal.text ++ Formula.restText (restLiterals rest))
    rw [Keypad.resolve_append_operator, resolve_append_restText, x.resolve_text]
    rfl

theorem value_first (e : Mixed) :
    e.formula.first.value = if e.negative then -e.first.value else e.first.value := by
  rw [← e.first.value_literal]
  rfl

theorem tokens_formula (e : Mixed) : e.formula.tokens = e.tokens := by
  unfold Formula.tokens tokens
  rw [value_first]
  congr 1
  change Formula.restTokens (e.rest.map _) = _
  rw [Formula.restTokens, List.flatMap_map]
  congr 1
  funext step
  rw [← step.2.value_literal]
  rfl

theorem finite_formula (e : Mixed) : e.formula.Finite where
  first := by
    rw [value_first]
    split
    · rw [Number.isFinite_neg, e.first.isFinite_value]
    · exact e.first.isFinite_value
  rest := by
    intro step hstep
    obtain ⟨⟨op, x⟩, -, rfl⟩ := List.mem_map.mp hstep
    change x.literal.value.isFinite = true
    rw [x.value_literal, x.isFinite_value]

theorem unsigned_formula (e : Mixed) : e.formula.Unsigned := by
  intro step hstep
  obtain ⟨_, -, rfl⟩ := List.mem_map.mp hstep
  rfl

/-- A resolved expression within the limit is evaluated as its tokens. -/
theorem evaluate_resolve_text {e : Mixed} {limit : Int}
    (h : ((Keypad.resolve e.text).length : Int) ≤ limit) :
    Strategy.precedence.evaluate limit (.text (Keypad.resolve e.text)) =
      evaluateTokens e.tokens := by
  rw [resolve_text] at h ⊢
  rw [evaluate_formula e.unsigned_formula e.finite_formula h (removeBlanks_text e.formula),
    tokens_formula]

end Mixed

end RomanCalc.Expression
