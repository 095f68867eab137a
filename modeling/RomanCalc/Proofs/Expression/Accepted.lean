import RomanCalc.Expression.Strategy
import RomanCalc.Proofs.Expression.Formula
import RomanCalc.Proofs.Expression.Split

/-!
# Texts that have a value

A text has a value only if it is made of digits, points and operators, apart from blanks
(`accepts_of_evaluate`). The strategies differ in the digits that they read
(`Strategy.isDigit`): a text as a whole is read character by character, and a text with one
operator is cut at it and its operands are read as literals.
-/

namespace RomanCalc.Expression

open Number (Literal Signed)

/-- The digits that a strategy reads: those of every script only in the operands of one
operator. -/
def Strategy.isDigit : Strategy → Char → Bool
  | precedence => Char.isDigit
  | binary => Text.isDecimalDigit

/-- Whether a character may stand in a text that has a value. -/
def Strategy.accepts (strategy : Strategy) (c : Char) : Bool :=
  c = '.' || isOperatorChar c || strategy.isDigit c

/-- No strategy reads letters. -/
theorem accepts_letter (strategy : Strategy) (l : Letter) : strategy.accepts l.char = false := by
  cases strategy <;> cases l <;> decide

theorem isBlank_letter (l : Letter) : Text.isBlank l.char = false := by
  cases l <;> decide

/-! ## The characters of texts that have a value -/

theorem accepts_of_mem_literal {l : Literal Text.isDecimalDigit} {c : Char} (h : c ∈ l.text) :
    Strategy.binary.accepts c = true := by
  rcases Literal.mem_text h with hdigit | rfl
  · simp [Strategy.accepts, Strategy.isDigit, hdigit]
  · rfl

theorem accepts_of_mem_signed {n : Signed Text.isDecimalDigit} {c : Char} (h : c ∈ n.text) :
    Strategy.binary.accepts c = true := by
  rcases Signed.mem_text h with rfl | h
  · rfl
  · exact accepts_of_mem_literal h

theorem accepts_of_split {limit : Int} {text : List Char} {parts : Binary}
    (h : split limit (.text text) = .ok parts) :
    ∀ c ∈ text, Text.isBlank c = false → Strategy.binary.accepts c = true := by
  obtain ⟨left, op, right, htext, -⟩ := operation_of_split h
  intro c hc hblank
  have hmem : c ∈ Text.removeBlanks text := List.mem_filter.mpr ⟨hc, by simp [hblank]⟩
  rw [htext] at hmem
  rcases List.mem_append.mp hmem with hleft | hmem
  · exact accepts_of_mem_signed hleft
  · rcases List.mem_cons.mp hmem with rfl | hright
    · simp [Strategy.accepts, isOperatorChar_char]
    · exact accepts_of_mem_literal hright

theorem accepts_of_tokens {text : List Char} {row : List Token} (h : tokens text = .ok row) :
    ∀ c ∈ text, Text.isBlank c = false → Strategy.precedence.accepts c = true := by
  intro c hc hblank
  rcases isNumberChar_or_isOperatorChar_of_tokensFrom h c hc hblank with hnumber | hop
  · rcases Bool.or_eq_true_iff.mp hnumber with hdigit | hpoint
    · simp [Strategy.accepts, Strategy.isDigit, hdigit]
    · simp [Strategy.accepts, of_decide_eq_true hpoint]
  · simp [Strategy.accepts, hop]

/-- A text has a value only if the strategy accepts all its characters but the blanks. -/
theorem accepts_of_evaluate {strategy : Strategy} {limit : Int} {text : List Char} {value : Float}
    (h : strategy.evaluate limit (.text text) = .ok value) :
    ∀ c ∈ text, Text.isBlank c = false → strategy.accepts c = true := by
  intro c hc hblank
  cases strategy with
  | precedence =>
    obtain ⟨clean, hclean, h⟩ := bind_eq_ok_iff.mp h
    obtain ⟨row, hrow, -⟩ := bind_eq_ok_iff.mp h
    obtain ⟨s, hs, -, rfl, -⟩ := checkStructure_eq_ok_iff.mp hclean
    cases hs
    have hmem : c ∈ Text.removeBlanks text := List.mem_filter.mpr ⟨hc, by simp [hblank]⟩
    exact accepts_of_tokens hrow c hmem hblank
  | binary =>
    obtain ⟨parts, hparts, -⟩ := bind_eq_ok_iff.mp h
    exact accepts_of_split hparts c hc hblank

end RomanCalc.Expression
