import RomanCalc.Expression.Strategy
import RomanCalc.Proofs.Expression.Structure
import RomanCalc.Proofs.Number.Literal

/-!
# Formulas

A formula is what the tokens of an expression in decimal digits stand for: literals with
operators between them (`Formula`). Its text is read as its tokens (`tokens_text`), and where
only the first literal has a minus sign the operators of the text are well placed
(`wellPlaced_text`), so the text is evaluated as these tokens (`evaluate_formula`). In a text that
has tokens at all, every character that is no blank belongs to a number or is an operator
(`isNumberChar_or_isOperatorChar_of_tokensFrom`).
-/

namespace RomanCalc.Expression

open Number (Literal Signed)

/-- Literals with operators between them: the first literal, and each operator with the literal
behind it. -/
structure Formula where
  first : Signed Char.isDigit
  rest : List (Operator × Signed Char.isDigit)

namespace Formula

/-- The text of the operators and literals behind the first literal. -/
def restText (rest : List (Operator × Signed Char.isDigit)) : List Char :=
  rest.flatMap fun step => step.1.char :: step.2.text

def text (f : Formula) : List Char :=
  f.first.text ++ restText f.rest

/-- The tokens of the operators and literals behind the first literal. -/
def restTokens (rest : List (Operator × Signed Char.isDigit)) : List Token :=
  rest.flatMap fun step => [.operator [step.1.char], .number step.2.value]

def tokens (f : Formula) : List Token :=
  .number f.first.value :: restTokens f.rest

/-- Every literal of the formula has a finite double. -/
structure Finite (f : Formula) : Prop where
  first : f.first.value.isFinite = true
  rest : ∀ step ∈ f.rest, step.2.value.isFinite = true

end Formula

/-! ## The characters of literals -/

theorem isNumberChar_of_mem_text (l : Literal Char.isDigit) {c : Char} (h : c ∈ l.text) :
    Keypad.isNumberChar c = true := by
  simpa [Keypad.isNumberChar] using Literal.mem_text h

theorem isBlank_of_isNumberChar {c : Char} (h : Keypad.isNumberChar c = true) :
    Text.isBlank c = false := by
  have hrange : 46 ≤ c.toNat ∧ c.toNat ≤ 57 := by
    simp only [Keypad.isNumberChar, Char.isDigit, Bool.or_eq_true, Bool.and_eq_true,
      decide_eq_true_eq, UInt32.le_iff_toNat_le] at h
    rcases h with h | rfl
    · change 48 ≤ c.toNat ∧ c.toNat ≤ 57 at h
      omega
    · decide
  simp only [Text.isBlank, Text.inRanges, Text.blankRanges, List.any_cons, List.any_nil,
    Bool.or_eq_false_iff, Bool.and_eq_false_iff, decide_eq_false_iff_not, and_true]
  omega

theorem isNumberChar_or_isOperatorChar_of_mem_signed {n : Signed Char.isDigit} {c : Char}
    (h : c ∈ n.text) : Keypad.isNumberChar c = true ∨ isOperatorChar c = true := by
  rcases Signed.mem_text h with rfl | h
  · exact .inr rfl
  · exact .inl (isNumberChar_of_mem_text n.magnitude h)

/-- A formula is written without blanks. -/
theorem removeBlanks_text (f : Formula) : Text.removeBlanks f.text = f.text := by
  apply List.filter_eq_self.mpr
  intro c hc
  have hchar : Keypad.isNumberChar c = true ∨ isOperatorChar c = true := by
    rcases List.mem_append.mp hc with hfirst | hrest
    · exact isNumberChar_or_isOperatorChar_of_mem_signed hfirst
    · obtain ⟨step, -, hstep⟩ := List.mem_flatMap.mp hrest
      rcases List.mem_cons.mp hstep with rfl | hstep
      · exact .inr (isOperatorChar_char step.1)
      · exact isNumberChar_or_isOperatorChar_of_mem_signed hstep
  rcases hchar with h | h
  · rw [isBlank_of_isNumberChar h]
    rfl
  · rw [isBlank_of_isOperatorChar h]
    rfl

/-! ## Reading tokens -/

variable {literal : List Char} {atOperand : Bool} {c : Char}

theorem tokensFrom_number (h : Keypad.isNumberChar c = true) (t : List Char) :
    tokensFrom literal atOperand (c :: t) = tokensFrom (literal ++ [c]) false t := by
  rw [tokensFrom, if_neg (by simp [isBlank_of_isNumberChar h]), if_pos h]

theorem tokensFrom_sign (t : List Char) :
    tokensFrom literal true ('-' :: t) = tokensFrom (literal ++ ['-']) true t := rfl

/-- Where no sign is expected, an operator closes the literal before it. -/
theorem tokensFrom_operator (op : Operator) (t : List Char) :
    tokensFrom literal false (op.char :: t) = (do
      let before ← closeLiteral literal
      let after ← tokensFrom [] true t
      pure (before ++ .operator [op.char] :: after)) := by
  cases op <;> rfl

theorem tokensFrom_number_append {s : List Char} (hne : s ≠ [])
    (h : ∀ d ∈ s, Keypad.isNumberChar d = true) (t : List Char) :
    tokensFrom literal atOperand (s ++ t) = tokensFrom (literal ++ s) false t := by
  induction s generalizing literal atOperand with
  | nil => exact absurd rfl hne
  | cons d s ih =>
    rw [List.forall_mem_cons] at h
    rw [List.cons_append, tokensFrom_number h.1]
    cases s with
    | nil => rfl
    | cons e s => rw [ih (List.cons_ne_nil e s) h.2, List.append_assoc, List.singleton_append]

/-- Where an operand is expected, the text of a literal is collected as it stands. -/
theorem tokensFrom_signed_append (n : Signed Char.isDigit) (t : List Char) :
    tokensFrom [] true (n.text ++ t) = tokensFrom n.text false t := by
  obtain ⟨negative, l⟩ := n
  have hl := fun d => isNumberChar_of_mem_text l (c := d)
  cases negative with
  | false => exact tokensFrom_number_append l.text_ne_nil hl t
  | true =>
    change tokensFrom [] true ('-' :: (l.text ++ t)) = tokensFrom ('-' :: l.text) false t
    rw [tokensFrom_sign, tokensFrom_number_append l.text_ne_nil hl]
    rfl

theorem readLiteral_text (n : Signed Char.isDigit) :
    readLiteral n.text =
      if n.value.isFinite then .ok n.value else .error (.literalOutOfRange n.text) := by
  unfold readLiteral
  rw [Number.literal?_text (fun _ => Number.isDecimalDigit_of_isDigit)]
  rfl

theorem closeLiteral_text {n : Signed Char.isDigit} (h : n.value.isFinite = true) :
    closeLiteral n.text = .ok [.number n.value] := by
  have hne : n.text.isEmpty = false := by simpa using n.text_ne_nil
  unfold closeLiteral
  rw [hne, readLiteral_text, if_pos h]
  rfl

theorem tokensFrom_rest {n : Signed Char.isDigit} (hn : n.value.isFinite = true)
    {rest : List (Operator × Signed Char.isDigit)}
    (h : ∀ step ∈ rest, step.2.value.isFinite = true) :
    tokensFrom n.text false (Formula.restText rest) =
      .ok (.number n.value :: Formula.restTokens rest) := by
  induction rest generalizing n with
  | nil => exact closeLiteral_text hn
  | cons step rest ih =>
    obtain ⟨op, m⟩ := step
    rw [List.forall_mem_cons] at h
    change tokensFrom n.text false (op.char :: (m.text ++ Formula.restText rest)) = _
    rw [tokensFrom_operator, tokensFrom_signed_append, ih h.1 h.2, closeLiteral_text hn]
    rfl

/-- The text of a formula is read as its tokens. -/
theorem tokens_text {f : Formula} (h : f.Finite) : tokens f.text = .ok f.tokens := by
  unfold tokens Formula.text
  rw [tokensFrom_signed_append, tokensFrom_rest h.first h.rest]
  rfl

/-- A text that has tokens is made of numbers and operators, apart from blanks. -/
theorem isNumberChar_or_isOperatorChar_of_tokensFrom {text : List Char} {row : List Token}
    (h : tokensFrom literal atOperand text = .ok row) :
    ∀ d ∈ text, Text.isBlank d = false →
      Keypad.isNumberChar d = true ∨ isOperatorChar d = true := by
  induction text generalizing literal atOperand row with
  | nil => simp
  | cons c text ih =>
    rw [tokensFrom] at h
    split at h
    · rename_i hblank
      rw [List.forall_mem_cons]
      exact ⟨fun hc => by simp [hc] at hblank, ih h⟩
    · split at h
      · rename_i hnumber
        exact List.forall_mem_cons.mpr ⟨fun _ => .inl hnumber, ih h⟩
      · split at h
        · rename_i hop
          have htext : ∃ literal atOperand row, tokensFrom literal atOperand text = .ok row := by
            split at h
            · exact ⟨_, _, _, h⟩
            · obtain ⟨_, -, hafter⟩ := bind_eq_ok_iff.mp h
              obtain ⟨after, hafter, -⟩ := bind_eq_ok_iff.mp hafter
              exact ⟨_, _, _, hafter⟩
          obtain ⟨_, _, _, htext⟩ := htext
          exact List.forall_mem_cons.mpr ⟨fun _ => .inr hop, ih htext⟩
        · cases h

/-! ## Where the operators of a formula stand -/

/-- Only the first literal of the formula may have a minus sign. -/
def Formula.Unsigned (f : Formula) : Prop :=
  ∀ step ∈ f.rest, step.2.negative = false

theorem isOperatorChar_of_mem_text (l : Literal Char.isDigit) :
    ∀ c ∈ l.text, isOperatorChar c = false := fun _ h =>
  isOperatorChar_of_isNumberChar (isNumberChar_of_mem_text l h)

theorem text_of_unsigned {n : Signed Char.isDigit} (h : n.negative = false) :
    n.text = n.magnitude.text := by
  simp [Signed.text, h]

theorem hasAdjacentOperators_restText {rest : List (Operator × Signed Char.isDigit)}
    (h : ∀ step ∈ rest, step.2.negative = false) :
    hasAdjacentOperators (Formula.restText rest) = false := by
  induction rest with
  | nil => rfl
  | cons step rest ih =>
    obtain ⟨op, n⟩ := step
    rw [List.forall_mem_cons] at h
    change hasAdjacentOperators (op.char :: (n.text ++ Formula.restText rest)) = false
    have hplain := isOperatorChar_of_mem_text n.magnitude
    obtain ⟨c, more, hc⟩ := List.exists_cons_of_ne_nil n.magnitude.text_ne_nil
    rw [text_of_unsigned h.1]
    have hrest : hasAdjacentOperators (n.magnitude.text ++ Formula.restText rest) = false := by
      rw [hasAdjacentOperators_append hplain, ih h.2]
    rw [hc] at hplain hrest ⊢
    rw [List.cons_append, hasAdjacentOperators_cons_cons (hplain c List.mem_cons_self)]
    exact hrest

/-- Behind a literal the operators and literals of a formula end in a literal again. -/
theorem exists_literal_end {s : List Char} {l : Literal Char.isDigit}
    (rest : List (Operator × Signed Char.isDigit)) :
    ∃ before, ∃ last : Literal Char.isDigit,
      s ++ l.text ++ Formula.restText rest = before ++ last.text := by
  induction rest generalizing s l with
  | nil => exact ⟨s, l, List.append_nil _⟩
  | cons step rest ih =>
    obtain ⟨op, negative, m⟩ := step
    cases negative with
    | false =>
      obtain ⟨before, last, hlast⟩ := ih (s := s ++ l.text ++ [op.char]) (l := m)
      exact ⟨before, last, by simpa [Formula.restText, Signed.text] using hlast⟩
    | true =>
      obtain ⟨before, last, hlast⟩ := ih (s := s ++ l.text ++ [op.char, '-']) (l := m)
      exact ⟨before, last, by simpa [Formula.restText, Signed.text] using hlast⟩

theorem getLast?_append_text (s : List Char) (l : Literal Char.isDigit) :
    (s ++ l.text).getLast?.any isOperatorChar = false := by
  have hlast := List.getLast_mem l.text_ne_nil
  rw [List.getLast?_append, List.getLast?_eq_some_getLast l.text_ne_nil, Option.some_or,
    Option.any_some]
  exact isOperatorChar_of_mem_text l _ hlast

theorem wellPlaced_text {f : Formula} (h : f.Unsigned) : WellPlaced f.text := by
  obtain ⟨⟨negative, l⟩, rest⟩ := f
  obtain ⟨c, more, hc⟩ := List.exists_cons_of_ne_nil l.text_ne_nil
  have hplain := isOperatorChar_of_mem_text l
  have hapart : hasAdjacentOperators (l.text ++ Formula.restText rest) = false := by
    rw [hasAdjacentOperators_append hplain, hasAdjacentOperators_restText h]
  have hfirst : isOperatorChar c = false := hplain c (by rw [hc]; exact List.mem_cons_self)
  cases negative with
  | false =>
    obtain ⟨before, last, hlast⟩ := exists_literal_end (s := []) (l := l) rest
    change WellPlaced (l.text ++ Formula.restText rest)
    refine ⟨?_, ?_, ?_, hapart⟩
    · simp [hc]
    · rw [List.nil_append] at hlast
      rw [hlast, getLast?_append_text]
    · simp [hc, isLeadingFault, hfirst]
  | true =>
    obtain ⟨before, last, hlast⟩ := exists_literal_end (s := ['-']) (l := l) rest
    change WellPlaced ('-' :: (l.text ++ Formula.restText rest))
    refine ⟨List.cons_ne_nil _ _, ?_, rfl, ?_⟩
    · rw [List.singleton_append, List.cons_append] at hlast
      rw [hlast, getLast?_append_text]
    · rw [hc, List.cons_append] at hapart ⊢
      rw [hasAdjacentOperators_cons_cons hfirst]
      exact hapart

/-! ## Evaluating -/

variable {limit : Int} {e : List Char}

/-- An expression that passes the check is evaluated as its tokens. -/
theorem evaluate_of_wellPlaced (hlimit : (e.length : Int) ≤ limit)
    (h : WellPlaced (Text.removeBlanks e)) :
    Strategy.precedence.evaluate limit (.text e) =
      tokens (Text.removeBlanks e) >>= evaluateTokens := by
  have hcheck : checkStructure limit (.text e) = .ok (Text.removeBlanks e) :=
    checkStructure_eq_ok_iff.mpr ⟨e, rfl, hlimit, rfl, h⟩
  change (checkStructure limit (.text e) >>= fun clean => tokens clean >>= evaluateTokens) = _
  rw [hcheck]
  rfl

theorem evaluate_formula {f : Formula} (hunsigned : f.Unsigned) (hfinite : f.Finite)
    (hlimit : (e.length : Int) ≤ limit) (htext : Text.removeBlanks e = f.text) :
    Strategy.precedence.evaluate limit (.text e) = evaluateTokens f.tokens := by
  have hplaced : WellPlaced (Text.removeBlanks e) := htext ▸ wellPlaced_text hunsigned
  rw [evaluate_of_wellPlaced hlimit hplaced, htext, tokens_text hfinite]
  rfl

end RomanCalc.Expression
