import RomanCalc.Expression.Strategy
import RomanCalc.Proofs.Expression.Split

/-!
# The faults of each stage

Where an evaluation can go wrong. The check of an expression finds misplaced operators
(`kind_of_checkStructure`), reading tokens finds operands that are no literals or beyond all
doubles (`kind_of_tokensFrom`), and once the tokens are a chain only the arithmetic is left
(`kind_of_reduce`). No strategy has any other fault (`kind_of_evaluate`), and a value is always
finite (`isFinite_of_evaluate`).
-/

namespace RomanCalc.Expression

variable {fault : Fault} {limit : Int} {expression : Datum}

/-! ## Before the tokens -/

theorem kind_of_textWithin (h : textWithin limit expression = .error fault) :
    fault.kind = .malformedExpression := by
  cases expression with
  | text s =>
    unfold textWithin at h
    simp only at h
    split at h
    · cases h
      rfl
    · cases h
  | _ =>
    cases h
    rfl

theorem kind_of_checkStructure (h : checkStructure limit expression = .error fault) :
    fault.kind = .malformedExpression := by
  rcases bind_eq_error_iff.mp h with h | ⟨text, -, h⟩
  · exact kind_of_textWithin h
  · simp only at h
    split at h
    · cases h
      rfl
    · split at h
      · cases h
        rfl
      · split at h
        · cases h
          rfl
        · split at h
          · cases h
            rfl
          · cases h

/-! ## Reading operands -/

/-- The kinds of fault of an operand: it is no number, or none that is finite. -/
def OperandFault (fault : Fault) : Prop :=
  fault.kind = .invalidOperand ∨ fault.kind = .numericOverflow

theorem kind_of_readLiteral {text : List Char} (h : readLiteral text = .error fault) :
    OperandFault fault := by
  unfold readLiteral at h
  split at h
  · simp only at h
    split at h
    · cases h
    · cases h
      exact .inr rfl
  · cases h
    exact .inl rfl

theorem kind_of_closeLiteral {literal : List Char} (h : closeLiteral literal = .error fault) :
    OperandFault fault := by
  unfold closeLiteral at h
  split at h
  · cases h
  · exact kind_of_readLiteral (map_eq_error_iff.mp h)

theorem kind_of_tokensFrom {literal text : List Char} {atOperand : Bool}
    (h : tokensFrom literal atOperand text = .error fault) : OperandFault fault := by
  induction text generalizing literal atOperand with
  | nil => exact kind_of_closeLiteral h
  | cons c text ih =>
    rw [tokensFrom] at h
    split at h
    · exact ih h
    · split at h
      · exact ih h
      · split at h
        · split at h
          · exact ih h
          · rcases bind_eq_error_iff.mp h with h | ⟨before, -, h⟩
            · exact kind_of_closeLiteral h
            · rcases bind_eq_error_iff.mp h with h | ⟨after, -, h⟩
              · exact ih h
              · cases h
        · cases h
          exact .inl rfl

/-! ## Applying operators -/

/-- The kinds of fault of an operation: it has no finite result. -/
def ArithmeticFault (fault : Fault) : Prop :=
  fault.kind = .numericOverflow ∨ fault.kind = .divisionByZero

theorem kind_of_operator_apply {op : Operator} {left right : Float}
    (h : op.apply left right = .error fault) : ArithmeticFault fault := by
  unfold Operator.apply at h
  split at h
  · split at h
    · cases h
    · cases h
      exact .inl rfl
  · cases h
    exact .inr rfl
  · cases h
    exact .inl rfl

/-- The value of an operation is its outcome, if that is finite. -/
theorem operator_apply_eq_ok_iff {op : Operator} {left right value : Float} :
    op.apply left right = .ok value ↔
      op.combine left right = .ok (some value) ∧ value.isFinite = true := by
  unfold Operator.apply
  rcases op.combine left right with error | _ | result
  · simp
  · simp
  · simp only [Except.ok.injEq, Option.some.injEq]
    constructor
    · intro h
      split at h
      · rename_i hfinite
        cases h
        exact ⟨rfl, hfinite⟩
      · cases h
    · rintro ⟨rfl, hfinite⟩
      exact if_pos hfinite

theorem isFinite_of_operator_apply {op : Operator} {left right value : Float}
    (h : op.apply left right = .ok value) : value.isFinite = true :=
  (operator_apply_eq_ok_iff.mp h).2

theorem ofText?_eq_some_iff {symbol : List Char} {op : Operator} :
    Operator.ofText? symbol = some op ↔ symbol = [op.char] := by
  constructor
  · intro h
    unfold Operator.ofText? at h
    split at h
    · rw [Operator.ofChar?_eq_some_iff.mp h]
    · cases h
  · rintro rfl
    exact Operator.ofChar?_char op

theorem apply_char (op : Operator) (left right : Float) :
    apply left [op.char] right = op.apply left right := by
  unfold apply
  rw [ofText?_eq_some_iff.mpr rfl]

/-- A text that writes an operator has the value of the operator, and no other text has any. -/
theorem apply_eq_ok_iff {a b value : Float} {symbol : List Char} :
    apply a symbol b = .ok value ↔
      ∃ op : Operator, symbol = [op.char] ∧ op.apply a b = .ok value := by
  constructor
  · intro h
    unfold apply at h
    split at h
    · rename_i op hop
      exact ⟨op, ofText?_eq_some_iff.mp hop, h⟩
    · cases h
  · rintro ⟨op, rfl, h⟩
    rw [apply_char, h]

/-- One pass over a chain fails only where an operation does. -/
theorem kind_of_reduceFrom {pass : Pass} {first : Float} {rest : List (List Char × Float)}
    (h : reduceFrom pass first rest = .error fault) : ArithmeticFault fault := by
  induction rest generalizing first with
  | nil => cases h
  | cons step rest ih =>
    obtain ⟨symbol, value⟩ := step
    rw [reduceFrom] at h
    split at h
    · rcases bind_eq_error_iff.mp h with h | ⟨result, -, h⟩
      · exact kind_of_operator_apply h
      · exact ih h
    · rcases bind_eq_error_iff.mp h with h | ⟨chain, -, h⟩
      · exact ih h
      · cases h

theorem kind_of_reduce {chain : Chain} {run : List Pass}
    (h : run.foldlM Chain.reduce chain = .error fault) : ArithmeticFault fault := by
  induction run generalizing chain with
  | nil => cases h
  | cons pass run ih =>
    rw [List.foldlM_cons] at h
    rcases bind_eq_error_iff.mp h with h | ⟨reduced, -, h⟩
    · exact kind_of_reduceFrom h
    · exact ih h

/-- A row of tokens that is a chain fails only where an operation does. -/
theorem kind_of_evaluateTokens {row : List Token} {chain : Chain}
    (hchain : Chain.ofTokens row = .ok chain) (h : evaluateTokens row = .error fault) :
    ArithmeticFault fault := by
  unfold evaluateTokens at h
  rw [hchain] at h
  rcases bind_eq_error_iff.mp h with h | ⟨reduced, -, h⟩
  · cases h
  · rcases bind_eq_error_iff.mp h with h | ⟨reduced, -, h⟩
    · exact kind_of_reduce h
    · split at h
      · cases h
      · cases h
        exact .inl rfl

theorem kind_of_chainRest {row : List Token} (h : chainRest row = .error fault) :
    fault.kind = .malformedExpression := by
  fun_induction chainRest row with
  | case1 => cases h
  | case2 =>
    cases h
    rfl
  | case3 symbol value rest ih =>
    rcases bind_eq_error_iff.mp h with h | ⟨more, -, h⟩
    · exact ih h
    · cases h
  | case4 =>
    cases h
    rfl

theorem kind_of_chain_ofTokens {row : List Token} (h : Chain.ofTokens row = .error fault) :
    fault.kind = .malformedExpression := by
  unfold Chain.ofTokens at h
  split at h
  · cases h
    rfl
  · exact kind_of_chainRest (map_eq_error_iff.mp h)
  · cases h
    rfl

/-! ## Splitting -/

theorem kind_of_splitText {clean : List Char} (h : splitText clean = .error fault) :
    fault.kind = .malformedExpression ∨ OperandFault fault := by
  unfold splitText at h
  split at h
  · cases h
    exact .inl rfl
  · simp only at h
    split at h
    · cases h
      exact .inl rfl
    · rcases bind_eq_error_iff.mp h with h | ⟨a, -, h⟩
      · exact .inr (kind_of_readLiteral h)
      · rcases bind_eq_error_iff.mp h with h | ⟨b, -, h⟩
        · exact .inr (kind_of_readLiteral h)
        · cases h

theorem kind_of_split (h : split limit expression = .error fault) :
    fault.kind = .malformedExpression ∨ OperandFault fault := by
  rcases bind_eq_error_iff.mp h with h | ⟨text, -, h⟩
  · exact .inl (kind_of_textWithin h)
  · simp only at h
    split at h
    · cases h
      exact .inl rfl
    · exact kind_of_splitText h

/-! ## The strategies -/

/-- The kinds of fault of an evaluation. -/
def evaluationFaults : List FaultKind :=
  [.malformedExpression, .invalidOperand, .divisionByZero, .numericOverflow]

theorem mem_evaluationFaults_of_operand (h : OperandFault fault) :
    fault.kind ∈ evaluationFaults := by
  rcases h with h | h <;> simp [evaluationFaults, h]

theorem mem_evaluationFaults_of_arithmetic (h : ArithmeticFault fault) :
    fault.kind ∈ evaluationFaults := by
  rcases h with h | h <;> simp [evaluationFaults, h]

/-- The value of a split expression is that of its operator. -/
theorem value_of_split {parts : Binary} (h : split limit expression = .ok parts) :
    ∃ op : Operator, parts.symbol = [op.char] ∧
      parts.value = op.apply parts.left parts.right := by
  obtain ⟨text, htext, -⟩ := bind_eq_ok_iff.mp h
  obtain ⟨rfl, -⟩ := textWithin_eq_ok_iff.mp htext
  obtain ⟨left, op, right, -, -, rfl, -⟩ := operation_of_split h
  exact ⟨op, rfl, apply_char op _ _⟩

/-- An evaluation has no fault of another kind. -/
theorem kind_of_evaluate {strategy : Strategy}
    (h : strategy.evaluate limit expression = .error fault) : fault.kind ∈ evaluationFaults := by
  have hmalformed : FaultKind.malformedExpression ∈ evaluationFaults := List.mem_cons_self
  cases strategy with
  | precedence =>
    rcases bind_eq_error_iff.mp h with h | ⟨clean, -, h⟩
    · rwa [kind_of_checkStructure h]
    · rcases bind_eq_error_iff.mp h with h | ⟨row, -, h⟩
      · exact mem_evaluationFaults_of_operand (kind_of_tokensFrom h)
      · cases hchain : Chain.ofTokens row with
        | error other =>
          have hother : other = fault := by
            rw [evaluateTokens, hchain] at h
            exact Except.error.inj h
          rwa [← hother, kind_of_chain_ofTokens hchain]
        | ok chain => exact mem_evaluationFaults_of_arithmetic (kind_of_evaluateTokens hchain h)
  | binary =>
    rcases bind_eq_error_iff.mp h with h | ⟨parts, hparts, h⟩
    · rcases kind_of_split h with hkind | hoperand
      · rwa [hkind]
      · exact mem_evaluationFaults_of_operand hoperand
    · obtain ⟨op, -, hvalue⟩ := value_of_split hparts
      rw [hvalue] at h
      exact mem_evaluationFaults_of_arithmetic (kind_of_operator_apply h)

/-- The value of an expression is finite. -/
theorem isFinite_of_evaluate {strategy : Strategy} {value : Float}
    (h : strategy.evaluate limit expression = .ok value) : value.isFinite = true := by
  cases strategy with
  | precedence =>
    obtain ⟨clean, -, h⟩ := bind_eq_ok_iff.mp h
    obtain ⟨row, -, h⟩ := bind_eq_ok_iff.mp h
    obtain ⟨chain, -, h⟩ := bind_eq_ok_iff.mp h
    obtain ⟨reduced, -, h⟩ := bind_eq_ok_iff.mp h
    split at h
    · rename_i hfinite
      cases h
      exact hfinite
    · cases h
  | binary =>
    obtain ⟨parts, hparts, h⟩ := bind_eq_ok_iff.mp h
    obtain ⟨op, -, hvalue⟩ := value_of_split hparts
    rw [hvalue] at h
    exact isFinite_of_operator_apply h

end RomanCalc.Expression
