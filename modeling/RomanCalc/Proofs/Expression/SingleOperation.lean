import RomanCalc.Proofs.Expression.Faults
import RomanCalc.Proofs.Expression.Pieces
import RomanCalc.Proofs.Expression.Precedence

/-!
# One operation under either strategy

Where there is just one operation to carry out, the strategies agree: an expression that is split
has the same outcome as a whole (`evaluate_of_split`), and an expression without blanks that is read
as a number, an operator and a number is split into these (`split_of_tokens`). Digits of other
scripts are left out, since only the operands of a split expression may have them.
-/

namespace RomanCalc.Expression

open Number (Literal Signed)

/-- Digits of no other script than the basic one. -/
def BasicDigits (e : List Char) : Prop :=
  ∀ c ∈ e, Text.isDecimalDigit c = true → c.isDigit = true

theorem basicDigits_iff {e : List Char} :
    BasicDigits e ↔ e.all (fun c => !Text.isDecimalDigit c || c.isDigit) = true := by
  unfold BasicDigits
  rw [List.all_eq_true]
  constructor
  · intro h c hc
    cases hdigit : Text.isDecimalDigit c with
    | false => rfl
    | true => simpa using h c hc hdigit
  · intro h c hc hdigit
    simpa [hdigit] using h c hc

instance (e : List Char) : Decidable (BasicDigits e) :=
  decidable_of_iff _ basicDigits_iff.symm

/-! ## The value of one operation -/

/-- One operation as a sum, a product or a power with no other members. -/
def Total.ofOperation (a b : Float) : Operator → Total
  | .add => .join (.one (.one (.one a))) ⟨['+'], rfl⟩ (.one (.one b))
  | .subtract => .join (.one (.one (.one a))) ⟨['-'], rfl⟩ (.one (.one b))
  | .multiply => .one (.join (.one (.one a)) ⟨['*'], rfl⟩ (.one b))
  | .divide => .one (.join (.one (.one a)) ⟨['/'], rfl⟩ (.one b))
  | .power => .one (.one (.join (.one a) ⟨['^'], rfl⟩ b))

theorem Total.chain_ofOperation (op : Operator) (a b : Float) :
    (ofOperation a b op).chain = ⟨a, [([op.char], b)]⟩ := by
  cases op <;> rfl

theorem Total.value_ofOperation (op : Operator) (a b : Float) :
    (ofOperation a b op).value = op.apply a b := by
  rw [← apply_char op a b]
  cases op <;> simp [ofOperation, Total.value, Row.mapM, Row.fold, Operator.char]

/-- Two numbers with an operator between them have the value of the operation. -/
theorem evaluateTokens_operation (op : Operator) (a b : Float) :
    evaluateTokens [.number a, .operator [op.char], .number b] = op.apply a b := by
  change evaluateTokens (Chain.mk a [([op.char], b)]).tokens = _
  rw [evaluateTokens_tokens, ← Total.chain_ofOperation, reduce_total, Total.value_ofOperation]
  cases h : op.apply a b with
  | error fault => rfl
  | ok value => exact if_pos (isFinite_of_operator_apply h)

/-! ## The strategies -/

variable {limit : Int} {e : List Char}

/-- An expression that is split has the same outcome as a whole. -/
theorem evaluate_of_split {parts : Binary} (hbasic : BasicDigits e)
    (h : split limit (.text e) = .ok parts) :
    Strategy.precedence.evaluate limit (.text e) = Strategy.binary.evaluate limit (.text e) := by
  obtain ⟨left, op, right, htext, hlimit, rfl, hleft, hright⟩ := operation_of_split h
  have hmem : ∀ c ∈ left.text ++ op.char :: right.text, c ∈ e := by
    intro c hc
    rw [← htext] at hc
    exact (List.mem_filter.mp hc).1
  have hleftDigits : ∀ c ∈ left.magnitude.whole ++ left.magnitude.places.getD [],
      c.isDigit = true := fun c hc =>
    hbasic c (hmem c (List.mem_append_left _
      (Signed.mem_text_of_mem_magnitude (Literal.mem_text_of_mem_digits hc))))
      (left.magnitude.digits c hc)
  have hrightDigits : ∀ c ∈ right.whole ++ right.places.getD [], c.isDigit = true := fun c hc =>
    hbasic c (hmem c (List.mem_append_right _
      (List.mem_cons_of_mem _ (Literal.mem_text_of_mem_digits hc)))) (right.digits c hc)
  let f : Formula := ⟨left.withDigits hleftDigits, [(op, ⟨false, right.withDigits hrightDigits⟩)]⟩
  have hf : Text.removeBlanks e = f.text := by
    rw [htext]
    exact congrArg (left.text ++ op.char :: ·) (List.append_nil right.text).symm
  have hunsigned : f.Unsigned := by simp [Formula.Unsigned, f]
  have hfinite : f.Finite := ⟨hleft, List.forall_mem_singleton.mpr hright⟩
  have hbinary : Strategy.binary.evaluate limit (.text e) = op.apply left.value right.value := by
    change (split limit (.text e) >>= Binary.value) = _
    rw [h]
    exact apply_char op _ _
  rw [evaluate_formula hunsigned hfinite hlimit hf, hbinary]
  exact evaluateTokens_operation op left.value right.value

/-- An expression without blanks that is read as one operation is split into its parts. -/
theorem split_of_tokens {clean symbol : List Char} {a b : Float}
    (hblank : ∀ c ∈ e, Text.isBlank c = false)
    (hclean : checkStructure limit (.text e) = .ok clean)
    (hrow : tokens clean = .ok [.number a, .operator symbol, .number b]) :
    split limit (.text e) = .ok ⟨a, symbol, b, e, none⟩ := by
  obtain ⟨text, htext, hlimit, -⟩ := checkStructure_eq_ok_iff.mp hclean
  cases htext
  obtain ⟨rfl, ⟨n, rest⟩, hunsigned, hfinite, htext, htokens⟩ :=
    exists_formula_of_checkStructure hclean hrow
  rw [Text.removeBlanks_eq_self_iff.mpr hblank] at htext
  match rest, hunsigned, hfinite, htext, htokens with
  | [(op, m)], hunsigned, hfinite, htext, htokens =>
    cases htokens
    have hdigits : ∀ c, c.isDigit = true → Text.isDecimalDigit c = true := fun _ =>
      Number.isDecimalDigit_of_isDigit
    let left : Signed Text.isDecimalDigit :=
      n.withDigits fun c hc => hdigits c (n.magnitude.digits c hc)
    let right : Literal Text.isDecimalDigit :=
      m.magnitude.withDigits fun c hc => hdigits c (m.magnitude.digits c hc)
    have hsign : m.negative = false := hunsigned (op, m) List.mem_cons_self
    have hright : m.value = right.value := by
      obtain ⟨negative, l⟩ := m
      cases hsign
      rfl
    have hoperation : e = left.text ++ op.char :: right.text := by
      rw [← htext]
      change n.text ++ op.char :: (m.text ++ []) = _
      rw [List.append_nil, text_of_unsigned hsign]
      rfl
    have hmFinite : m.value.isFinite = true := hfinite.rest (op, m) List.mem_cons_self
    rw [hright] at hmFinite ⊢
    exact split_of_operation hlimit hoperation hfinite.first hmFinite
  | [], _, _, _, htokens => cases htokens
  | _ :: _ :: _, _, _, _, htokens => cases htokens

/-- Without digits of other scripts, an expression that is split has the same outcome under either
strategy, and an expression without blanks that is read as one operation is split into its
parts. -/
theorem strategies_agree (hbasic : BasicDigits e) :
    (∀ parts, split limit (.text e) = .ok parts →
      Strategy.precedence.evaluate limit (.text e) = Strategy.binary.evaluate limit (.text e)) ∧
    ((∀ c ∈ e, Text.isBlank c = false) → ∀ clean a symbol b,
      checkStructure limit (.text e) = .ok clean →
      tokens clean = .ok [.number a, .operator symbol, .number b] →
      ∃ parts, split limit (.text e) = .ok parts ∧ parts.left = a ∧ parts.symbol = symbol ∧
        parts.right = b) := by
  constructor
  · intro parts hparts
    exact evaluate_of_split hbasic hparts
  · intro hblank clean a symbol b hclean hrow
    exact ⟨_, split_of_tokens hblank hclean hrow, rfl, rfl, rfl⟩

theorem strategies_agree_quotient :
    Strategy.precedence.evaluate 10 (.text "-7 / .5".toList) =
      Strategy.binary.evaluate 10 (.text "-7 / .5".toList) ∧
    ∃ parts, split 10 (.text "-7/.5".toList) = .ok parts ∧ parts.left = -7.0 ∧
      parts.symbol = ['/'] ∧ parts.right = 0.5 := by
  constructor
  · have hbasic : BasicDigits "-7 / .5".toList := by decide
    have hsplit : (split 10 (.text "-7 / .5".toList)).isOk = true := by decide +kernel
    cases h : split 10 (.text "-7 / .5".toList) with
    | ok parts => exact (strategies_agree hbasic).1 parts h
    | error fault =>
      rw [h] at hsplit
      cases hsplit
  · have hbasic : BasicDigits "-7/.5".toList := by decide
    have hclean : checkStructure 10 (.text "-7/.5".toList) = .ok "-7/.5".toList := rfl
    have hrow : tokens "-7/.5".toList = .ok [.number (-7.0), .operator ['/'], .number 0.5] := rfl
    have hblank : ∀ c ∈ "-7/.5".toList, Text.isBlank c = false :=
      Text.removeBlanks_eq_self_iff.mp rfl
    exact (strategies_agree hbasic).2 hblank _ _ _ _ hclean hrow

end RomanCalc.Expression
